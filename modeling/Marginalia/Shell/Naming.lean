import Marginalia.Path
import Marginalia.Shell.Printing
import Marginalia.Shell.Request

/-!
# Programs about names and words

The programs that take paths apart, print their arguments, name the system, or do
nothing for a while.
-/

namespace Marginalia.Shell.Utility

/-! ## Paths -/

/-- A path without the slashes at its end; of slashes alone, one is left. -/
def unslashed (path : Text) : Text :=
  if path.all Path.isSlash then path.take 1 else Text.dropEndWhile Path.isSlash path

/-- The last component of a path, without an ending unless it is nothing else. -/
def lastName (ending : Text) (path : Text) : Text :=
  let path := unslashed path
  let name := if path = ['/'] then path else Path.name path
  if name = ending then name else (Text.dropEnd? ending name).getD name

/-- The last components of paths. -/
def basename (request : Request) : Effect :=
  withOptions request "+as:z" [("multiple", 'a'), ("suffix=", 's'), ("zero", 'z')]
    fun found operands =>
      let show_ := fun (ending : Text) (paths : List Text) =>
        ({ written := [(1, endedBy (lineMark found) (paths.map (lastName ending)))] } : Effect)
      if operands.isEmpty then refuseUsage request "missing operand".toList 1
      else if has found 'a' || has found 's' then
        show_ ((valueOf? found 's').getD []) operands
      else
        match operands with
        | _ :: _ :: extra :: _ => refuseUsage request ("extra operand ".toList ++ quoted extra) 1
        | path :: rest => show_ (rest.headD []) [path]
        | [] => show_ [] []

/-- What precedes the last components of paths. -/
def dirname (request : Request) : Effect :=
  withOptions request "+z" [("zero", 'z')] fun found operands =>
    if operands.isEmpty then refuseUsage request "missing operand".toList 1
    else
      let names := operands.map fun path =>
        let path := unslashed path
        let parent := if path = ['/'] then path else Path.parent path
        if parent = [] then ['.'] else parent
      { written := [(1, endedBy (lineMark found) names)] }

/-! ## Echo -/

/-- The value of up to two hexadecimal digits at the start of a text, and their number. -/
def hexadecimal (text : Text) : Char × Nat :=
  let digits := (text.take 2).takeWhile fun c => Arithmetic.digitValue c < 16
  (.ofNat (Arithmetic.ofDigits 16 digits), digits.length)

/-- A text with its escapes carried out, of which `skip` characters are done with. -/
def unescape (skip : Nat) : Text → Text × Bool
  | [] => ([], false)
  | c :: text =>
    match skip with
    | skip + 1 => unescape skip text
    | 0 =>
      let go := fun (meant : Char) (size : Nat) =>
        let (rest, stopped) := unescape size text
        (meant :: rest, stopped)
      if c != '\\' then go c 0
      else
        match text with
        | 'c' :: _ => ([], true)
        | 'e' :: _ => go '\x1b' 1
        | '0' :: digits =>
          if digits.head?.any Printing.isOctal then
            go (Printing.octal digits).1 ((Printing.octal digits).2 + 1)
          else go '\x00' 1
        | 'x' :: digits =>
          if (hexadecimal digits).2 = 0 then go '\\' 0
          else go (hexadecimal digits).1 ((hexadecimal digits).2 + 1)
        | text => go (Printing.escape text).1 (Printing.escape text).2

/-- Whether an argument consists of options of the echo program. -/
def isEchoOption : Text → Bool
  | '-' :: c :: letters => (c :: letters).all fun c => c == 'n' || c == 'e' || c == 'E'
  | _ => false

/-- Prints arguments. -/
def echo (request : Request) : Effect :=
  let given := (request.arguments.takeWhile isEchoOption).flatten.filter (· != '-')
  let text := List.intercalate [' '] (request.arguments.dropWhile isEchoOption)
  let escapes := (given.reverse.find? (· != 'n')) = some 'e'
  let (text, stopped) := if escapes then unescape 0 text else (text, false)
  { written := [(1, if stopped || given.contains 'n' then text else text ++ ['\n'])] }

/-! ## Time -/

/-- Whether a text asks for a time to wait; a letter may stand for a unit. -/
def isTime (text : Text) : Bool :=
  let number := match text.getLast? with
    | some c => if "smhd".toList.contains c then text.dropLast else text
    | none => text
  let (whole, fraction) := (Text.cut? '.' number).getD (number, [])
  !(whole ++ fraction).isEmpty && (whole ++ fraction).all Char.isDigit

/-- Waits, for no time at all. -/
def sleep (request : Request) : Effect :=
  withOptions request "+" [] fun _ operands =>
    if operands.isEmpty then refuseUsage request "missing operand".toList 1
    else
      match operands.filter fun time => !isTime time with
      | [] => { sleeps := operands.any (·.any fun c => c.isDigit && c != '0') }
      | wrong =>
        let messages := wrong.map fun time => "invalid time interval ".toList ++ quoted time
        refuseUsage request
          (List.intercalate ('\n' :: request.program ++ ": ".toList) messages) 1

/-! ## The system -/

/-- Names the system. -/
def uname (request : Request) : Effect :=
  withOptions request "asnrvmpio"
    [("all", 'a'), ("kernel-name", 's'), ("machine", 'm'), ("operating-system", 'o')]
    fun found operands =>
      match operands with
      | extra :: _ => refuseUsage request ("extra operand ".toList ++ quoted extra) 1
      | [] =>
        let parts := (if found.isEmpty || has found 's' then ["Linux"] else []) ++
          (if has found 'm' then ["x86_64"] else []) ++
          (if has found 'o' then ["GNU/Linux"] else [])
        { written := [(1, List.intercalate [' '] (parts.map String.toList) ++ ['\n'])] }

/-- Names the kind of machine. -/
def arch (_ : Request) : Effect := { written := [(1, "x86_64\n".toList)] }

/-- How often a program repeats its arguments that would do so without end. -/
def repetitions : Nat := 4096

/-- Prints its arguments again and again. -/
def yes (request : Request) : Effect :=
  let words := if request.arguments.isEmpty then [['y']] else request.arguments
  let line := List.intercalate [' '] words ++ ['\n']
  { written := [(1, (List.replicate repetitions line).flatten)] }

end Marginalia.Shell.Utility
