import Marginalia.Shell.Machine

/-!
# Requests

What the programs that scripts call are called with, and what they do: each is a
function from its arguments, its input and the disk to what it prints and changes.
This module reads options and operands for all of them, and the files that the
operands name. Options are told apart by letters; a long name is another way to
write a letter, and may be cut short as long as one letter is meant.
-/

namespace Marginalia.Shell

/-- What a program is called with. -/
structure Request where
  program : Text
  arguments : List Text
  stdin : Text
  /-- Whether the input is a file of the disk, and not what another program prints. -/
  fromFile : Bool := false
  disk : Disk

/-- What a program does. -/
structure Effect where
  /-- The texts it prints, in order, with the streams they go to. -/
  written : List (Nat × Text) := []
  status : Nat := 0
  /-- Whether it reads its input. -/
  reads : Bool := false
  /-- How much it takes of an input that is a file, if not all. -/
  taken : Option Nat := none
  /-- Whether it takes its time. -/
  sleeps : Bool := false
  disk : Option Disk := none

namespace Utility

/-! ## Options -/

/-- Whether an option has a value. -/
inductive Arity where
  | plain
  | valued
  /-- The value may be missing; it is in the argument of the option itself. -/
  | lenient
  deriving DecidableEq, Repr

/-- The options that a program knows. -/
structure Known where
  letters : List (Char × Arity)
  names : List (Text × Char × Arity) := []
  /-- Whether the first operand ends the options. -/
  isLeading : Bool := false

/-- Letters of options; one colon after a letter stands for a value, two for one that may lack. -/
def readLetters : Text → List (Char × Arity)
  | [] => []
  | c :: ':' :: ':' :: rest => (c, .lenient) :: readLetters rest
  | c :: ':' :: rest => (c, .valued) :: readLetters rest
  | c :: rest => (c, .plain) :: readLetters rest

/-- A long name with its letter; `=` after it stands for a value, `[=` for one that may lack. -/
def readName (name : String) (letter : Char) : Text × Char × Arity :=
  match Text.dropEnd? "[=".toList name.toList, Text.dropEnd? ['='] name.toList with
  | some name, _ => (name, letter, .lenient)
  | none, some name => (name, letter, .valued)
  | none, none => (name.toList, letter, .plain)

/-- The options that letters and names write; a plus at the start means that operands end them. -/
def Known.ofTable (letters : String) (names : List (String × Char)) : Known :=
  let names := names.map fun (name, letter) => readName name letter
  match letters.toList with
  | '+' :: letters => { letters := readLetters letters, names, isLeading := true }
  | letters => { letters := readLetters letters, names }

/-- What is wrong with the options of a program. -/
inductive OptionFault where
  | unknown (letter : Char)
  | unrecognized (argument : Text)
  | ambiguous (argument : Text) (names : List Text)
  | noValue (letter : Char)
  | noNamedValue (name : Text)
  | needlessValue (name : Text)
  deriving DecidableEq, Repr

/-- A fault in words. -/
def OptionFault.message : OptionFault → Text
  | .unknown letter => "invalid option -- '".toList ++ [letter, '\'']
  | .unrecognized argument => "unrecognized option '".toList ++ argument ++ ['\'']
  | .ambiguous argument names =>
    "option '".toList ++ argument ++ "' is ambiguous; possibilities:".toList ++
      names.flatMap fun name => " '--".toList ++ name ++ ['\'']
  | .noValue letter => "option requires an argument -- '".toList ++ [letter, '\'']
  | .noNamedValue name => "option '--".toList ++ name ++ "' requires an argument".toList
  | .needlessValue name => "option '--".toList ++ name ++ "' doesn't allow an argument".toList

/-- The options of a program, its other arguments, and what is wrong with the options. -/
structure Options where
  found : List (Char × Text) := []
  operands : List Text := []
  fault : Option OptionFault := none

/-- The same with options before all others. -/
def Options.after (options : Options) (found : List (Char × Text)) : Options :=
  { options with found := found ++ options.found }

/-- An option that waits for its value, with the fault if none comes. -/
abbrev Waiting := Char × OptionFault

/-- The options in one argument, and the one that waits for its value. -/
def cluster (known : Known) :
    Text → Except OptionFault (List (Char × Text) × Option Waiting)
  | [] => .ok ([], none)
  | c :: rest =>
    match known.letters.lookup c with
    | none => .error (.unknown c)
    | some .plain => (cluster known rest).map fun (found, waiting) => ((c, []) :: found, waiting)
    | some .lenient => .ok ([(c, rest)], none)
    | some .valued =>
      if rest = [] then .ok ([], some (c, .noValue c)) else .ok ([(c, rest)], none)

/-- The option that a long name writes, and whether it waits for its value. -/
def named (known : Known) (argument : Text) :
    Except OptionFault (List (Char × Text) × Option Waiting) :=
  let text := argument.drop 2
  let (name, value) := match Text.cut? '=' text with
    | some (name, value) => (name, some value)
    | none => (text, none)
  let exact := known.names.filter (·.1 = name)
  let meant :=
    if exact.isEmpty then known.names.filter fun (other, _) => Text.startsWith name other
    else exact
  match meant with
  | [] => .error (.unrecognized argument)
  | (name, letter, arity) :: others =>
    if others.any (·.2.1 ≠ letter) then .error (.ambiguous argument (meant.map (·.1)))
    else
      match arity, value with
      | .plain, none | .lenient, none => .ok ([(letter, [])], none)
      | .plain, some _ => .error (.needlessValue name)
      | .lenient, some value | .valued, some value => .ok ([(letter, value)], none)
      | .valued, none => .ok ([], some (letter, .noNamedValue name))

/-- The options among arguments, up to the first fault, and the other arguments. -/
def options (known : Known) (waiting : Option Waiting) : List Text → Options
  | [] => { fault := waiting.map (·.2) }
  | argument :: rest =>
    match waiting with
    | some (letter, _) => (options known none rest).after [(letter, argument)]
    | none =>
      let goOn := fun (result : Except OptionFault (List (Char × Text) × Option Waiting)) =>
        match result with
        | .error fault => { fault := some fault : Options }
        | .ok (found, waiting) => (options known waiting rest).after found
      match argument with
      | ['-', '-'] => { operands := rest }
      | '-' :: '-' :: _ => goOn (named known argument)
      | '-' :: c :: letters => goOn (cluster known (c :: letters))
      | argument =>
        if known.isLeading then { operands := argument :: rest }
        else
          let others := options known none rest
          { others with operands := argument :: others.operands }

/-- The effect of a program that gives up. -/
def refuse (request : Request) (message : Text) (status : Nat) : Effect where
  written := [(2, request.program ++ ": ".toList ++ message ++ ['\n'])]
  status := status

/-- Where a program says that more is to be learnt. -/
def hint (request : Request) : Text :=
  let isNamed := ["cmp", "diff"].contains (String.ofList request.program)
  '\n' :: (if isNamed then request.program ++ ": ".toList else []) ++
    "Try '".toList ++ request.program ++ " --help' for more information.".toList

/-- The effect of a program that gives up and says where more is to be learnt. -/
def refuseUsage (request : Request) (message : Text) (status : Nat) : Effect :=
  refuse request (message ++ hint request) status

/-- The effect of a program that does not know its options. -/
def refuseOptions (request : Request) (fault : OptionFault) : Effect :=
  let isGrave := ["sort", "ls", "cmp", "diff"].contains (String.ofList request.program)
  refuseUsage request fault.message (if isGrave then 2 else 1)

/-- Goes on with the options of a program, if they are known. -/
def withOptions (request : Request) (letters : String) (names : List (String × Char))
    (run : List (Char × Text) → List Text → Effect) : Effect :=
  let given := options (.ofTable letters names) none request.arguments
  match given.fault with
  | some fault => refuseOptions request fault
  | none => run given.found given.operands

/-- Whether an option is given. -/
def has (found : List (Char × Text)) (letter : Char) : Bool :=
  found.any fun (other, _) => other == letter

/-- The last value of an option. -/
def valueOf? (found : List (Char × Text)) (letter : Char) : Option Text :=
  found.reverse.lookup letter

/-- The last one of several options that rule each other out. -/
def lastOf? (found : List (Char × Text)) (letters : List Char) : Option Char :=
  (found.reverse.find? fun (letter, _) => letters.contains letter).map (·.1)

/-! ## Numbers -/

/-- A number without a sign. -/
def natural? (text : Text) : Option Nat :=
  if text ≠ [] && text.all Char.isDigit then some (ofDigits text) else none

/-- The number that an argument asks for. -/
def count? (text : Text) : Option Int :=
  match text with
  | '-' :: digits => (natural? digits).map fun n => -Int.ofNat n
  | '+' :: digits | digits => (natural? digits).map Int.ofNat

/-- What a unit after a number multiplies it by. -/
def unit? (text : Text) : Option Nat :=
  let powers : Text := ['K', 'M', 'G', 'T', 'P', 'E']
  let power := fun (letter : Char) =>
    (powers.findIdx? (· == letter)).map (· + 1)
  match text with
  | [] => some 1
  | ['b'] => some 512
  | ['k'] => some 1024
  | ['k', 'B'] => some 1000
  | [letter] | [letter, 'i', 'B'] => (power letter).map (Nat.pow 1024)
  | [letter, 'B'] => (power letter).map (Nat.pow 1000)
  | _ => none

/-- A number with a unit after it. -/
def size? (text : Text) : Option Nat :=
  let digits := text.takeWhile Char.isDigit
  if digits = [] then none
  else (unit? (text.drop digits.length)).map (ofDigits digits * ·)

/-- A text with blanks before it, up to a width. -/
def toRight (width : Nat) (text : Text) : Text := List.replicate (width - text.length) ' ' ++ text

/-- A text in quotes. -/
def quoted (text : Text) : Text := '\'' :: text ++ ['\'']

/-! ## Inputs -/

/-- Whether an operand is the input. -/
def isInput (operand : Text) : Bool := operand = ['-'] || operand = "/dev/stdin".toList

/-- The content that an operand names, or why there is none. -/
def content (request : Request) (operand : Text) : Except Disk.Cause Text :=
  if isInput operand then .ok request.stdin
  else if operand = "/dev/null".toList then .ok []
  else
    match request.disk.readFile (decodeText operand) with
    | .ok bytes => .ok (streamText bytes)
    | .error (.refused cause _) => .error cause
    | .error _ => .error .missing

/-- The contents that operands name, or why there are none; the input is read only once. -/
def contents (request : Request) : List Text → List (Text × Except Disk.Cause Text)
  | [] => []
  | operand :: operands =>
    let later := if isInput operand then { request with stdin := [] } else request
    (operand, content request operand) :: contents later operands

/-- Whether operands ask for the input. -/
def readsInput (operands : List Text) : Bool := operands.isEmpty || operands.any isInput

/-- The operands of a program that reads its input without any. -/
def sources (operands : List Text) : List Text := if operands.isEmpty then [['-']] else operands

/-- What a program says about an operand that it cannot read. -/
def unreadable (request : Request) (operand : Text) (cause : Disk.Cause) : Text :=
  let name := operand
  match String.ofList request.program with
  | "sed" =>
    if cause = .isDirectory then "sed: read error on ".toList ++ name ++ ": Is a directory\n".toList
    else "sed: can't read ".toList ++ name ++ ": ".toList ++ cause.text ++ ['\n']
  | "head" | "tail" =>
    if cause = .isDirectory then
      request.program ++ ": error reading '".toList ++ name ++ "': ".toList ++ cause.text ++ ['\n']
    else
      request.program ++ ": cannot open '".toList ++ name ++ "' for reading: ".toList ++
        cause.text ++ ['\n']
  | "sort" =>
    let verb := if cause = .isDirectory then "sort: read failed: " else "sort: cannot read: "
    verb.toList ++ name ++ ": ".toList ++ cause.text ++ ['\n']
  | "rev" => "rev: cannot open ".toList ++ name ++ ": ".toList ++ cause.text ++ ['\n']
  | "tac" =>
    if cause = .isDirectory then
      "tac: ".toList ++ name ++ ": read error: Invalid argument\n".toList
    else
      "tac: failed to open '".toList ++ name ++ "' for reading: ".toList ++ cause.text ++ ['\n']
  | _ => request.program ++ ": ".toList ++ name ++ ": ".toList ++ cause.text ++ ['\n']

/-- What a program makes of each operand by itself. -/
def each (request : Request) (operands : List Text) (make : Text → Text) : Effect :=
  let results := (contents request (sources operands)).map fun (operand, result) =>
    match result with
    | .ok text => ((1, make text), true)
    | .error cause => ((2, unreadable request operand cause), false)
  { written := results.map (·.1)
    status := if results.all (·.2) then 0 else 1
    reads := readsInput operands }

/-- The complaints about the operands that cannot be read, and the texts of the others. -/
def gathered (request : Request) (operands : List Text) : List (Nat × Text) × List Text :=
  let results := contents request (sources operands)
  (results.filterMap fun (operand, result) =>
    match result with
    | .error cause => some (2, unreadable request operand cause)
    | .ok _ => none,
    results.filterMap fun (_, result) => result.toOption)

/-- Texts one after the other, each of which ends its last line. -/
def joinLines (texts : List Text) : Text :=
  texts.foldr (fun text rest =>
    if rest = [] || text = [] || text.getLast? = some '\n' then text ++ rest
    else text ++ '\n' :: rest) []

/-- What a program makes of all operands together. -/
def together (request : Request) (operands : List Text) (make : Text → Text × Nat)
    (failure : Nat) : Effect :=
  let (complaints, texts) := gathered request operands
  let (text, status) := make (joinLines texts)
  { written := complaints ++ [(1, text)]
    status := if complaints.isEmpty then status else failure
    reads := readsInput operands }

/-! ## Lines -/

/-- The lines of a text, without what ends them; a last line may lack that. -/
def linesAt (mark : Char) (text : Text) : List Text :=
  let pieces := Text.splitOn mark text
  if pieces.getLast? = some [] then pieces.dropLast else pieces

/-- The lines of a text, without their newlines; a last line may lack its newline. -/
def lines (text : Text) : List Text := linesAt '\n' text

/-- The lines of a text as they are written. -/
def writtenAt (mark : Char) (text : Text) : List Text :=
  let pieces := Text.splitOn mark text
  pieces.dropLast.map (· ++ [mark]) ++ (pieces.getLast?.filter (· ≠ [])).toList

/-- Lines with a mark after each. -/
def endedBy (mark : Char) (rows : List Text) : Text := rows.flatMap (· ++ [mark])

/-- The mark that ends lines: a newline, or the null character if that is asked for. -/
def lineMark (found : List (Char × Text)) : Char := if has found 'z' then '\x00' else '\n'

end Utility
end Marginalia.Shell
