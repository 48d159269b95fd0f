import Marginalia.Shell.Rule.Grammar
import Marginalia.Shell.Rule.Run

/-!
# Calling a program of rules

The arguments that a program of rules is called with: its text or the files that hold
it, the separator of fields, first values of variables, and the operands.
-/

namespace Marginalia.Shell.Rule

/-- What a program of rules is called with. -/
structure Invocation where
  separator : Option Text := none
  values : List (Text × Text) := []
  files : List Text := []
  operands : List Text := []

/-- Reads options up to the first operand; a message says what is wrong. -/
def Invocation.take (found : Invocation) : (fuel : Nat) → List Text → Except Text Invocation
  | 0, arguments => .ok { found with operands := arguments }
  | fuel + 1, arguments =>
    match arguments with
    | ['-', '-'] :: rest => .ok { found with operands := rest }
    | ('-' :: letter :: attached) :: rest =>
      if letter = 'F' || letter = 'v' || letter = 'f' then
        match if attached = [] then rest else attached :: rest with
        | [] => .error ("option -".toList ++ letter :: " lacks argument".toList)
        | value :: rest =>
          match letter with
          | 'F' => take { found with separator := some (unescape 0 value) } fuel rest
          | 'f' => take { found with files := found.files ++ [value] } fuel rest
          | _ =>
            match Flow.assignment? value with
            | some setting => take { found with values := found.values ++ [setting] } fuel rest
            | none => .error ("improper assignment: -v ".toList ++ value)
      else if letter = 'W' then take found fuel (if attached = [] then rest.tail else rest)
      else .error ("not an option: ".toList ++ '-' :: letter :: attached)
    | arguments => .ok { found with operands := arguments }

/-- The text of a program that stands in files. -/
def textOfFiles (files : List Text) : Work Text := do
  let texts ← files.mapM fun path => do
    match ← Flow.sourceOfFile path with
    | .ok source =>
      if source.isInput then Work.act do
        let text ← leftOn 0
        consume 0 text.length
        return text
      else return source.left
    | .error cause =>
      Sheet.failWith ("cannot open \"".toList ++ path ++ "\" (".toList ++ cause.text ++ [')'])
  return texts.flatMap fun text => if text.getLast? = some '\n' then text else text ++ ['\n']

/-- Gives the variables their first values. -/
def setUp (found : Invocation) (operands : List Text) : Work Unit := do
  let constants := [("FS", " "), ("OFS", " "), ("ORS", "\n"), ("RS", "\n"), ("SUBSEP", "\x1c"),
    ("CONVFMT", "%.6g"), ("OFMT", "%.6g"), ("FILENAME", "")]
  constants.forM fun (name, value) => Sheet.setValue name.toList (.text value.toList)
  ["NR", "FNR"].forM fun name => Sheet.setValue name.toList (.number 0)
  let arguments := "awk".toList :: operands
  Sheet.setValue "ARGC".toList (.ofNat arguments.length)
  let list ← Sheet.tableOf "ARGV".toList
  (arguments.zipIdx).forM fun (argument, n) =>
    Sheet.setElement list (Text.ofNat n, some (Int.ofNat n)) (.input argument)
  let environment ← Sheet.tableOf "ENVIRON".toList
  (← Work.act get).environment.forM fun (name, value) =>
    Sheet.setElement environment (name, none) (.input value)
  found.separator.toList.forM fun separator => Sheet.setValue "FS".toList (.text separator)
  found.values.forM fun (name, value) => Sheet.setValue name (.input value)

/-- Runs the program that arguments give; the result says whether it ended as it should. -/
def runArguments (launch : Launch) (arguments : List Text) : Work Bool := do
  match ({} : Invocation).take (arguments.length + 1) arguments with
  | .error message => Sheet.failWith message
  | .ok found => do
    let (place, text, operands) ← match found.files, found.operands with
      | [], [] => Sheet.failWith "no program".toList
      | [], text :: operands => pure ([], text, operands)
      | file :: others, operands => do
        let text ← textOfFiles (file :: others)
        pure (file ++ ": ".toList, text, operands)
    match parse text with
    | .error messages =>
      Sheet.failWith (List.intercalate "\nawk: ".toList (messages.map (place ++ ·)))
    | .ok program => do
      modify fun sheet => { sheet with functions := program.functions }
      setUp found operands
      let limit := 1000000
      runProgram launch (run launch limit) limit program

/-- Runs a program of rules. -/
def awk (launch : Launch) (arguments : List Text) : Act Unit := do
  let (result, sheet) ← (runArguments launch arguments).run.run { functions := [] }
  setStatus (match result with
    | .ok true => sheet.status
    | _ => 2)

end Marginalia.Shell.Rule
