import Marginalia.Dict
import Marginalia.Disk.Basic
import Marginalia.Settings.Basic
import Marginalia.Text.Blank

/-!
# Environment files

A file of variables, one `KEY=value` to a line. Keys may follow the word
`export`, values may be quoted, and comments start with a number sign. A value
may name variables, of the environment or set before it. A key without a value
sets nothing, the last line of a key counts, and a variable that the environment
has already is left alone. Statements that cannot be read are passed over with a
warning.
-/

namespace Marginalia

/-- Why the variables of an environment file could not be set. -/
inductive EnvironmentFault where
  | undecodable (fault : Undecodable)
  /-- A name has an equals sign in it. -/
  | illegalName
  /-- A name or a value has a null character in it. -/
  | nullByte
  deriving DecidableEq, Repr

/-- A fault of an environment file in words. -/
def EnvironmentFault.message : EnvironmentFault → Text
  | .undecodable fault => fault.message
  | .illegalName => "illegal environment variable name".toList
  | .nullByte => "embedded null byte".toList

namespace EnvFile

/-- A key and, after an equals sign, its value; a comment has the empty key. -/
structure Binding where
  key : Text
  value : Option Text
  deriving DecidableEq, Repr

/-- A statement of the file. -/
inductive Statement where
  | binding (binding : Binding)
  /-- One that cannot be read, with the line on which reading it started. -/
  | invalid (line : Nat)
  deriving DecidableEq, Repr

/-! ## Parts of a statement -/

/-- Whether a character ends a line. -/
def isLineEnd (c : Char) : Bool := c == '\n' || c == '\r'

/-- Whether a character is white space within a line. -/
def isInlineBlank (c : Char) : Bool := isBlank c && !isLineEnd c

/-- The text after white space within the line. -/
def skipBlanks (text : Text) : Text := text.dropWhile isInlineBlank

/-- The text after the word `export`, if that and white space come first. -/
def skipExport (text : Text) : Text :=
  match Text.dropStart? "export".toList text with
  | some (c :: rest) => if isInlineBlank c then skipBlanks rest else text
  | _ => text

/-- The text after a line end, if one comes first; the end of the file is one too. -/
def skipLineEnd? : Text → Option Text
  | [] => some []
  | '\r' :: '\n' :: text => some text
  | c :: text => if isLineEnd c then some text else none

/-- The text of the lines after this one. -/
def skipLine (text : Text) : Text :=
  (skipLineEnd? (text.dropWhile fun c => !isLineEnd c)).getD []

/-- The text after a comment, if one comes first, possibly after white space. -/
def skipComment (text : Text) : Text :=
  match skipBlanks text with
  | '#' :: rest => rest.dropWhile fun c => !isLineEnd c
  | _ => text

/--
A text up to its closing quote, and what follows. A character after a backslash
does not close.
-/
def untilQuote (quote : Char) : Text → Option (Text × Text)
  | [] => none
  | '\\' :: c :: text =>
    (untilQuote quote text).map fun (value, rest) => ('\\' :: c :: value, rest)
  | c :: text =>
    if c = quote then some ([], text)
    else (untilQuote quote text).map fun (value, rest) => (c :: value, rest)

/-- What an escape stands for between double quotes. -/
def escapes : List (Char × Char) :=
  [('\\', '\\'), ('\'', '\''), ('"', '"'), ('a', '\x07'), ('b', '\x08'), ('f', '\x0c'),
    ('n', '\n'), ('r', '\r'), ('t', '\t'), ('v', '\x0b')]

/-- A text with the given escapes resolved; a backslash before anything else stays. -/
def unescape (known : List (Char × Char)) : Text → Text
  | [] => []
  | '\\' :: c :: text =>
    match known.lookup c with
    | some meant => meant :: unescape known text
    | none => '\\' :: unescape known (c :: text)
  | c :: text => c :: unescape known text

/-- A text up to a comment, which starts with white space and a number sign. -/
def beforeComment : Text → Text
  | [] => []
  | c :: text =>
    if isBlank c && (text.dropWhile isBlank).head? == some '#' then [] else c :: beforeComment text

/--
The value after an equals sign, and what follows; or where reading stopped. What
is not quoted goes to the end of the line, without white space around it.
-/
def readValue (text : Text) : Except Text (Text × Text) :=
  let quoted := fun (quote : Char) (known : List (Char × Char)) (inside : Text) =>
    match untilQuote quote inside with
    | some (value, rest) => .ok (unescape known value, rest)
    | none => .error (quote :: inside)
  match skipBlanks text with
  | '\'' :: inside => quoted '\'' [('\\', '\\'), ('\'', '\'')] inside
  | '"' :: inside => quoted '"' escapes inside
  | _ =>
    .ok (Text.trim (beforeComment (text.takeWhile fun c => !isLineEnd c)),
      text.dropWhile fun c => !isLineEnd c)

/-- Whether a character can stand in a key without quotes. -/
def isKeyChar (c : Char) : Bool := c != '=' && c != '#' && !isBlank c

/-- The key at the start of a text, and what follows; or where reading stopped. -/
def readKey : Text → Except Text (Text × Text)
  | '#' :: text => .ok ([], '#' :: text)
  | '\'' :: text =>
    match Text.cut? '\'' text with
    | some (c :: key, rest) => .ok (c :: key, rest)
    | _ => .error ('\'' :: text)
  | text =>
    match text.takeWhile isKeyChar with
    | [] => .error text
    | key => .ok (key, text.dropWhile isKeyChar)

/-- The value after an equals sign, if there is one, and what follows. -/
def readAssignment (text : Text) : Except Text (Option Text × Text) :=
  match skipBlanks text with
  | '=' :: rest => (readValue rest).map fun (value, rest) => (some value, rest)
  | text => .ok (none, text)

/-! ## Statements -/

/--
The binding at the start of a text, up to the end of its line, and the lines
after it; or where reading stopped.
-/
def readBinding (text : Text) : Except Text (Binding × Text) := do
  let (key, rest) ← readKey (skipExport text)
  let (value, rest) ← readAssignment rest
  let rest := skipComment rest
  match skipLineEnd? (skipBlanks rest) with
  | some rest => return (⟨key, value⟩, rest)
  | none => throw rest

/-- The statements of a text whose first line has a number. -/
def statementsFrom (line : Nat) (text : Text) : List Statement :=
  let start := Text.trimStart text
  if start = [] then []
  else
    let (statement, rest) :=
      match readBinding start with
      | .ok (binding, rest) => (Statement.binding binding, rest)
      | .error stop => (Statement.invalid line, skipLine stop)
    if _h : rest.length < text.length then
      statement :: statementsFrom (line + (text.count '\n' - rest.count '\n')) rest
    else [statement]
termination_by text.length

/-- The statements of a text. -/
def statements (text : Text) : List Statement :=
  statementsFrom 1 text

/-- The bindings among statements. -/
def bindings (statements : List Statement) : List Binding :=
  statements.filterMap fun
    | .binding binding => if binding.key = [] then none else some binding
    | .invalid _ => none

/-- The warning about a statement that cannot be read. -/
def Statement.warning? : Statement → Option Text
  | .binding _ => none
  | .invalid line =>
    some ("python-dotenv could not parse statement starting at line ".toList ++ Text.ofNat line)

/-! ## Variables in values -/

/-- The variable that a value names after a dollar sign, its default, and the length of it all. -/
def reference? (text : Text) : Option (Text × Text × Nat) :=
  match text with
  | '\x7b' :: inside =>
    let name := inside.takeWhile fun c => c != '\x7d' && c != ':'
    match inside.drop name.length with
    | '\x7d' :: _ => some (name, [], name.length + 2)
    | ':' :: '-' :: rest =>
      let default := rest.takeWhile (· != '\x7d')
      if (rest.drop default.length).isEmpty then none
      else some (name, default, name.length + default.length + 4)
    | _ => none
  | _ => none

/-- A value with the variables that it names put in. -/
def expand (lookup : Text → Option (Option Text)) (value : Text) : Text :=
  match value with
  | [] => []
  | '$' :: rest =>
    match reference? rest with
    | some (name, default, size) =>
      (match lookup name with
        | some found => found.getD []
        | none => default) ++ expand lookup (rest.drop size)
    | none => '$' :: expand lookup rest
  | c :: rest => c :: expand lookup rest
termination_by value.length
decreasing_by all_goals simp only [List.length_cons, List.length_drop]; omega

/-- What a name stands for: in the environment, or else among the variables set so far. -/
def lookup (environment : List (Text × Text)) (set : List (Text × Option Text)) (name : Text) :
    Option (Option Text) :=
  ((Dict.get? name environment).map some).or (Dict.get? name set)

/-- The variables that bindings set, the last one of each key. -/
def assignments (environment : List (Text × Text)) (bindings : List Binding) :
    List (Text × Option Text) :=
  bindings.foldl (fun set binding =>
    Dict.put binding.key (binding.value.map (expand (lookup environment set))) set) []

/-- What keeps a variable from being set. -/
def fault? (name value : Text) : Option EnvironmentFault :=
  if name.contains '\x00' || value.contains '\x00' then some .nullByte
  else if name.contains '=' then some .illegalName
  else none

/-- The variables of an environment after a file; those that it has already stay. -/
def extend (environment : List (Text × Text)) (statements : List Statement) :
    Except EnvironmentFault (List (Text × Text)) :=
  let added := (assignments environment (bindings statements)).filterMap fun (name, value) =>
    if (Dict.get? name environment).isSome then none else value.map fun value => (name, value)
  match added.findSome? fun (name, value) => fault? name value with
  | some fault => .error fault
  | none => .ok (environment ++ added)

/-! ## The file -/

/-- The name of the file. -/
def fileName : Text := ".env".toList

/-- The mark that a file in UTF-8 may start with; it is no part of the first statement. -/
def byteOrderMark : Char := '\uFEFF'

/-- The statements of the nearest environment file, if there is one. -/
def nearest (disk : Disk) : Except EnvironmentFault (List Statement) :=
  match Encoding.decode .utf8 ((disk.nearestFile? fileName).getD []) with
  | .ok text =>
    let text := (Text.dropStart? [byteOrderMark] text).getD text
    .ok (statements (Text.foldNewlines text))
  | .error fault => .error (.undecodable fault)

/-- The warnings about the nearest environment file, a line each. -/
def warnings (disk : Disk) : Text :=
  match nearest disk with
  | .ok statements => Text.unlines (statements.filterMap Statement.warning?)
  | .error _ => []

/-- An environment after the nearest environment file. -/
def load (environment : List (Text × Text)) (disk : Disk) :
    Except EnvironmentFault (List (Text × Text)) := do
  extend environment (← nearest disk)

/-- Without an environment file the environment is all there is. -/
theorem load_of_no_file {disk : Disk} (h : disk.nearestFile? fileName = none)
    (environment : List (Text × Text)) : load environment disk = .ok environment := by
  have hstatements : statements [] = [] := by
    rw [statements, statementsFrom]
    rfl
  have hnearest : nearest disk = .ok [] := by
    rw [nearest, h]
    exact congrArg Except.ok hstatements
  rw [load, hnearest]
  exact congrArg Except.ok (List.append_nil environment)

end EnvFile

/-- The settings under an environment and the nearest environment file. -/
def Settings.load (environment : List (Text × Text)) (disk : Disk) :
    Except EnvironmentFault Settings :=
  (EnvFile.load environment disk).map fun extended => .ofEnvironment (Dict.get? · extended)

end Marginalia
