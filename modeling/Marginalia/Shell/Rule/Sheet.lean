import Marginalia.Shell.Launch
import Marginalia.Shell.Rule.Split
import Marginalia.Shell.Rule.Table

/-!
# The sheet

What a running program of rules works on: its variables and tables, the record and
its fields, and the files and commands that it reads and writes. A name is a variable
or a table by what it was first used for; until then it is free, and a function can
be given it as either. What is printed is held back until the end of the program or
until another program could print as well.
-/

namespace Marginalia.Shell.Rule

/-- What a name stands for: a value, or a table that may not have been used yet. -/
inductive Slot where
  | value (v : Value)
  | table (index : Nat)

/-- Something that records are read from. -/
structure Source where
  left : Text
  /-- Whether more comes from the input of the program. -/
  isInput : Bool := false
  status : Nat := 0

/-- Something that texts are printed to. -/
structure Output where
  name : Text
  route : Route
  /-- The open file. -/
  index : Nat := 0
  /-- What a command will read. -/
  held : Text := []

/-- The state of a program. -/
structure Sheet where
  functions : List (Text × Function)
  globals : List (Text × Slot) := []
  /-- The parameters of the running function. -/
  frame : List (Text × Slot) := []
  tables : Array Table := #[]
  record : Text := []
  /-- Whether the record has to be made from its fields anew. -/
  isStale : Bool := false
  fields : List Value := []
  /-- The rules from one record to another that apply at present. -/
  spans : List Nat := []
  pending : Text := []
  outputs : List Output := []
  inputs : List (Text × Source) := []
  main : Option Source := none
  /-- The number of the next operand. -/
  operand : Nat := 1
  /-- Whether an operand was read. -/
  hasRead : Bool := false
  seed : Float := 0
  status : Nat := 0

/-- Why a statement does not run to its end. -/
inductive Leave where
  | record
  | file
  /-- The program comes to its end. -/
  | finished
  /-- Something went wrong, and a message says what. -/
  | failed
  | broken
  | continued
  | answered (v : Value)

/-- Something that a program does. -/
abbrev Work (α : Type) := ExceptT Leave (StateT Sheet Act) α

/-- Something that is done to the machine. -/
def Work.act (act : Act α) : Work α := ExceptT.lift (StateT.lift act)

namespace Sheet

/-- Writes a message and ends the program. -/
def failWith (message : Text) : Work α := do
  Work.act (write 2 ("awk: ".toList ++ message ++ ['\n']))
  throw .failed

/-! ## Names -/

/-- What a name stands for. -/
def slot? (name : Text) : Work (Option Slot) := do
  let sheet ← get
  return (sheet.frame.lookup name).or (sheet.globals.lookup name)

/-- Lets a name stand for something. -/
def setSlot (name : Text) (slot : Slot) : Work Unit :=
  modify fun sheet =>
    if (sheet.frame.lookup name).isSome then
      { sheet with frame := Dict.put name slot sheet.frame }
    else { sheet with globals := Dict.put name slot sheet.globals }

/-- The value of a variable that has no meaning of its own. -/
def plainValue (name : Text) : Work Value := do
  match ← slot? name with
  | some (.value v) => return v
  | _ => return .absent

/-- A variable as a text. -/
def textOf (name : String) : Work Text := do
  let format := match ← plainValue "CONVFMT".toList with
    | .text t | .input t => t
    | _ => []
  return (← plainValue name.toList).asText format

/-- The format of numbers that become texts. -/
def numberFormat : Work Text := textOf "CONVFMT"

/-- A value as a text. -/
def asText (v : Value) : Work Text := do
  match v with
  | .text t | .input t => return t
  | v => return v.asText (← numberFormat)

/-- The number of the table that a name stands for. -/
def tableOf (name : Text) : Work Nat := do
  match ← slot? name with
  | some (.table index) => return index
  | _ => do
    let index := (← get).tables.size
    modify fun sheet => { sheet with tables := sheet.tables.push {} }
    setSlot name (.table index)
    return index

/-- The table of a number. -/
def tableAt (index : Nat) : Work Table := do return (← get).tables[index]?.getD {}

/-- Puts a table in place of another one. -/
def setTable (index : Nat) (table : Table) : Work Unit :=
  modify fun sheet => { sheet with tables := sheet.tables.setIfInBounds index table }

/-! ## Runtime faults -/

/-- Ends the program with a message about the place in the input. -/
def failAtRecord (message : Text) : Work α := do
  let name ← textOf "FILENAME"
  let inFile ← textOf "FNR"
  let inAll ← textOf "NR"
  failWith ("run time error: ".toList ++ message ++ "\n\tFILENAME=\"".toList ++ name ++
    "\" FNR=".toList ++ inFile ++ " NR=".toList ++ inAll)

/-- What a text is read as, where a fault ends the program. -/
def orFail (text : Text) (result : Except Pattern.Fault α) : Work α :=
  match result with
  | .ok found => pure found
  | .error fault =>
    failAtRecord ("regular expression compile failed (".toList ++ fault.message ++ ")\n".toList ++
      text)

/-! ## Fields -/

/-- The texts between the separators of fields. -/
def fieldsOf (separator text : Text) : Work (List Value) := do
  let separator ← orFail separator (Separator.ofText separator)
  return (separator.fields text).map .input

/-- Makes a text the record. -/
def setRecord (text : Text) : Work Unit := do
  let fields ← fieldsOf (← textOf "FS") text
  modify fun sheet => { sheet with record := text, isStale := false, fields }

/-- The record, made from its fields anew if one of them has changed. -/
def recordText : Work Text := do
  let sheet ← get
  if sheet.isStale then
    let separator ← textOf "OFS"
    let texts ← sheet.fields.mapM asText
    let record := List.intercalate separator texts
    set { sheet with record, isStale := false }
    return record
  else return sheet.record

/-- A field by its number, where zero is the record. -/
def fieldAt (n : Nat) : Work Value := do
  match n with
  | 0 => return .input (← recordText)
  | n + 1 => return (← get).fields[n]?.getD .absent

/-- Gives a field a value; fields that are missing before it are empty. -/
def setField (n : Nat) (v : Value) : Work Unit := do
  match n with
  | 0 => setRecord (← asText v)
  | n + 1 =>
    modify fun sheet =>
      let padding := List.replicate (n + 1 - sheet.fields.length) Value.absent
      { sheet with fields := (sheet.fields ++ padding).set n v, isStale := true }

/-- Sets the number of fields. -/
def setCount (n : Nat) : Work Unit :=
  modify fun sheet =>
    let padding := List.replicate (n - sheet.fields.length) Value.absent
    { sheet with fields := (sheet.fields ++ padding).take n, isStale := true }

/-- The name of the number of fields. -/
def countName : Text := "NF".toList

/-- The value of a variable. -/
def valueOf (name : Text) : Work Value := do
  if name = countName && ((← get).frame.lookup name).isNone then
    return .ofNat (← get).fields.length
  else plainValue name

/-- Gives a variable a value. -/
def setValue (name : Text) (v : Value) : Work Unit := do
  if name = countName && ((← get).frame.lookup name).isNone then
    setCount (clamped v.asNumber).toNat
  else setSlot name (.value v)

/-- Adds one to a variable. -/
def increase (name : String) : Work Unit := do
  setValue name.toList (.number ((← plainValue name.toList).asNumber + 1))

/-! ## Elements -/

/-- The integer that a value is used as in a key. -/
def integerKey? : Value → Option Int
  | .number x => (integer? x).map fun _ => clamped x
  | _ => none

/-- The key that values make, and its integer if it is used as one. -/
def keyOf (values : List Value) : Work (Text × Option Int) := do
  match values with
  | [v] =>
    match integerKey? v with
    | some n => return (Text.ofInt n, some n)
    | none => return (← asText v, none)
  | values => do
    let texts ← values.mapM asText
    return (List.intercalate (← textOf "SUBSEP") texts, none)

/-- A table after a key was used. -/
def used (table : Table) (key : Text × Option Int) : Table :=
  match key.2 with
  | some n => table.useInteger n
  | none => table.use key.1

/-- Whether a table has a key. -/
def hasKey (index : Nat) (key : Text × Option Int) : Work Bool := do
  let table ← tableAt index
  if (table.get? key.1).isSome then
    setTable index (used table key)
    return true
  else return false

/-- The value of a key, which the table has from then on. -/
def elementAt (index : Nat) (key : Text × Option Int) : Work Value := do
  let table := used (← tableAt index) key
  match table.get? key.1 with
  | some v => do
    setTable index table
    return v
  | none => do
    setTable index (table.put key.1 .absent)
    return .absent

/-- Gives a key a value. -/
def setElement (index : Nat) (key : Text × Option Int) (v : Value) : Work Unit := do
  setTable index ((used (← tableAt index) key).put key.1 v)

end Sheet
end Marginalia.Shell.Rule
