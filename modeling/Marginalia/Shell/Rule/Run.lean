import Marginalia.Shell.Rule.Flow

/-!
# Running rules

How terms get their values and statements run. The functions before `run` are given
what runs the terms and statements inside, and `run` ties them together: each of its
calls lowers an amount of fuel, so a program that would go on for ever comes to an
end as well.
-/

namespace Marginalia.Shell.Rule

open Sheet

/-- Something that is run: a term for its value, or a statement. -/
inductive Task where
  | term (t : Term)
  | statement (s : Statement)

/-- What runs a task; a statement has no value. -/
abbrev Runs := Task → Work Value

/-- The value of a term. -/
def Runs.value (run : Runs) (t : Term) : Work Value := run (.term t)

/-- The value of a term as a number. -/
def Runs.number (run : Runs) (t : Term) : Work Float := do return (← run.value t).asNumber

/-- The value of a term as a text. -/
def Runs.text (run : Runs) (t : Term) : Work Text := do asText (← run.value t)

/-- Runs a statement. -/
def Runs.statement (run : Runs) (s : Statement) : Work Unit := do
  let _ ← run (.statement s)

/-- What something comes to, with the reason why it does not run to its end. -/
def caught (work : Work α) : Work (Except Leave α) :=
  ExceptT.mk do return .ok (← work.run)

/-! ## Places -/

/-- Something that can be given a value. -/
inductive Place where
  | name (name : Text)
  | element (index : Nat) (key : Text × Option Int)
  | field (n : Nat)
  /-- A value that is kept nowhere. -/
  | nowhere (v : Value)

/-- The number of a field. -/
def fieldNumber (run : Runs) (index : Term) : Work Nat := do
  let n := clamped (← run.number index)
  if n < 0 then failAtRecord ("negative field index $".toList ++ Text.ofInt n)
  else return n.toNat

/-- The place that a term names. -/
def placeOf (run : Runs) (t : Term) : Work Place := do
  match t with
  | .name name => return .name name
  | .element table subscripts => do
    let key ← keyOf (← subscripts.mapM run.value)
    let index ← tableOf table
    let _ ← elementAt index key
    return .element index key
  | .field index => return .field (← fieldNumber run index)
  | t => return .nowhere (← run.value t)

/-- The value at a place. -/
def Place.value : Place → Work Value
  | name n => valueOf n
  | element index key => elementAt index key
  | field n => fieldAt n
  | nowhere v => pure v

/-- Puts a value at a place. -/
def Place.set (place : Place) (v : Value) : Work Unit :=
  match place with
  | name n => setValue n v
  | element index key => setElement index key v
  | field n => setField n v
  | nowhere _ => pure ()

/-! ## Expressions -/

/-- The expression that a term stands for. -/
def regexOf (run : Runs) (t : Term) : Work Regex := do
  match t with
  | .pattern regex => return regex
  | t => do
    let text ← run.text t
    orFail text (Pattern.parse text)

/-- Whether an expression matches somewhere in a text. -/
def occurs (regex : Regex) (text : Text) : Bool := (regex.find? false [] text).isSome

/-! ## Functions -/

/-- The part of a text from a place, of a length. -/
def partOf (text : Text) (start : Int) (length : Option Int) : Text :=
  let rest := text.drop (start - 1).toNat
  match length with
  | none => rest
  | some length => rest.take (if start < 1 then length - start else length).toNat

/-- The place of a part in a text, counted from one; zero if it is not there. -/
def positionFrom (part : Text) (n : Nat) : Text → Nat
  | [] => 0
  | c :: text =>
    if Text.startsWith part (c :: text) then n else positionFrom part (n + 1) text

/-- The seed after another one. -/
def nextSeed (seed : Float) : Float :=
  Float.ofNat ((word (seed * 16807) + 12345) % 2147483647)

/-- Replaces what matches in the value of a place. -/
def replace (run : Runs) (all : Bool) (pattern new : Term) (target : Term) : Work Value := do
  let regex ← regexOf run pattern
  let new ← run.text new
  let place ← placeOf run target
  let text ← asText (← place.value)
  let (made, count) := replaceFrom regex new all true [] 0 text
  if count ≠ 0 then place.set (.text made)
  return .ofNat count

/-- Cuts a text into the elements of a table. -/
def splitInto (run : Runs) (text table : Term) (separator : Option Term) : Work Value := do
  let text ← run.text text
  let separator ← match separator with
    | some (.pattern regex) => pure (.pattern regex)
    | some t => do
      let written ← run.text t
      orFail written (Separator.ofText written)
    | none => do
      let written ← textOf "FS"
      orFail written (Separator.ofText written)
  match table with
  | .name name => do
    let fields := separator.fields text
    setTable (← tableOf name) (.ofList (fields.map .input))
    return .ofNat fields.length
  | _ => failAtRecord "improper use of split".toList

/-- Fills a format with values; the name is that of the function. -/
def filled (name : String) (format : Text) (values : List Value) :
    Work (Text × Option Text) := do
  let (text, fault) := fill (← numberFormat) format values
  return (text, fault.map (·.message name.toList format))

/-- The value of a call to one of the functions that every program can call. -/
def callBuiltin (launch : Launch) (run : Runs) (builtin : Builtin) (arguments : List Term) :
    Work Value := do
  match builtin, arguments with
  | .arctangent, [a, b] => do
    let y ← run.number a
    return .number (Float.atan2 y (← run.number b))
  | .cosine, [t] => do return .number (← run.number t).cos
  | .sine, [t] => do return .number (← run.number t).sin
  | .exponential, [t] => do return .number (← run.number t).exp
  | .logarithm, [t] => do return .number (← run.number t).log
  | .root, [t] => do return .number (← run.number t).sqrt
  | .integral, [t] => do
    let x ← run.number t
    return .number (if x < 0 then x.ceil else x.floor)
  | .close, [t] => do return .number (Float.ofInt (← Flow.close launch (← run.text t)))
  | .flush, _ => do
    Flow.flush
    return .number 0
  | .system, [t] => do
    let command ← run.text t
    Flow.flush
    return .ofNat (← Work.act (Flow.runCommand launch "sh" command))
  | .length, [] => do return .ofNat (← recordText).length
  | .length, [.name name] => do
    match ← slot? name with
    | some (.table index) => return .ofNat (← tableAt index).size
    | _ => return .ofNat (← asText (← valueOf name)).length
  | .length, [t] => do return .ofNat (← run.text t).length
  | .lower, [t] => do return .text ((← run.text t).map Char.toLower)
  | .upper, [t] => do return .text ((← run.text t).map Char.toUpper)
  | .position, [t, part] => do
    let text ← run.text t
    return .ofNat (positionFrom (← run.text part) 1 text)
  | .part, [t, start] => do
    let text ← run.text t
    return .text (partOf text (clamped (← run.number start)) none)
  | .part, [t, start, length] => do
    let text ← run.text t
    let start := clamped (← run.number start)
    return .text (partOf text start (some (clamped (← run.number length))))
  | .find, [t, pattern] => do
    let text ← run.text t
    let regex ← regexOf run pattern
    let (start, length) : Float × Float := match regex.find? false [] text with
      | some (place, m) =>
        (Float.ofNat (place.before.length + 1),
          Float.ofNat (place.after.length - m.place.after.length))
      | none => (0, -1)
    setValue "RSTART".toList (.number start)
    setValue "RLENGTH".toList (.number length)
    return .number start
  | .replaceAll, [pattern, new] => replace run true pattern new (.field (.number 0))
  | .replaceAll, [pattern, new, target] => replace run true pattern new target
  | .replaceFirst, [pattern, new] => replace run false pattern new (.field (.number 0))
  | .replaceFirst, [pattern, new, target] => replace run false pattern new target
  | .split, [t, table] => splitInto run t table none
  | .split, [t, table, separator] => splitInto run t table (some separator)
  | .formatted, format :: values => do
    let format ← run.text format
    match ← filled "sprintf" format (← values.mapM run.value) with
    | (text, none) => return .text text
    | (_, some message) => failAtRecord message
  | .random, _ => do
    let seed := nextSeed (← get).seed
    modify fun sheet => { sheet with seed }
    return .number (seed / 2147483647)
  | .seed, arguments => do
    let old := (← get).seed
    let seed ← match arguments with
      | [t] => run.number t
      | _ => pure 0
    modify fun sheet => { sheet with seed }
    return .number old
  | _, _ => return .absent

/-- What a function is given for an argument: a name that is free or stands for a table is
shared with the function. -/
def argumentSlot (run : Runs) (t : Term) : Work Slot := do
  match t with
  | .name name =>
    if name = countName then return .value (← valueOf name)
    else
      match ← slot? name with
      | none | some (.value .absent) => return .table (← tableOf name)
      | some slot => return slot
  | t => return .value (← run.value t)

/-- Calls a function of the program. -/
def callFunction (run : Runs) (name : Text) (arguments : List Term) : Work Value := do
  match (← get).functions.lookup name with
  | none => return .absent
  | some function => do
    let slots ← arguments.mapM (argumentSlot run)
    let missing := List.replicate (function.parameters.length - slots.length)
      (Slot.value .absent)
    let frame := (← get).frame
    modify fun sheet => { sheet with frame := function.parameters.zip (slots ++ missing) }
    let result ← caught (run.statement function.body)
    modify fun sheet => { sheet with frame }
    match result with
    | .ok () => return .absent
    | .error (.answered v) => return v
    | .error leave => throw leave

/-! ## Terms -/

/-- Gives what was read to a place, or makes it the record; the result says how it went. -/
def received (run : Runs) (target : Option Term) (result : Except Int Text) : Work Value := do
  match result with
  | .error n => return .number (Float.ofInt n)
  | .ok text => do
    match target with
    | none => setRecord text
    | some t => (← placeOf run t).set (.input text)
    return .number 1

/-- The value of a term, given what runs the parts of it. -/
def termStep (launch : Launch) (run : Runs) : Term → Work Value
  | .number x => pure (.number x)
  | .text t => pure (.text t)
  | .pattern regex => do return .ofBool (occurs regex (← recordText))
  | .name name => valueOf name
  | .element table subscripts => do
    let key ← keyOf (← subscripts.mapM run.value)
    elementAt (← tableOf table) key
  | .field index => do fieldAt (← fieldNumber run index)
  | .group t => run.value t
  | .not t => do return .ofBool !(← run.value t).isTrue
  | .sign isNegative t => do
    let x ← run.number t
    return .number (if isNegative then -x else x)
  | .arithmetic operator a b => do
    let x ← run.number a
    return .number (operator.apply x (← run.number b))
  | .relation relation a b => do
    let v ← run.value a
    let w ← run.value b
    return .ofBool (relation.holds (← numberFormat) v w)
  | .join a b => do
    let text ← run.text a
    return .text (text ++ (← run.text b))
  | .matching isNegated t pattern => do
    let text ← run.text t
    return .ofBool (occurs (← regexOf run pattern) text != isNegated)
  | .both a b => do
    if (← run.value a).isTrue then return .ofBool (← run.value b).isTrue
    else return .ofBool false
  | .either a b => do
    if (← run.value a).isTrue then return .ofBool true
    else return .ofBool (← run.value b).isTrue
  | .choice condition accepted rejected => do
    if (← run.value condition).isTrue then run.value accepted else run.value rejected
  | .member subscripts table => do
    let key ← keyOf (← subscripts.mapM run.value)
    return .ofBool (← hasKey (← tableOf table) key)
  | .assign operator target value => do
    let place ← placeOf run target
    let v ← run.value value
    let v ← match operator with
      | none => pure v
      | some operator => do
        pure (.number (operator.apply (← place.value).asNumber v.asNumber))
    place.set v
    return v
  | .step isBefore isUp target => do
    let place ← placeOf run target
    let old := (← place.value).asNumber
    let new := if isUp then old + 1 else old - 1
    place.set (.number new)
    return .number (if isBefore then new else old)
  | .call function arguments => callFunction run function arguments
  | .builtin builtin arguments => callBuiltin launch run builtin arguments
  | .readInput target => do
    match ← Flow.nextRecord Flow.operandLimit with
    | some record => received run target (.ok record)
    | none => return .number 0
  | .readFile file target => do
    let name ← run.text file
    received run target (← Flow.readNamed name (Flow.sourceOfFile name))
  | .readCommand command target => do
    let name ← run.text command
    received run target
      (← Flow.readNamed name (.ok <$> Flow.sourceOfCommand launch name))

/-! ## Statements -/

/-- What comes of a part of a loop: whether the loop goes on. -/
def goesOn (work : Work Unit) : Work Bool := do
  match ← caught work with
  | .ok () | .error .continued => return true
  | .error .broken => return false
  | .error leave => throw leave

/-- Runs the rounds of a loop. -/
def rounds (condition : Work Bool) (body next : Work Unit) : (fuel : Nat) → Work Unit
  | 0 => pure ()
  | fuel + 1 => do
    if ← condition then
      if ← goesOn body then
        next
        rounds condition body next fuel

/-- Runs the body of a loop for each key. -/
def eachKey (name : Text) (body : Work Unit) : List Text → Work Unit
  | [] => pure ()
  | key :: keys => do
    setValue name (.text key)
    if ← goesOn body then eachKey name body keys

/-- A value as it is printed. -/
def printedText (v : Value) : Work Text := do
  match v with
  | .number x => return numberText (← textOf "OFMT") x
  | v => asText v

/-- Prints what a statement asks for, and then fails if its format asks for too much. -/
def print (run : Runs) (formatted : Bool) (terms : List Term) (goal : Option (Route × Term)) :
    Work Unit := do
  let (text, fault) ← match formatted, terms with
    | true, format :: values => do
      let format ← run.text format
      filled "printf" format (← values.mapM run.value)
    | _, [] => do
      let text ← recordText
      pure (text ++ (← textOf "ORS"), none)
    | _, terms => do
      let values ← terms.mapM run.value
      let texts ← values.mapM printedText
      let text := List.intercalate (← textOf "OFS") texts
      pure (text ++ (← textOf "ORS"), none)
  match goal with
  | none => modify fun sheet => { sheet with pending := sheet.pending ++ text }
  | some (route, name) => Flow.printTo route (← run.text name) text
  match fault with
  | some message => failAtRecord message
  | none => pure ()

/-- Runs a statement, given what runs the parts of it and how often a loop may go round. -/
def statementStep (run : Runs) (limit : Nat) : Statement → Work Unit
  | .nothing => pure ()
  | .value t => do let _ ← run.value t
  | .print formatted terms goal => print run formatted terms goal
  | .sequence statements => statements.forM run.statement
  | .choice condition accepted rejected => do
    if (← run.value condition).isTrue then run.statement accepted
    else (rejected.toList).forM run.statement
  | .loop isBefore condition body => do
    let holds : Work Bool := do return (← run.value condition).isTrue
    if isBefore then rounds holds (run.statement body) (pure ()) limit
    else if ← goesOn (run.statement body) then
      rounds holds (run.statement body) (pure ()) limit
  | .steps start condition next body => do
    let once := fun (t : Option Term) => t.toList.forM fun t => run.statement (.value t)
    let holds : Work Bool := match condition with
      | some condition => do return (← run.value condition).isTrue
      | none => pure true
    once start
    rounds holds (run.statement body) (once next) limit
  | .iteration name table body => do
    let index ← tableOf table
    let table := (← tableAt index).withNames
    setTable index table
    eachKey name (run.statement body) table.keys
  | .delete table none => do setTable (← tableOf table) {}
  | .delete table (some subscripts) => do
    let key ← keyOf (← subscripts.mapM run.value)
    let index ← tableOf table
    setTable index ((← tableAt index).erase key.1)
  | .skipRecord => throw .record
  | .skipFile => throw .file
  | .finish status => do
    match status with
    | some t => do
      let n := word (← run.number t)
      modify fun sheet => { sheet with status := n % 256 }
    | none => pure ()
    throw .finished
  | .answer value => do
    match value with
    | some t => throw (.answered (← run.value t))
    | none => throw (.answered .absent)
  | .breakLoop => throw .broken
  | .continueLoop => throw .continued

/-- Runs a task. -/
def run (launch : Launch) : (fuel : Nat) → Task → Work Value
  | 0, _ => throw .failed
  | fuel + 1, .term t => termStep launch (run launch fuel) t
  | fuel + 1, .statement s => do
    statementStep (run launch fuel) fuel s
    return .absent

/-! ## Programs -/

/-- Whether a rule applies to the record. -/
def applies (run : Runs) : Condition → Work Bool
  | .always => pure true
  | .when t => do return (← run.value t).isTrue
  | .between index first last => do
    let isOpen := (← get).spans.contains index
    if isOpen || (← run.value first).isTrue then
      let isLast := (← run.value last).isTrue
      modify fun sheet =>
        let others := sheet.spans.filter (· ≠ index)
        { sheet with spans := if isLast then others else index :: others }
      return true
    else return false

/-- Applies the rules to the record. -/
def applyRules (run : Runs) (rules : List (Condition × Statement)) : Work Unit :=
  rules.forM fun (condition, body) => do
    if ← applies run condition then run.statement body

/-- Applies the rules to all records. -/
def eachRecord (run : Runs) (rules : List (Condition × Statement)) : (fuel : Nat) → Work Unit
  | 0 => pure ()
  | fuel + 1 => do
    match ← Flow.nextRecord Flow.operandLimit with
    | none => pure ()
    | some record => do
      setRecord record
      match ← caught (applyRules run rules) with
      | .ok () | .error .record => pure ()
      | .error .file => modify fun sheet => { sheet with main := none }
      | .error leave => throw leave
      eachRecord run rules fuel

/-- Runs all of a program; the result says whether it ended as it should. -/
def runProgram (launch : Launch) (run : Runs) (limit : Nat) (found : Program) : Work Bool := do
  let result ← caught do
    match ← caught do
        found.before.forM run.statement
        if !(found.rules.isEmpty && found.after.isEmpty) then
          eachRecord run found.rules limit with
    | .ok () | .error .finished => pure ()
    | .error leave => throw leave
    match ← caught (found.after.forM run.statement) with
    | .ok () | .error .finished => pure ()
    | .error leave => throw leave
  Flow.closeAll launch
  match result with
  | .ok () => return true
  | .error _ => return false

end Marginalia.Shell.Rule
