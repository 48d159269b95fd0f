import Marginalia.Shell.Arithmetic
import Marginalia.Shell.Machine
import Marginalia.Shell.Pattern

/-!
# Expansion

What words stand for. A word first becomes a list of glyphs, which are characters
that remember where they come from: quoted ones keep to themselves, those of a
value that is not quoted can be cut into fields, and those that are not quoted can
be signs of a pattern. Fields that are patterns then become the paths they match.

The functions here are given `capture`, which runs a command and returns what it
prints.
-/

namespace Marginalia.Shell

/-- A character that remembers where it comes from, or a sign between characters. -/
inductive Glyph where
  /-- A character of the script. -/
  | plain (c : Char)
  /-- A character that is quoted. -/
  | kept (c : Char)
  /-- A character of a value that is not quoted. -/
  | loose (c : Char)
  /-- Quotes. -/
  | quotes
  /-- The end of a field. -/
  | division
  deriving DecidableEq, Repr

namespace Glyph

/-- The character of a glyph, and whether it can be the sign of a pattern. -/
def marked? : Glyph → Option (Char × Bool)
  | .plain c | .loose c => some (c, true)
  | .kept c => some (c, false)
  | .quotes | .division => none

/-- The text of glyphs. -/
def text (glyphs : List Glyph) : Text :=
  glyphs.filterMap fun glyph => glyph.marked?.map (·.1)

/-- The pattern that glyphs write. -/
def pattern (glyphs : List Glyph) : Pattern :=
  .parse (glyphs.filterMap marked?)

/-- A value as glyphs. -/
def ofValue (quoted : Bool) (value : Text) : List Glyph :=
  value.map fun c => if quoted then .kept c else .loose c

/-- Whether a character is white space that separates fields. -/
def isWhite (c : Char) : Bool := c == ' ' || c == '\t' || c == '\n'

/--
The fields of glyphs. White space between fields counts once; another separator
ends a field even if the field is empty, unless it only follows the white space
after one (`after`).
-/
def fields (separators : Text) (current : Option (List Glyph)) (after : Bool) :
    List Glyph → List (List Glyph)
  | [] => current.toList.map List.reverse
  | glyph :: glyphs =>
    let finished := current.toList.map List.reverse
    match glyph with
    | .division => finished ++ fields separators none false glyphs
    | .loose c =>
      if !separators.contains c then
        fields separators (some (glyph :: current.getD [])) false glyphs
      else if isWhite c then
        finished ++ fields separators none (after || current.isSome) glyphs
      else if current.isSome || after then finished ++ fields separators none false glyphs
      else [] :: fields separators none false glyphs
    | glyph => fields separators (some (glyph :: current.getD [])) false glyphs

end Glyph

/-! ## Paths -/

/-- The components of marked characters between slashes. -/
def components : List (Char × Bool) → List (List (Char × Bool))
  | [] => [[]]
  | (c, active) :: rest =>
    if c = '/' then [] :: components rest
    else
      match components rest with
      | [] => [[(c, active)]]
      | first :: others => ((c, active) :: first) :: others

/-- The names in a directory that a pattern of a component matches. -/
def matchingNames (disk : Disk) (directory : Text) (pattern : Pattern) : List Text :=
  match disk.directoryAt? (if directory = [] then ['.'] else decodeText directory) with
  | none => []
  | some place =>
    let hidden := pattern.head? = some (.char '.')
    ((disk.children place).map encodeText).filter fun name =>
      (hidden || name.head? ≠ some '.') && pattern.accepts name

/-- The paths that start with one path and go on as components say. -/
def pathsFrom (disk : Disk) (base : Text) : List (List (Char × Bool)) → List Text
  | [] => []
  | [component] =>
    if component = [] then [base]
    else
      let pattern := Pattern.parse component
      if pattern.isOpen then (matchingNames disk base pattern).map (base ++ ·)
      else
        let path := base ++ component.map (·.1)
        if disk.exists? (decodeText path) then [path] else []
  | component :: others =>
    let pattern := Pattern.parse component
    let names :=
      if pattern.isOpen then matchingNames disk base pattern else [component.map (·.1)]
    names.flatMap fun name => pathsFrom disk (base ++ name ++ ['/']) others

/-- What a field becomes: the paths that it matches if it is a pattern of some, or its text. -/
def paths (machine : Machine) (field : List Glyph) : List Text :=
  let marked := field.filterMap Glyph.marked?
  if machine.options.noGlob || !(Pattern.parse marked).isOpen then [Glyph.text field]
  else
    match pathsFrom machine.view [] (components marked) with
    | [] => [Glyph.text field]
    | found => found.mergeSort Text.isLe

/-! ## Words -/

/-- A text without the newlines at its end. -/
def withoutFinalNewlines (text : Text) : Text := Text.dropEndWhile (· == '\n') text

/-- The value of a variable as a number. -/
def numberOf (machine : Machine) (name : Text) : Except Arithmetic.Fault Int :=
  match machine.held? name with
  | none => .ok 0
  | some value =>
    match Arithmetic.integer? value with
    | some n => .ok n
    | none => .error (.notANumber value)

/-- The value of an expression. -/
def calculate (expression : Text) : Act Text := do
  match Arithmetic.evaluate (numberOf (← get)) expression with
  | .error fault => fail (fault.message expression)
  | .ok (value, assigned) => do
    assigned.reverse.forM fun (name, value) => assign name (Text.ofInt value)
    return Text.ofInt value

/-- The value of all arguments as glyphs; in fields each argument is one of its own. -/
def argumentGlyphs (full quoted : Bool) (name : Text) : Act (List Glyph) := do
  let machine ← get
  let divide := fun (pieces : List (List Glyph)) => List.intercalate [.division] pieces
  if full && quoted && name = ['@'] then
    return divide (machine.arguments.map fun argument => .quotes :: Glyph.ofValue true argument)
  else if full && !quoted then
    return divide (machine.arguments.map (Glyph.ofValue false))
  else return Glyph.ofValue true machine.joined

/-- The value of a parameter as glyphs. -/
def valueGlyphs (full quoted : Bool) (name : Text) : Act (List Glyph) := do
  if name = ['@'] || name = ['*'] then argumentGlyphs full quoted name
  else return Glyph.ofValue quoted (((← get).value? name).getD [])

/-- Stops if a parameter without a value is not allowed. -/
def requireSet (name : Text) : Act Unit := do
  let machine ← get
  if machine.options.noUnset && (machine.value? name).isNone && name ≠ ['@'] && name ≠ ['*'] then
    fail (name ++ ": parameter not set".toList)

/-- Whether a parameter has a value that counts. -/
def hasValue (name : Text) (emptyToo : Bool) : Act Bool := do
  match (← get).value? name with
  | none => return false
  | some value => return !(emptyToo && value = [])

/-- What the script says of a parameter without a value. -/
def absenceMessage (name : Text) (emptyToo : Bool) (message : Text) : Text :=
  let reason :=
    if message ≠ [] then message
    else if emptyToo then "parameter not set or null".toList
    else "parameter not set".toList
  name ++ ": ".toList ++ reason

mutual

/-- The glyphs of a word; its own characters can be cut into fields if they are `loose`. -/
def wordGlyphs (capture : Option Command → Act Text) (full loose : Bool) :
    List Part → Act (List Glyph)
  | [] => pure []
  | part :: parts => do
    let first ← partGlyphs capture full loose part
    return first ++ (← wordGlyphs capture full loose parts)

/-- The glyphs of a part. -/
def partGlyphs (capture : Option Command → Act Text) (full loose : Bool) :
    Part → Act (List Glyph)
  | .char c => pure [if loose then .loose c else .plain c]
  | .kept c => pure [.kept c]
  | .quotes => pure [.quotes]
  | .parameter name use quoted => useGlyphs capture full quoted name use
  | .output command quoted => do
    return Glyph.ofValue quoted (withoutFinalNewlines ((← capture command).filter (· != '\x00')))
  | .number expression quoted => do
    let glyphs ← wordGlyphs capture false false expression
    return Glyph.ofValue quoted (← calculate (Glyph.text glyphs))

/-- The glyphs of what is made of a parameter. -/
def useGlyphs (capture : Option Command → Act Text) (full quoted : Bool) (name : Text) :
    Use → Act (List Glyph)
  | .value => do
    requireSet name
    valueGlyphs full quoted name
  | .length => do
    requireSet name
    let machine ← get
    let size :=
      if name = ['@'] || name = ['*'] then machine.arguments.length
      else ((machine.value? name).getD []).length
    return Glyph.ofValue quoted (Text.ofNat size)
  | .orElse emptyToo word => do
    if ← hasValue name emptyToo then valueGlyphs full quoted name
    else wordGlyphs capture full (!quoted) word
  | .orAssign emptyToo word => do
    if ← hasValue name emptyToo then valueGlyphs full quoted name
    else
      let glyphs ← wordGlyphs capture false false word
      if isName name then
        assign name (Glyph.text glyphs)
        valueGlyphs full quoted name
      else fail (name ++ ": bad variable name".toList)
  | .orFail emptyToo word => do
    if ← hasValue name emptyToo then valueGlyphs full quoted name
    else
      let glyphs ← wordGlyphs capture false false word
      fail (absenceMessage name emptyToo (Glyph.text glyphs))
  | .andThen emptyToo word => do
    if ← hasValue name emptyToo then wordGlyphs capture full (!quoted) word
    else return []
  | .without atEnd longest word => do
    requireSet name
    let pattern := Glyph.pattern (← wordGlyphs capture false false word)
    let value := ((← get).value? name).getD []
    return Glyph.ofValue quoted
      (if atEnd then pattern.dropEnd longest value else pattern.dropStart longest value)
  | .invalid => fail "Bad substitution".toList

end

/-- A word with the home directory in place of a tilde at its start. -/
def homeGlyphs (machine : Machine) (word : Word) : List Glyph × Word :=
  let home := ((machine.held? "HOME".toList).map (Glyph.ofValue true)).getD [.kept '~']
  match word with
  | [.char '~'] => (home, [])
  | .char '~' :: .char '/' :: rest => (home, .char '/' :: rest)
  | word => ([], word)

/-- The texts that a word stands for. -/
def expandWord (capture : Option Command → Act Text) (word : Word) : Act (List Text) := do
  let (home, word) := homeGlyphs (← get) word
  let glyphs ← wordGlyphs capture true false word
  let machine ← get
  return (Glyph.fields machine.separators none false (home ++ glyphs)).flatMap (paths machine)

/-- The texts that words stand for. -/
def expandWords (capture : Option Command → Act Text) : List Word → Act (List Text)
  | [] => pure []
  | word :: words => do
    let first ← expandWord capture word
    return first ++ (← expandWords capture words)

/-- The one text that a word stands for. -/
def expandText (capture : Option Command → Act Text) (word : Word) : Act Text := do
  let (home, word) := homeGlyphs (← get) word
  return Glyph.text (home ++ (← wordGlyphs capture false false word))

/-- The pattern that a word stands for. -/
def expandPattern (capture : Option Command → Act Text) (word : Word) : Act Pattern := do
  return Glyph.pattern (← wordGlyphs capture false false word)

end Marginalia.Shell
