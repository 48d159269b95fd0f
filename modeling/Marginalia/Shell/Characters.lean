import Marginalia.Shell.Pattern
import Marginalia.Shell.Request

/-!
# Exchanging characters

A program that exchanges, deletes or squeezes characters. It is called with sets of
characters, whose order counts: a set is written with ranges, classes and
repetitions, and the characters of one set are exchanged for those of the other one
at the same places.
-/

namespace Marginalia.Shell.Translation

/-- A part of a written set. -/
inductive Element where
  | char (c : Char)
  | range (low high : Char)
  | named (name : Text)
  /-- The characters that count as equal to one, which are that one alone. -/
  | equal (c : Char)
  /-- A character so many times; zero is as often as it takes. -/
  | times (c : Char) (count : Nat)
  deriving DecidableEq, Repr

/-- What is wrong with the sets that the program is called with. -/
inductive Fault where
  | reverseRange (low high : Char)
  | noClass
  | unknownClass (name : Text)
  | noEqual
  | longEqual (text : Text)
  | badCount (text : Text)
  | repeatInFirst
  | severalRepeats
  | equalInSecond
  | classInSecond
  | misaligned
  | emptySecond
  | endsInClass
  | manyGoals
  | repeatWithoutExchange
  deriving DecidableEq, Repr

/-- A character as it is shown in a message. -/
def shownChar (c : Char) : Text :=
  if ' ' ≤ c && c ≤ '~' then [c]
  else
    let digits := Nat.toDigits 8 c.toNat
    '\\' :: List.replicate (3 - digits.length) '0' ++ digits

/-- A fault in words. -/
def Fault.message : Fault → Text
  | .reverseRange low high =>
    "range-endpoints of '".toList ++ shownChar low ++ '-' :: shownChar high ++
      "' are in reverse collating sequence order".toList
  | .noClass => "missing character class name '[::]'".toList
  | .unknownClass name => "invalid character class ".toList ++ Utility.quoted name
  | .noEqual => "missing equivalence class character '[==]'".toList
  | .longEqual text =>
    text ++ ": equivalence class operand must be a single character".toList
  | .badCount text =>
    "invalid repeat count ".toList ++ Utility.quoted text ++ " in [c*n] construct".toList
  | .repeatInFirst => "the [c*] repeat construct may not appear in string1".toList
  | .severalRepeats => "only one [c*] repeat construct may appear in string2".toList
  | .equalInSecond =>
    "[=c=] expressions may not appear in string2 when translating".toList
  | .classInSecond =>
    ("when translating, the only character classes that may appear in\n" ++
      "string2 are 'upper' and 'lower'").toList
  | .misaligned => "misaligned [:upper:] and/or [:lower:] construct".toList
  | .emptySecond => "when not truncating set1, string2 must be non-empty".toList
  | .endsInClass =>
    ("when translating with string1 longer than string2,\n" ++
      "the latter string must not end with a character class").toList
  | .manyGoals =>
    ("when translating with complemented character classes,\n" ++
      "string2 must map all characters in the domain to one").toList
  | .repeatWithoutExchange =>
    "the [c*] construct may appear in string2 only when translating".toList

/-! ## Reading sets -/

/-- An octal digit. -/
def isOctal (c : Char) : Bool := '0' ≤ c && c ≤ '7'

/-- What a backslash before a text stands for, and how much of the text belongs to it. -/
def escaped (text : Text) : Char × Nat :=
  match text with
  | [] => ('\\', 0)
  | c :: _ =>
    let digits := (text.take 3).takeWhile isOctal
    let value := fun (digits : Text) =>
      digits.foldl (fun n d => n * 8 + (d.toNat - '0'.toNat)) 0
    if digits ≠ [] then
      if 255 < value digits then (.ofNat (value (digits.take 2)), 2)
      else (.ofNat (value digits), digits.length)
    else
      match c with
      | 'a' => ('\x07', 1)
      | 'b' => ('\x08', 1)
      | 'f' => ('\x0c', 1)
      | 'n' => ('\n', 1)
      | 'r' => ('\r', 1)
      | 't' => ('\t', 1)
      | 'v' => ('\x0b', 1)
      | c => (c, 1)

/-- The characters of a set, each with whether it was escaped; `skip` are done with. -/
def unescaped (skip : Nat) : Text → List (Char × Bool)
  | [] => []
  | c :: text =>
    match skip with
    | skip + 1 => unescaped skip text
    | 0 =>
      if c = '\\' then
        let (meant, size) := escaped text
        (meant, true) :: unescaped size text
      else (c, false) :: unescaped 0 text

/-- What is said about the escapes of a set. -/
def warnings (skip : Nat) : Text → List Text
  | [] => []
  | c :: text =>
    match skip with
    | skip + 1 => warnings skip text
    | 0 =>
      if c ≠ '\\' then warnings 0 text
      else
        let digits := (text.take 3).takeWhile isOctal
        let (_, size) := escaped text
        (if text = [] then
          ["an unescaped backslash at end of string is not portable".toList]
        else if size < digits.length then
          ["the ambiguous octal escape \\".toList ++ digits ++
            " is being\n\tinterpreted as the 2-byte sequence \\0".toList ++ digits.take 2 ++
            ", ".toList ++ digits.drop 2]
        else []) ++ warnings size text

/-- The text up to a mark and a closing bracket, neither of which is escaped. -/
def upToClosing? (mark : Char) : List (Char × Bool) → Option Text
  | (c, false) :: (d, false) :: rest =>
    if c = mark && d = ']' then some []
    else (upToClosing? mark ((d, false) :: rest)).map (c :: ·)
  | (c, _) :: rest => (upToClosing? mark rest).map (c :: ·)
  | [] => none

/-- The number of repetitions up to a closing bracket. -/
def repetitions? (inside : List (Char × Bool)) : Option (Except Fault (Nat × Nat)) :=
  match inside.findIdx? fun (c, isEscaped) => c == ']' && !isEscaped with
  | none => none
  | some size =>
    let digits := (inside.take size).map (·.1)
    let isOctalNumber := digits.head? = some '0'
    if digits.all fun c => if isOctalNumber then isOctal c else c.isDigit then
      let base := if isOctalNumber then 8 else 10
      some (.ok (digits.foldl (fun n d => n * base + (d.toNat - '0'.toNat)) 0, size))
    else some (.error (.badCount digits))

/-- The element that starts with an opening bracket, and how many characters follow that. -/
def bracketed? (inside : List (Char × Bool)) : Option (Except Fault (Element × Nat)) :=
  let repeated :=
    match inside with
    | (c, _) :: ('*', false) :: rest =>
      (repetitions? rest).map fun result =>
        result.map fun (count, size) => (.times c count, size + 3)
    | _ => none
  match inside with
  | (':', false) :: rest =>
    match upToClosing? ':' rest with
    | some [] => some (.error .noClass)
    | some name =>
      if (CharSet.classRanges name).isEmpty then
        match repeated with
        | some (.ok found) => some (.ok found)
        | _ => some (.error (.unknownClass name))
      else some (.ok (.named name, name.length + 3))
    | none => repeated
  | ('=', false) :: rest =>
    match upToClosing? '=' rest with
    | some [] => some (.error .noEqual)
    | some [c] => some (.ok (.equal c, 4))
    | some text =>
      match repeated with
      | some (.ok found) => some (.ok found)
      | _ => some (.error (.longEqual text))
    | none => repeated
  | _ => repeated

/-- The elements of a set, of whose characters `skip` are done with. -/
def elements (skip : Nat) : List (Char × Bool) → Except Fault (List Element)
  | [] => .ok []
  | (c, isEscaped) :: rest =>
    match skip with
    | skip + 1 => elements skip rest
    | 0 =>
      match if c = '[' && !isEscaped then bracketed? rest else none with
      | some (.error fault) => .error fault
      | some (.ok (element, size)) => (elements size rest).map (element :: ·)
      | none =>
        match rest with
        | ('-', false) :: (d, _) :: _ =>
          if d < c then .error (.reverseRange c d)
          else (elements 2 rest).map (.range c d :: ·)
        | _ => (elements 0 rest).map (.char c :: ·)

/-! ## Sets in order -/

/-- The characters from one to another. -/
def span (low high : Char) : Text :=
  (List.range (high.toNat + 1 - low.toNat)).map fun k => .ofNat (low.toNat + k)

/-- The characters of an element, where `filling` says how often one is repeated without limit. -/
def Element.chars (filling : Nat) : Element → Text
  | .char c | .equal c => [c]
  | .range low high => span low high
  | .named name => (CharSet.classRanges name).flatMap fun (low, high) => span low high
  | .times c 0 => List.replicate filling c
  | .times c count => List.replicate count c

/-- Whether an element is a class of letters of one case. -/
def Element.isCase : Element → Bool
  | .named name => name = "upper".toList || name = "lower".toList
  | _ => false

/-- Whether an element is a class. -/
def Element.isNamed : Element → Bool
  | .named _ => true
  | _ => false

/-- Whether a character is repeated as often as it takes. -/
def Element.isFilling : Element → Bool
  | .times _ 0 => true
  | _ => false

/-- The places at which the classes of letters of one case start. -/
def casePlaces (filling place : Nat) : List Element → List Nat
  | [] => []
  | element :: rest =>
    (if element.isCase then [place] else []) ++
      casePlaces filling (place + (element.chars filling).length) rest

/-- All bytes in order but those of a set. -/
def complement (set : Text) : Text :=
  (span '\x00' '\xff').filter fun c => !set.contains c

/-- What the program does. -/
structure Task where
  complements : Bool := false
  deletes : Bool := false
  squeezes : Bool := false
  truncates : Bool := false

/-- The characters of the first set in order. -/
def Task.source (task : Task) (first : List Element) : Text :=
  let set := first.flatMap (Element.chars 0)
  if task.complements then complement set else set

/-- The second set, as long as the first one, or what is wrong with the two. -/
def Task.goal (task : Task) (first second : List Element) : Except Fault Text := do
  if (second.filter Element.isFilling).length > 1 then throw .severalRepeats
  let source := task.source first
  let size := (second.flatMap (Element.chars 0)).length
  let filling := source.length - size
  let goal := second.flatMap (Element.chars filling)
  if second.any fun element => element matches .equal _ then throw .equalInSecond
  if second.any fun element => element.isNamed && !element.isCase then throw .classInSecond
  let places := casePlaces 0 0 first
  if !task.complements &&
      (casePlaces filling 0 second).any fun place =>
        place < source.length && !places.contains place then
    throw .misaligned
  let extended ←
    if goal.length < source.length && !task.truncates then
      match goal.getLast? with
      | none => throw .emptySecond
      | some last =>
        if second.getLast?.any Element.isNamed then throw .endsInClass
        pure (goal ++ List.replicate (source.length - goal.length) last)
    else pure goal
  let isOne := extended.all fun c => some c == extended.head?
  if task.complements && first.any Element.isNamed && !isOne then throw .manyGoals
  return extended

/-- A text in which no character of a set stands twice in a row. -/
def squeeze (set : Char → Bool) : Text → Text
  | [] => []
  | c :: text =>
    match squeeze set text with
    | [] => [c]
    | d :: rest => if c = d && set c then d :: rest else c :: d :: rest

/-- What becomes of a text. -/
def Task.run (task : Task) (first : List Element) (second : Option (List Element))
    (text : Text) : Except Fault Text := do
  if first.any Element.isFilling then throw .repeatInFirst
  let source := task.source first
  match second with
  | none =>
    if task.deletes then return text.filter fun c => !source.contains c
    return squeeze source.contains text
  | some second =>
    if task.deletes then
      if second.any Element.isFilling then throw .repeatWithoutExchange
      let set := second.flatMap (Element.chars 0)
      return squeeze set.contains (text.filter fun c => !source.contains c)
    let goal ← task.goal first second
    let pairs := (source.zip goal).reverse
    let text := text.map fun c => (pairs.lookup c).getD c
    return if task.squeezes then squeeze goal.contains text else text

end Marginalia.Shell.Translation

namespace Marginalia.Shell

/-- Exchanges, deletes or squeezes characters. -/
def Utility.tr (request : Request) : Effect :=
  withOptions request "+AcCdst"
    [("complement", 'c'), ("delete", 'd'), ("squeeze-repeats", 's'), ("truncate-set1", 't')]
    fun found operands =>
      let task : Translation.Task :=
        { complements := has found 'c' || has found 'C'
          deletes := has found 'd'
          squeezes := has found 's'
          truncates := has found 't' }
      let least := if task.deletes = task.squeezes then 2 else 1
      let most := if task.deletes && !task.squeezes then 1 else 2
      match operands with
      | [] => refuseUsage request "missing operand".toList 1
      | first :: rest =>
        if operands.length < least then
          let task := if task.squeezes then "both deleting and squeezing repeats." else "translating."
          refuseUsage request ("missing operand after ".toList ++ quoted first ++
            "\nTwo strings must be given when ".toList ++ task.toList) 1
        else if most < operands.length then
          let note := if operands.length = 2 then
              "\nOnly one string may be given when deleting without squeezing repeats.".toList
            else []
          refuseUsage request
            ("extra operand ".toList ++ quoted ((operands[most]?).getD []) ++ note) 1
        else
          let read := fun (set : Text) => Translation.elements 0 (Translation.unescaped 0 set)
          let warned := (operands.flatMap (Translation.warnings 0)).map fun warning =>
            (2, "tr: warning: ".toList ++ warning ++ ['\n'])
          let result := do
            let first ← read first
            let second ← rest.head?.mapM read
            task.run first second request.stdin
          match result with
          | .ok text => { written := warned ++ [(1, text)], reads := true }
          | .error fault =>
            { written := warned ++ [(2, "tr: ".toList ++ fault.message ++ ['\n'])], status := 1 }

end Marginalia.Shell
