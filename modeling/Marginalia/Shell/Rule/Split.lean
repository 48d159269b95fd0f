import Marginalia.Shell.Rule.Pattern

/-!
# Cutting and replacing

How a text is cut into fields and records, and how what matches an expression is
replaced. An empty match cuts nothing; where it is replaced it may not follow another
match immediately.
-/

namespace Marginalia.Shell.Rule

/-- What stands between fields. -/
inductive Separator where
  /-- Any number of blanks, which count for nothing at the ends. -/
  | blanks
  | char (c : Char)
  /-- Nothing: each character is a field. -/
  | nothing
  | pattern (regex : Regex)

/-- The separator that a text stands for. -/
def Separator.ofText (text : Text) : Except Pattern.Fault Separator :=
  match text with
  | [' '] => .ok .blanks
  | [c] => .ok (.char c)
  | [] => .ok .nothing
  | text => (Pattern.parse text).map .pattern

/-- The pieces between runs of blanks. -/
def words (text : Text) : List Text :=
  (Text.splitOn ' ' (text.map fun c => if c = '\t' || c = '\n' then ' ' else c)).filter (· ≠ [])

/-- The length of what matches at a place. -/
def sizeAt? (regex : Regex) (before after : Text) : Option Nat :=
  (regex.longest? false ⟨before, after⟩).map fun m => after.length - m.place.after.length

/-- The pieces between the matches that are not empty; `skip` characters belong to a match. -/
def piecesFrom (regex : Regex) (before : Text) (skip : Nat) : Text → List Text
  | [] => [[]]
  | c :: text =>
    match skip with
    | skip + 1 => piecesFrom regex (c :: before) skip text
    | 0 =>
      match sizeAt? regex before (c :: text) with
      | some (size + 1) => [] :: piecesFrom regex (c :: before) size text
      | _ => Text.consPiece c (piecesFrom regex (c :: before) 0 text)

/-- The fields of a text. -/
def Separator.fields (separator : Separator) (text : Text) : List Text :=
  if text = [] then []
  else
    match separator with
    | .blanks => words text
    | .char c => Text.splitOn c text
    | .nothing => text.map fun c => [c]
    | .pattern regex => piecesFrom regex [] 0 text

/-! ## Records -/

/-- What ends a record. -/
inductive Ending where
  | char (c : Char)
  /-- Empty lines, of which those before a record count for nothing. -/
  | emptyLines
  | pattern (regex : Regex)

/-- The ending that a text stands for. -/
def Ending.ofText (text : Text) : Except Pattern.Fault Ending :=
  match text with
  | [] => .ok .emptyLines
  | [c] => .ok (.char c)
  | text => (Pattern.parse text).map .pattern

/-- The lines up to the first empty one, and what follows all empty ones after them. -/
def paragraph : Text → Text × Text
  | [] => ([], [])
  | '\n' :: '\n' :: text => ([], text.dropWhile (· == '\n'))
  | c :: text =>
    let (rest, after) := paragraph text
    (c :: rest, after)

/-- What precedes the first match that is not empty, and what follows it. -/
def cutAt (regex : Regex) (before : Text) : Text → Text × Text
  | [] => ([], [])
  | c :: text =>
    match sizeAt? regex before (c :: text) with
    | some (size + 1) => ([], text.drop size)
    | _ =>
      let (rest, after) := cutAt regex (c :: before) text
      (c :: rest, after)

/-- The first record of a text and what follows it, if there is one. -/
def Ending.first? (ending : Ending) (text : Text) : Option (Text × Text) :=
  if text = [] then none
  else
    match ending with
    | .char c => some (text.takeWhile (· != c), (text.dropWhile (· != c)).tail)
    | .pattern regex => some (cutAt regex [] text)
    | .emptyLines =>
      match text.dropWhile (· == '\n') with
      | [] => none
      | text =>
        let (lines, after) := paragraph text
        some (if lines.getLast? = some '\n' then lines.dropLast else lines, after)

/-- Whether a text surely holds all of its first record. -/
def Ending.isWithin (ending : Ending) (text : Text) : Bool :=
  match ending with
  | .char c => text.contains c
  | _ => false

/-! ## Replacing -/

/-- What replaces a match: an ampersand stands for it, unless the backslashes before it, of which
`count` are held back, are odd in number. -/
def replacement (found : Text) : (count : Nat) → Text → Text
  | count, [] => List.replicate count '\\'
  | count, c :: text =>
    if c = '\\' then replacement found (count + 1) text
    else if c = '&' then
      List.replicate (count / 2) '\\' ++ (if count % 2 = 1 then ['&'] else found) ++
        replacement found 0 text
    else List.replicate count '\\' ++ c :: replacement found 0 text

/-- A text with its matches replaced, all or the first one, and their number. An empty match
counts only if `mayBeEmpty`; `skip` characters belong to a match. -/
def replaceFrom (regex : Regex) (new : Text) (all mayBeEmpty : Bool) (before : Text) (skip : Nat) :
    Text → Text × Nat
  | [] =>
    if mayBeEmpty && skip = 0 && (sizeAt? regex before []).isSome then (replacement [] 0 new, 1)
    else ([], 0)
  | c :: text =>
    match skip with
    | skip + 1 => replaceFrom regex new all false (c :: before) skip text
    | 0 =>
      match sizeAt? regex before (c :: text) with
      | some (size + 1) =>
        let made := replacement ((c :: text).take (size + 1)) 0 new
        if all then
          let (rest, count) := replaceFrom regex new all false (c :: before) size text
          (made ++ rest, count + 1)
        else (made ++ text.drop size, 1)
      | some 0 =>
        if !mayBeEmpty then
          let (rest, count) := replaceFrom regex new all true (c :: before) 0 text
          (c :: rest, count)
        else
          let made := replacement [] 0 new
          if all then
            let (rest, count) := replaceFrom regex new all true (c :: before) 0 text
            (made ++ c :: rest, count + 1)
          else (made ++ c :: text, 1)
      | none =>
        let (rest, count) := replaceFrom regex new all true (c :: before) 0 text
        (c :: rest, count)

end Marginalia.Shell.Rule
