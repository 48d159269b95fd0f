import Marginalia.Text.Blank

/-!
# Numeric character references

A reference to a character by number ends in a semicolon. One that ends without
is completed before the text is read further. A number sign after an ampersand
that starts no reference puts an end to this for the rest of a page: at once if
no semicolon follows, otherwise the second time. An instruction or declaration
that is begun at the start of a line and not ended counts as such a time too,
and references in it stay as they are. Fenced code is not looked at, but what
comes after it is the same page.
-/

namespace Marginalia.Markup

/-- Whether a character is a hexadecimal digit. -/
def isHexDigit (c : Char) : Bool :=
  c.isDigit || ('a' ≤ c && c ≤ 'f') || ('A' ≤ c && c ≤ 'F')

/-- The length of the number of a reference, which no hexadecimal digit follows. -/
def referenceLength? (text : Text) : Option Nat :=
  let (mark, digits) :=
    match text with
    | 'x' :: rest => (1, rest.takeWhile isHexDigit)
    | 'X' :: rest => (1, rest.takeWhile isHexDigit)
    | _ => (0, text.takeWhile Char.isDigit)
  let size := mark + digits.length
  if digits = [] || (((text.drop size).head?.map isHexDigit).getD false) then none else some size

/-- Whether two characters come one after the other in a text. -/
def hasPair (first second : Char) (text : Text) : Bool :=
  (text.zip text.tail).contains (first, second)

/-- Whether what follows a less-than sign at the start of a line is begun and not ended. -/
def isUnended (later : List Text) (text : Text) : Bool :=
  match text with
  | '?' :: _ => !(text :: later).any (hasPair '?' '>')
  | '!' :: c :: _ => c ≠ '[' && !(text :: later).any (·.contains '>')
  | _ => false

/-- How much of an unended instruction or declaration is passed over after its first character. -/
def unendedLength (text : Text) : Nat :=
  if text.contains '>' then (text.takeWhile (· != '>')).length + 1
  else if text.contains '<' then (text.takeWhile (· != '<')).length
  else 0

/-- The blanks in front of a place on its line, if there is nothing else. -/
abbrev Margin := Option Nat

/-- The margin after one more character. -/
def Margin.next (margin : Margin) (c : Char) : Margin :=
  if c = '\n' then some 0 else if isBlank c then margin.map (· + 1) else none

/--
Completes the references of a text. `patience` is the number of false starts
that end the completion, `later` are the texts after this one, and `done` is
what is behind already, last character first. The patience left is returned.
-/
def completeFrom (later : List Text) (patience : Nat) (margin : Margin) (done text : Text) :
    Text × Nat :=
  match text with
  | [] => (done.reverse, patience)
  | '&' :: '#' :: rest =>
    match referenceLength? rest with
    | some size =>
      let after := rest.drop size
      completeFrom later patience none (';' :: (rest.take size).reverse ++ '#' :: '&' :: done)
        (if after.head? = some ';' then after.drop 1 else after)
    | none =>
      if patience > 1 && (rest :: later).any (·.contains ';') then
        completeFrom later (patience - 1) none ('#' :: '&' :: done) rest
      else (done.reverse ++ text, 0)
  | c :: rest =>
    if c = '<' && margin.any (· ≤ 3) && isUnended later rest then
      let passed := rest.take (unendedLength rest)
      completeFrom later (min patience 1) (passed.foldl Margin.next none)
        (passed.reverse ++ c :: done) (rest.drop (unendedLength rest))
    else completeFrom later patience (Margin.next margin c) (c :: done) rest
termination_by text.length
decreasing_by
  · split <;> simp only [List.length_drop, List.length_cons] <;> omega
  · simp only [List.length_cons]; omega
  · simp only [List.length_drop, List.length_cons]; omega
  · simp

/-- Completes the references of texts one after the other, until the patience is spent. -/
def completeWith : (patience : Nat) → List Text → List Text
  | 0, texts => texts
  | _, [] => []
  | patience + 1, text :: later =>
    let (text, patience) := completeFrom later (patience + 1) (some 0) [] text
    text :: completeWith patience later

/-- The texts of a page with their numeric references completed. -/
def completeReferences (texts : List Text) : List Text :=
  completeWith 2 texts

end Marginalia.Markup
