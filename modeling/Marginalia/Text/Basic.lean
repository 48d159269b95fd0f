/-!
# Text

Text is a list of characters, so every rule of the library reads it from the
front and recurses on its tail. This module holds the operations that the rest
is written in: taking a known start or end off a text, cutting at a character,
replacing, and numerals.
-/

namespace Marginalia

/-- Text is a list of code points; lengths and positions count them. -/
abbrev Text := List Char

/-- Whether a character lies in one of the ranges of code points, ends included. -/
def isWithin (ranges : List (Nat × Nat)) (c : Char) : Bool :=
  ranges.any fun (low, high) => low ≤ c.toNat && c.toNat ≤ high

namespace Text

/-- What follows `start` in a text that begins with it. -/
def dropStart? : (start text : Text) → Option Text
  | [], text => some text
  | _ :: _, [] => none
  | a :: start, b :: text => if a = b then dropStart? start text else none

/-- Whether a text begins with `start`. -/
def startsWith (start text : Text) : Bool :=
  (dropStart? start text).isSome

/-- What precedes `ending` in a text that ends with it. -/
def dropEnd? (ending text : Text) : Option Text :=
  (dropStart? ending.reverse text.reverse).map List.reverse

/-- The text without its longest ending of characters that satisfy `p`. -/
def dropEndWhile (p : Char → Bool) (text : Text) : Text :=
  (text.reverse.dropWhile p).reverse

/-- Puts a character in front of the first piece of a list of pieces. -/
def consPiece (c : Char) : List Text → List Text
  | [] => [[c]]
  | piece :: pieces => (c :: piece) :: pieces

/-- The pieces between the occurrences of `separator`: one more than there are occurrences. -/
def splitOn (separator : Char) : Text → List Text
  | [] => [[]]
  | c :: text =>
    if c = separator then [] :: splitOn separator text
    else consPiece c (splitOn separator text)

/-- The part before the first `separator` and the part after it. -/
def cut? (separator : Char) : Text → Option (Text × Text)
  | [] => none
  | c :: text =>
    if c = separator then some ([], text)
    else (cut? separator text).map fun (before, after) => (c :: before, after)

/-- Every line followed by a newline. -/
def unlines : List Text → Text
  | [] => []
  | line :: lines => line ++ '\n' :: unlines lines

/-- Carriage return and newline together become one newline; a lone carriage return stays. -/
def foldCrLf : Text → Text
  | [] => []
  | '\r' :: '\n' :: text => '\n' :: foldCrLf text
  | c :: text => c :: foldCrLf text

/-- Carriage return and newline together, and a lone carriage return, become one newline. -/
def foldNewlines : Text → Text
  | [] => []
  | '\r' :: '\n' :: text => '\n' :: foldNewlines text
  | c :: text => (if c = '\r' then '\n' else c) :: foldNewlines text

/-- Whether a text stands before another one or is equal to it, by code points. -/
def isLe : Text → Text → Bool
  | [], _ => true
  | _ :: _, [] => false
  | a :: s, b :: t => if a = b then isLe s t else a.toNat < b.toNat

/-- Spaces on the right up to a width; a longer text is kept whole. -/
def padRight (width : Nat) (text : Text) : Text :=
  text ++ List.replicate (width - text.length) ' '

/-- The decimal numeral of a natural number. -/
def ofNat (n : Nat) : Text :=
  Nat.toDigits 10 n

/-- The decimal numeral of an integer, with a minus sign below zero. -/
def ofInt : Int → Text
  | .ofNat n => ofNat n
  | .negSucc n => '-' :: ofNat (n + 1)

/-- The lower-case hexadecimal numeral of a number, with leading zeros up to a width. -/
def ofHex (width n : Nat) : Text :=
  let digits := Nat.toDigits 16 n
  List.replicate (width - digits.length) '0' ++ digits

end Text
end Marginalia
