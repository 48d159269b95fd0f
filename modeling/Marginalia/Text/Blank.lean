import Marginalia.Text.Basic

/-!
# Blanks

The white-space class of the library, and what is defined by it: trimming,
words, and texts that hold nothing else.
-/

namespace Marginalia

/--
White space: the tab to carriage return controls, the four information
separators, the space, next line, and the characters that Unicode gives the
property White_Space. Zero-width characters are not in it.
-/
def isBlank (c : Char) : Bool :=
  let n := c.toNat
  (0x09 ≤ n && n ≤ 0x0D) || (0x1C ≤ n && n ≤ 0x20) || n == 0x85 || n == 0xA0 || n == 0x1680 ||
    (0x2000 ≤ n && n ≤ 0x200A) || n == 0x2028 || n == 0x2029 || n == 0x202F || n == 0x205F ||
    n == 0x3000

namespace Text

/-- Whether a text holds white space only; the empty text does. -/
def isBlank (text : Text) : Bool :=
  text.all Marginalia.isBlank

/-- The text without leading white space. -/
def trimStart (text : Text) : Text :=
  text.dropWhile Marginalia.isBlank

/-- The text without trailing white space. -/
def trimEnd (text : Text) : Text :=
  dropEndWhile Marginalia.isBlank text

/-- The text without white space at either end. -/
def trim (text : Text) : Text :=
  trimEnd (trimStart text)

/-- The maximal runs of characters that are not white space. -/
def words : Text → List Text
  | [] => []
  | c :: text =>
    if Marginalia.isBlank c then words text
    else
      match text with
      | [] => [[c]]
      | d :: _ => if Marginalia.isBlank d then [c] :: words text else consPiece c (words text)

end Text
end Marginalia
