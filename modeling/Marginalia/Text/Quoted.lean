import Marginalia.Text.Printable

/-!
# Quoted text

The form in which a message shows a path or a piece of output: between quotes,
with every character that could be mistaken written as an escape.
-/

namespace Marginalia.Text

/-- The quote put around a text: single, unless only the single one occurs in it. -/
def quoteFor (text : Text) : Char :=
  if text.contains '\'' && !text.contains '"' then '"' else '\''

/-- A code point written by its number, in the shortest of three widths that holds it. -/
def numericEscape (n : Nat) : Text :=
  if n < 0x100 then "\\x".toList ++ ofHex 2 n
  else if n < 0x10000 then "\\u".toList ++ ofHex 4 n
  else "\\U".toList ++ ofHex 8 n

/-- One character as it stands between two `quote`s. -/
def quotedChar (quote c : Char) : Text :=
  if c = quote || c = '\\' then ['\\', c]
  else if c = '\t' then ['\\', 't']
  else if c = '\n' then ['\\', 'n']
  else if c = '\r' then ['\\', 'r']
  else if isPrintable c then [c]
  else numericEscape c.toNat

/-- The text between quotes, with quotes, backslashes and unprintable characters escaped. -/
def quoted (text : Text) : Text :=
  let quote := quoteFor text
  quote :: text.flatMap (quotedChar quote) ++ [quote]

end Marginalia.Text
