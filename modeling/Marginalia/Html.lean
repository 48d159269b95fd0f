import Marginalia.Text.Basic

/-!
# Escaping for HTML

The three characters that HTML gives a meaning in text are always written as
entities. What becomes of the two quotes differs by who writes: they are kept
in the text of a divider, written by name or number by a highlighter, and by
number in a page.
-/

namespace Marginalia.Html

/-- How quotes are written; ampersand and angle brackets are always escaped. -/
inductive Quotes where
  | kept
  /-- As a highlighter writes them: one entity by name, one by hexadecimal number. -/
  | highlighted
  /-- As a page template writes them: both by decimal number. -/
  | numbered
  deriving DecidableEq, Repr

/-- The double quote under a way of writing quotes. -/
def Quotes.double : Quotes → Text
  | .kept => ['"']
  | .highlighted => "&quot;".toList
  | .numbered => "&#34;".toList

/-- The single quote under a way of writing quotes. -/
def Quotes.single : Quotes → Text
  | .kept => ['\'']
  | .highlighted => "&#x27;".toList
  | .numbered => "&#39;".toList

/-- One character as HTML text. -/
def escapeChar (quotes : Quotes) (c : Char) : Text :=
  if c = '&' then "&amp;".toList
  else if c = '<' then "&lt;".toList
  else if c = '>' then "&gt;".toList
  else if c = '"' then quotes.double
  else if c = '\'' then quotes.single
  else [c]

/-- A text as HTML text. -/
def escape (quotes : Quotes) (text : Text) : Text :=
  text.flatMap (escapeChar quotes)

end Marginalia.Html
