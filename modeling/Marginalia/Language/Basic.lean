import Marginalia.Text.Blank

/-!
# Languages

A source language is known by the symbol that opens a comment line. A line is a
comment when, after its indentation, it starts with the symbol; interpreter
lines and the symbol followed by an opening brace stay code.
-/

namespace Marginalia

/-- The classes that highlighters give comments. -/
def standardClasses : List Text :=
  ["c", "c1", "ch", "cm", "cs"].map String.toList

/-- A source language. -/
structure Language where
  /-- The file extension, with its dot. -/
  extension : Text
  /-- The name by which the highlighter knows the language. -/
  name : Text
  /-- What opens a comment line. -/
  symbol : Text
  /-- The classes under which the highlighter may show a divider. -/
  classes : List Text := standardClasses
  deriving DecidableEq, Repr

/--
What follows `symbol` in a line that has it after some leading white space. The
most white space that leaves the symbol is taken first, which matters when the
symbol itself starts with white space.
-/
def afterSymbol? (symbol : Text) : Text → Option Text
  | [] => Text.dropStart? symbol []
  | c :: line =>
    if isBlank c then (afterSymbol? symbol line).or (Text.dropStart? symbol (c :: line))
    else Text.dropStart? symbol (c :: line)

namespace Language

/-- Whether a line names an interpreter. -/
def isInterpreterLine (line : Text) : Bool :=
  Text.startsWith "#!/".toList line

/-- Whether a line is a comment. -/
def isComment (language : Language) (line : Text) : Bool :=
  (afterSymbol? language.symbol line).isSome && !isInterpreterLine line &&
    (afterSymbol? (language.symbol ++ ['\x7b']) line).isNone

/-- A text without one leading white-space character. -/
def dropBlank : Text → Text
  | [] => []
  | c :: text => if isBlank c then text else c :: text

/-- The text of a comment line: without indentation, symbol and one blank after it. -/
def stripComment (language : Language) (line : Text) : Text :=
  match afterSymbol? language.symbol line with
  | some rest => dropBlank rest
  | none => line

end Language
end Marginalia
