import Marginalia.Text.Blank

/-!
# The wrapper of highlighted code

A highlighter answers with one block: an opening tag, perhaps an empty span, the
body, and a closing tag, with white space around all of it. The same tags go
around each fragment once the body is cut up.
-/

namespace Marginalia.Wrapper

/-- The opening tag of a block. -/
def opening : Text := "<div class=\"highlight\"><pre>".toList

/-- What may stand between the opening tag and the body. -/
def emptySpan : Text := "<span></span>".toList

/-- The closing tag of a block. -/
def closing : Text := "</pre></div>".toList

/-- A text without one empty span at its start. -/
def dropSpan (text : Text) : Text :=
  (Text.dropStart? emptySpan text).getD text

/-- The body of an answer that is one block; a body may itself hold closing tags. -/
def body? (output : Text) : Option Text :=
  (Text.dropStart? opening (Text.trimStart output)).bind fun rest =>
    Text.dropEnd? closing (Text.trimEnd (dropSpan rest))

/-- One fragment as a block. -/
def wrap (fragment : Text) : Text :=
  opening ++ fragment ++ closing

end Marginalia.Wrapper
