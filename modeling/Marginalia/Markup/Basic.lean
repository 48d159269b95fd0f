import Marginalia.Markup.Block
import Marginalia.Markup.Emphasis

/-!
# Rendering comment text

Comment text is marked-up text. Blocks become HTML elements on lines of their
own; text without anything but white space becomes nothing.
-/

namespace Marginalia.Markup

/-- An element with its content on the same line. -/
def element (tag content : Text) : Text :=
  '<' :: tag ++ '>' :: content ++ '<' :: '/' :: tag ++ ['>']

/-- An element with its children on lines of their own. -/
def lineElement (tag : Text) (children : List Text) : Text :=
  element tag ('\n' :: Text.unlines children)

/-! ## Tables -/

/-- The opening tag of a table cell. -/
def cellStart (tag : Text) (alignment : Alignment) : Text :=
  let style := fun side : String => " style=\"text-align: ".toList ++ side.toList ++ ";\"".toList
  '<' :: tag ++
  (match alignment with
    | .none => []
    | .left => style "left"
    | .center => style "center"
    | .right => style "right") ++ ['>']

/-- A row with one cell for each column, the missing ones being empty. -/
def renderRow (features : Features) (tag : Text) : List Alignment → List Text → List Text
  | [], _ => []
  | alignment :: alignments, cells =>
    let text := renderInline features.escapable (trimSpaces (cells.headD []))
    (cellStart tag alignment ++ text ++ '<' :: '/' :: tag ++ ['>']) ::
      renderRow features tag alignments cells.tail

/-- A table as an HTML element; without rows it has an empty one, whose cells stand anywhere. -/
def Table.render (features : Features) (table : Table) : Text :=
  let row := fun (tag : String) alignments cells =>
    lineElement "tr".toList (renderRow features tag.toList alignments cells)
  let body :=
    if table.rows = [] then [row "td" (table.alignments.map fun _ => .none) []]
    else table.rows.map (row "td" table.alignments)
  lineElement "table".toList
    [lineElement "thead".toList [row "th" table.alignments table.header],
      lineElement "tbody".toList body]

/-! ## Blocks -/

/-- The text of an item after a block: white space before an element in it is a line end. -/
def renderTail (features : Features) (text : Text) : Text :=
  let nodes := inline features.escapable text
  let beyond := nodes.dropWhile Inline.isSpace
  if (beyond.head?.map Inline.isElement).getD true then '\n' :: Inline.renderAll beyond
  else Inline.renderAll nodes

/-- Code between fences as an HTML element. -/
def renderFenced (language source : Text) : Text :=
  let cls := if language = [] then [] else " class=\"language-".toList ++ language ++ ['"']
  let escaped := source.flatMap fun c =>
    if c = '"' then "&quot;".toList else Html.escapeChar .kept c
  "<pre><code".toList ++ cls ++ ['>'] ++ escaped ++ "</code></pre>".toList

/-- The HTML tag of a list. -/
def ListKind.tag : ListKind → Text
  | bulleted => "ul".toList
  | numbered => "ol".toList

mutual

/-- A block as an HTML element. -/
def Block.render (features : Features) : Block → Text
  | .paragraph text => element "p".toList (renderInline features.escapable text)
  | .heading level text =>
    element ('h' :: Text.ofNat level) (renderInline features.escapable text)
  | .code text =>
    "<pre><code>".toList ++ Html.escape .kept (Text.trimEnd text) ++ "\n</code></pre>".toList
  | .fenced language source => renderFenced language source
  | .rule => "<hr />".toList
  | .quote blocks => element "blockquote".toList (Block.renderInside features blocks)
  | .list kind blocks => element kind.tag (Block.renderInside features blocks)
  | .item blocks => element "li".toList (Block.renderInside features blocks)
  | .bare text => renderInline features.escapable text
  | .table cells => cells.render features

/-- The content of an element: blocks on lines of their own, possibly after text. -/
def Block.renderInside (features : Features) : List Block → Text
  | [] => []
  | .bare text :: blocks => renderInline features.escapable text ++ Block.renderMore features blocks
  | block :: blocks => '\n' :: block.render features ++ Block.renderAfter features blocks

/-- The blocks after text that an element starts with. -/
def Block.renderMore (features : Features) : List Block → Text
  | [] => []
  | block :: blocks => block.render features ++ Block.renderAfter features blocks

/-- What follows a block: text, or a line end, and the blocks after that. -/
def Block.renderAfter (features : Features) : List Block → Text
  | [] => ['\n']
  | .bare text :: blocks => renderTail features text ++ Block.renderMore features blocks
  | block :: blocks => '\n' :: block.render features ++ Block.renderAfter features blocks

end

/-- Comment text as HTML. -/
def render (extensions : List Text) (text : Text) : Except ExtensionFault Text :=
  (Features.ofNames extensions).map fun features =>
    Text.trim (Block.renderInside features (blocksOf features text))

end Marginalia.Markup
