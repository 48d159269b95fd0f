import Marginalia.Text.Basic

/-!
# The stylesheet

The rules that lay out a page, followed by those that colour highlighted code. The
layout is a list of rules with a printer of its own: a rule is indented by how specific
it is and has its declarations line by line. The colours come from the highlighter's
formatter, as one text.
-/

namespace Marginalia.Stylesheet

/-- A rule of the layout. -/
structure LayoutRule where
  /-- The indentation, in steps of two spaces. -/
  level : Nat
  selector : String
  /-- The declarations, line by line. -/
  lines : List String

/-- The first line of the layout. -/
def title : Text :=
  "/*--------------------- Layout and Typography ----------------------------*/\n".toList

/-- The rules of the layout. -/
def layoutRules : List LayoutRule :=
  [⟨0, "body",
      ["font-family: 'Palatino Linotype', 'Book Antiqua', Palatino, FreeSerif, serif;",
        "font-size: 15px;",
        "line-height: 22px;",
        "color: #252519;",
        "margin: 0; padding: 0;"]⟩,
    ⟨0, "a", ["color: #261a3b;"]⟩,
    ⟨1, "a:visited", ["color: #261a3b;"]⟩,
    ⟨0, "p", ["margin: 0 0 15px 0;"]⟩,
    ⟨0, "h1, h2, h3, h4, h5, h6", ["margin: 0px 0 15px 0;"]⟩,
    ⟨1, "h1", ["margin-top: 40px;"]⟩,
    ⟨0, "#container", ["position: relative;"]⟩,
    ⟨0, "#background",
      ["position: fixed;",
        "top: 0; left: 525px; right: 0; bottom: 0;",
        "background: #f5f5ff;",
        "border-left: 1px solid #e5e5ee;",
        "z-index: -1;"]⟩,
    ⟨0, "#jump_to, #jump_page",
      ["background: white;",
        "-webkit-box-shadow: 0 0 25px #777; -moz-box-shadow: 0 0 25px #777;",
        "-webkit-border-bottom-left-radius: 5px; -moz-border-radius-bottomleft: 5px;",
        "font: 10px Arial;",
        "text-transform: uppercase;",
        "cursor: pointer;",
        "text-align: right;"]⟩,
    ⟨0, "#jump_to, #jump_wrapper", ["position: fixed;", "right: 0; top: 0;", "padding: 5px 10px;"]⟩,
    ⟨1, "#jump_wrapper", ["padding: 0;", "display: none;"]⟩,
    ⟨2, "#jump_to:hover #jump_wrapper", ["display: block;"]⟩,
    ⟨2, "#jump_page", ["padding: 5px 0 3px;", "margin: 0 0 25px 25px;"]⟩,
    ⟨3, "#jump_page .source",
      ["display: block;",
        "padding: 5px 10px;",
        "text-decoration: none;",
        "border-top: 1px solid #eee;"]⟩,
    ⟨4, "#jump_page .source:hover", ["background: #f5f5ff;"]⟩,
    ⟨4, "#jump_page .source:first-child", []⟩,
    ⟨0, "table td", ["border: 0;", "outline: 0;"]⟩,
    ⟨1, "td.docs, th.docs",
      ["max-width: 450px;",
        "min-width: 450px;",
        "min-height: 5px;",
        "padding: 10px 25px 1px 50px;",
        "overflow-x: hidden;",
        "vertical-align: top;",
        "text-align: left;"]⟩,
    ⟨2, ".docs pre", ["margin: 15px 0 15px;", "padding-left: 15px;"]⟩,
    ⟨2, ".docs p tt, .docs p code",
      ["background: #f8f8ff;",
        "border: 1px solid #dedede;",
        "font-size: 12px;",
        "padding: 0 0.2em;"]⟩,
    ⟨2, ".pilwrap", ["position: relative;"]⟩,
    ⟨3, ".pilcrow",
      ["font: 12px Arial;",
        "text-decoration: none;",
        "color: #454545;",
        "position: absolute;",
        "top: 3px; left: -20px;",
        "padding: 1px 2px;",
        "opacity: 0;",
        "-webkit-transition: opacity 0.2s linear;"]⟩,
    ⟨4, "td.docs:hover .pilcrow", ["opacity: 1;"]⟩,
    ⟨1, "td.code, th.code",
      ["padding: 14px 15px 16px 25px;",
        "width: 100%;",
        "vertical-align: top;",
        "background: #f5f5ff;",
        "border-left: 1px solid #e5e5ee;"]⟩,
    ⟨2, "pre, tt, code",
      ["font-size: 12px; line-height: 18px;",
        "font-family: Monaco, Consolas, \"Lucida Console\", monospace;",
        "margin: 0; padding: 0;"]⟩]

/-- A layout rule over several lines. -/
def LayoutRule.render (rule : LayoutRule) : Text :=
  let indent := List.replicate (2 * rule.level) ' '
  indent ++ rule.selector.toList ++ [' ', '\x7b', '\n'] ++
  rule.lines.flatMap (fun line => indent ++ ' ' :: ' ' :: line.toList ++ ['\n']) ++
  indent ++ ['\x7d', '\n']

/-- The whole stylesheet, with an empty line between the layout and the colours. -/
def text (colourRules : Text) : Text :=
  title ++ layoutRules.flatMap LayoutRule.render ++ '\n' :: colourRules ++ ['\n']

end Marginalia.Stylesheet
