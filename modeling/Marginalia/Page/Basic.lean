import Marginalia.Html
import Marginalia.Layout
import Marginalia.Section.Basic

/-!
# Pages

A page shows the sections of one source as rows of a table, docs on the left and
code on the right. With two or more sources it begins with a menu that links to
all of them. Names and links are escaped where they are put in; the HTML of
sections goes in as it is.
-/

namespace Marginalia

/-- What a page is made of. -/
structure Page where
  title : Text
  /-- The steps from the page's directory up to the stylesheet's. -/
  depth : Nat
  /-- The link and the name of each source of the run. -/
  menu : List (Text × Text)
  sections : List Section

namespace Page

/-- The page of a source among all `sources` of a run in the directory `cwd`. -/
def ofSource (layout : Layout) (cwd source : Text) (sections : List Section)
    (sources : List Text) : Page where
  title := Path.name source
  depth := layout.depth cwd (layout.pagePath source)
  menu := sources.map fun other =>
    (Path.relative cwd (layout.pagePath other) (Path.directoryOf (layout.pagePath source)),
      Path.name other)
  sections := sections

/-- Escaped text of a page. -/
def escape (text : Text) : Text :=
  Html.escape .numbered text

/-- The way from a page to the stylesheet. -/
def stylesheetLink (page : Page) : Text :=
  (List.replicate page.depth "../".toList).flatten ++ stylesheetName

/-- Everything up to the place of the menu. -/
def head (page : Page) : Text :=
  "<!DOCTYPE html>\n<html>\n<head>\n  <title>".toList ++ escape page.title ++
  "</title>\n  <meta http-equiv=\"content-type\" content=\"text/html; charset=UTF-8\">\n".toList ++
  "  <link rel=\"stylesheet\" media=\"all\" href=\"".toList ++ page.stylesheetLink ++
  "\" />\n</head>\n<body>\n  <div id=\"container\">\n    <div id=\"background\"></div>".toList

/-- One entry of the menu. -/
def menuEntry (link name : Text) : Text :=
  "\n          <a class=\"source\" href=\"".toList ++ escape link ++ "\">".toList ++ escape name ++
  "</a>".toList

/-- The menu of sources; a single source needs none. -/
def menuHtml (menu : List (Text × Text)) : Text :=
  if menu.length > 1 then
    "\n    <div id=\"jump_to\">\n      Jump To &hellip;\n".toList ++
    "      <div id=\"jump_wrapper\">\n".toList ++
    "        <div id=\"jump_page\">".toList ++
    menu.flatMap (fun (link, name) => menuEntry link name) ++
    "\n        </div>\n      </div>\n    </div>".toList
  else []

/-- The table up to its first section. -/
def tableHead (page : Page) : Text :=
  "\n    <table cellpadding=\"0\" cellspacing=\"0\">\n      <thead>\n        <tr>\n".toList ++
  "          <th class=\"docs\">\n            <h1>".toList ++ escape page.title ++
  "</h1>\n          </th>\n          <th class=\"code\">\n          </th>\n".toList ++
  "        </tr>\n      </thead>\n      <tbody>".toList

/-- The row of the section with the given number. -/
def sectionRow (number : Nat) (s : Section) : Text :=
  let anchor := "section-".toList ++ Text.ofNat number
  "\n        <tr id=\"".toList ++ anchor ++ "\">\n          <td class=\"docs\">\n".toList ++
  "            <div class=\"pilwrap\">\n              <a class=\"pilcrow\" href=\"#".toList ++
  anchor ++ "\">&#182;</a>\n            </div>\n            ".toList ++ s.docsHtml.getD [] ++
  "\n          </td>\n          <td class=\"code\">\n            ".toList ++ s.codeHtml.getD [] ++
  "\n          </td>\n        </tr>".toList

/-- The rows of sections that are numbered from `number`. -/
def sectionRows (number : Nat) : List Section → Text
  | [] => []
  | s :: sections => sectionRow number s ++ sectionRows (number + 1) sections

/-- Everything after the last section. -/
def foot : Text :=
  "\n      </tbody>\n    </table>\n  </div>\n</body>\n</html>\n".toList

/-- The page as HTML. -/
def render (page : Page) : Text :=
  page.head ++ menuHtml page.menu ++ page.tableHead ++ sectionRows 1 page.sections ++ foot

end Page
end Marginalia
