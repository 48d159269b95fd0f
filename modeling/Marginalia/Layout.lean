import Marginalia.Path

/-!
# Where pages go

A run writes one page per source and one stylesheet below an output directory.
Pages lie flat in it or, when directories are nested, below the directories
of their source. Pages refer to each other and to the stylesheet by relative
paths.
-/

namespace Marginalia

/-- Where the pages of a run go. -/
structure Layout where
  /-- The directory that everything is written below. -/
  outputDir : Text
  /-- Whether pages lie below the directories of their sources. -/
  nested : Bool := false
  deriving DecidableEq, Repr

/-- The file name of the stylesheet. -/
def stylesheetName : Text := "docco.css".toList

/-- The last ending of a page's file name. -/
def pageEnding : Text := ".html".toList

/--
A source as a path below any root: its components without root, dots and parent
steps. If that leaves nothing, its last component as it is written.
-/
def relativeSource (source : Text) : Text :=
  match (Path.components source).filter (· ≠ "..".toList) with
  | [] => Path.name source
  | components => List.intercalate ['/'] components

/-- A path from a page to a target; an empty target has none. -/
def relativeLink? (cwd target page : Text) : Option Text :=
  if target = [] then none else some (Path.relative cwd target (Path.directoryOf page))

namespace Layout

/-- The page of a source. -/
def pagePath (layout : Layout) (source : Text) : Text :=
  let name := if layout.nested then relativeSource source else Path.name source
  Path.join layout.outputDir (Path.withoutExtension name ++ pageEnding)

/-- The stylesheet of all pages. -/
def stylesheetPath (layout : Layout) : Text :=
  Path.join layout.outputDir stylesheetName

/-- The number of steps between the output directory and the directory of a page. -/
def depth (layout : Layout) (cwd page : Text) : Nat :=
  (Path.relativeComponents cwd (Path.directoryOf page) layout.outputDir).length

end Layout
end Marginalia
