import Marginalia.Language.Basic
import Marginalia.Layout
import Marginalia.Text.Lowercase

/-!
# Settings

The settings of a run and how their values are written as text: yes-or-no words,
and lists with commas.
-/

namespace Marginalia

/-- The extensions of comment markup that are on without further settings. -/
def standardExtensions : List Text :=
  ["tables", "fenced_code"].map String.toList

/--
The command of the highlighter without further settings. Its first word stands
for the interpreter that the highlighter is written for.
-/
def standardCommand : List Text :=
  ["<python>", "-m", "pygments"].map String.toList

/-- The settings of a run. -/
structure Settings where
  outputDir : Text := "docs".toList
  /-- Whether pages lie below the directories of their sources. -/
  nested : Bool := false
  /-- The command that starts the highlighter. -/
  command : List Text := standardCommand
  /-- The name of the encoding of sources and of the highlighter's streams. -/
  encoding : Text := "utf-8".toList
  /-- The classes under which the highlighter may show a divider. -/
  classes : List Text := standardClasses
  /-- The extensions of comment markup. -/
  extensions : List Text := standardExtensions
  /-- Whether only errors and warnings are printed. -/
  quiet : Bool := false
  deriving DecidableEq, Repr

namespace Settings

/-- Where the pages of a run go. -/
def layout (settings : Settings) : Layout where
  outputDir := settings.outputDir
  nested := settings.nested

/-- The words that switch a setting on, in lower case. -/
def yesWords : List Text :=
  ["1", "true", "yes", "y", "on"].map String.toList

/-- A yes-or-no value; every word but a yes is a no, and no value is the default. -/
def parseBool (value : Option Text) (default : Bool := false) : Bool :=
  match value with
  | none => default
  | some text => yesWords.contains (Text.lower text)

/-- A list with commas between its items, which are trimmed; a blank value is the default. -/
def parseList (value : Option Text) (default : List Text := []) : List Text :=
  match value with
  | none => default
  | some text =>
    if Text.isBlank text then default
    else ((Text.splitOn ',' text).map Text.trim).filter (· ≠ [])

/-- A value that is there and not empty, or the default. -/
def parseText (value : Option Text) (default : Text) : Text :=
  match value with
  | none | some [] => default
  | some text => text

/-- The variables of an environment that are settings. -/
def variableNames : List Text :=
  ["DOCCO_OUTPUT_DIR", "DOCCO_DIRS", "DOCCO_HIGHLIGHTER", "DOCCO_ENCODING",
    "DOCCO_DIVIDER_CLASSES", "DOCCO_MARKDOWN_EXTENSIONS", "DOCCO_QUIET"].map String.toList

/-- The settings under an environment, given as the value of each variable. -/
def ofEnvironment (value? : Text → Option Text) : Settings where
  outputDir := parseText (value? "DOCCO_OUTPUT_DIR".toList) "docs".toList
  nested := parseBool (value? "DOCCO_DIRS".toList)
  command :=
    match Text.words ((value? "DOCCO_HIGHLIGHTER".toList).getD []) with
    | [] => standardCommand
    | words => words
  encoding := parseText (value? "DOCCO_ENCODING".toList) "utf-8".toList
  classes := parseList (value? "DOCCO_DIVIDER_CLASSES".toList) standardClasses
  extensions := parseList (value? "DOCCO_MARKDOWN_EXTENSIONS".toList) standardExtensions
  quiet := parseBool (value? "DOCCO_QUIET".toList)

end Settings
end Marginalia
