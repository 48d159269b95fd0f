import Marginalia.Shell.Calculation
import Marginalia.Shell.Characters
import Marginalia.Shell.Columns
import Marginalia.Shell.Conversion
import Marginalia.Shell.Copying
import Marginalia.Shell.Counting
import Marginalia.Shell.Dump
import Marginalia.Shell.Editor.Program
import Marginalia.Shell.Fields
import Marginalia.Shell.Files
import Marginalia.Shell.Naming
import Marginalia.Shell.Rule.Program
import Marginalia.Shell.Search
import Marginalia.Shell.Sorting

/-!
# The known programs

The programs by name: those that need nothing but what they are called with, and
those that start others.
-/

namespace Marginalia.Shell.Utility

/-- Searches with an option that is always given. -/
def searchAs (letter : Char) (request : Request) : Effect :=
  grep { request with program := "grep".toList, arguments := ['-', letter] :: request.arguments }

/-- Prints a format with arguments. -/
def printf (request : Request) : Effect :=
  match request.arguments with
  | [] => refuse request ("missing operand".toList ++ hint request) 1
  | format :: arguments =>
    let progress := Printing.format format arguments
    let complaints := progress.warnings.map fun warning =>
      (2, request.program ++ ": ".toList ++ warning ++ ['\n'])
    { written := complaints ++ [(1, progress.out)]
      status := if complaints.isEmpty && progress.fault.isNone then 0 else 1 }

/-- The programs by name. -/
def programs : List (Text × (Request → Effect)) :=
  [("arch", arch), ("basename", basename), ("cat", cat), ("chmod", chmod), ("cmp", cmp),
    ("comm", comm), ("cp", cp), ("cut", cut), ("dirname", dirname), ("echo", echo),
    ("egrep", searchAs 'E'), ("expand", expand), ("expr", expr),
    ("false", fun _ => { status := 1 }), ("fgrep", searchAs 'F'), ("fold", fold), ("grep", grep),
    ("head", head), ("iconv", iconv), ("join", join), ("ln", ln), ("ls", ls), ("mkdir", mkdir),
    ("mktemp", mktemp), ("mv", mv), ("nl", nl), ("od", od), ("paste", paste), ("printf", printf),
    ("readlink", readlink), ("rev", rev), ("rm", rm), ("rmdir", rmdir), ("sed", sed), ("seq", seq),
    ("sleep", sleep), ("sort", sort), ("tac", tac), ("tail", tail), ("tee", tee),
    ("touch", touch), ("tr", tr), ("true", fun _ => {}), ("uname", uname),
    ("unexpand", unexpand), ("uniq", uniq), ("wc", wc), ("yes", yes)].map
    fun (name, run) => (name.toList, run)

end Marginalia.Shell.Utility

namespace Marginalia.Shell.Launch

/-- The programs that start other programs, by name. -/
def programs : List (Text × (Launch → List Text → Act Unit)) :=
  [("awk", Rule.awk), ("env", env), ("mawk", Rule.awk), ("nice", nice),
    ("printenv", fun _ => printenv), ("timeout", timeout), ("xargs", xargs)].map
    fun (name, run) => (name.toList, run)

end Marginalia.Shell.Launch
