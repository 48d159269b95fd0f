import Marginalia.CommandLine.Program
import Marginalia.Markup.Basic
import Marginalia.Page.Colours
import Marginalia.Settings.EnvFile

/-!
# The standard library of the program

What the program runs with when nothing else is put in its place: the environment
files, the comment markup, the encodings and the colours of this project.
-/

namespace Marginalia

/-- The kind of a fault in the name of an extension. -/
def Markup.ExtensionFault.kind : Markup.ExtensionFault → Text
  | .unknown _ | .notWithin .. => "ModuleNotFoundError".toList
  | .noExtension _ | .noClass .. => "AttributeError".toList
  | .unnamed => "ValueError".toList
  | .relative _ => "TypeError".toList

/-- The kind of a fault of an environment file. -/
def EnvironmentFault.kind : EnvironmentFault → Text
  | .undecodable _ => "UnicodeDecodeError".toList
  | .illegalName | .nullByte => "ValueError".toList

namespace CommandLine

/-- The library of this project. -/
def Library.standard : Library where
  loadEnvironment environment disk :=
    (EnvFile.load environment disk).mapError fun fault => ⟨fault.kind, fault.message⟩
  environmentWarnings := EnvFile.warnings
  codecs := Encoding.codec?
  markup extensions text :=
    (Markup.render extensions text).mapError fun fault => ⟨fault.kind, fault.message⟩
  colourRules := Stylesheet.standardColours

end CommandLine
end Marginalia
