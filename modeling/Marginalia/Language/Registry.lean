import Marginalia.Dict
import Marginalia.Language.Basic
import Marginalia.Path
import Marginalia.Text.Lowercase

/-!
# The registry of languages

Languages are found by file extension, in any case. A registry is built from a
table: a repeated extension keeps its first place and takes the last row.
-/

namespace Marginalia

/-- The languages by lower-case extension, in the order in which these first occurred. -/
structure Registry where
  entries : List (Text × Language) := []

namespace Registry

/-- Registers a language under its extension. -/
def insert (registry : Registry) (language : Language) : Registry :=
  ⟨Dict.put (Text.lower language.extension) language registry.entries⟩

/-- The registry of a table of extensions, names and comment symbols. -/
def ofTable (table : List (Text × Text × Text)) (classes : List Text) : Registry :=
  table.foldl (fun registry (extension, name, symbol) =>
    registry.insert { extension, name, symbol, classes }) {}

/-- The language of an extension. -/
def lookup (registry : Registry) (extension : Text) : Option Language :=
  Dict.get? (Text.lower extension) registry.entries

/-- Whether an extension has a language. -/
def contains (registry : Registry) (extension : Text) : Bool :=
  (registry.lookup extension).isSome

/-- The language of a file, by the extension of its last path component. -/
def forPath (registry : Registry) (path : Text) : Option Language :=
  registry.lookup (Path.extension path)

/-- All languages, each extension once, in order of first occurrence. -/
def languages (registry : Registry) : List Language :=
  registry.entries.map (·.2)

/-- The languages that are known without further settings. -/
def standardTable : List (Text × Text × Text) :=
  [(".py", "python", "#"), (".rb", "ruby", "#"), (".coffee", "coffee-script", "#"),
    (".sh", "bash", "#"), (".pl", "perl", "#"), (".r", "r", "#"), (".js", "javascript", "//"),
    (".ts", "typescript", "//"), (".go", "go", "//"), (".java", "java", "//"), (".c", "c", "//"),
    (".h", "c", "//"), (".cpp", "cpp", "//"), (".rs", "rust", "//"), (".lua", "lua", "--"),
    (".hs", "haskell", "--"), (".sql", "sql", "--")].map
    fun (extension, name, symbol) => (extension.toList, name.toList, symbol.toList)

/-- The registry of the standard table, whose dividers may show under the given classes. -/
def standard (classes : List Text := standardClasses) : Registry :=
  ofTable standardTable classes

/-- One line per language: extension, name and symbol in columns. -/
def listing (registry : Registry) : Text :=
  Text.unlines <| registry.languages.map fun language =>
    Text.padRight 8 language.extension ++ ' ' :: Text.padRight 14 language.name ++
      ' ' :: language.symbol

end Registry
end Marginalia
