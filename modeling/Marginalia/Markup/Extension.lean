import Marginalia.Text.Quoted

/-!
# Extensions of the markup

Extensions are switched on by name: the short name of one that comes with the
markup, or the full name of its module, after which its class may be named.
Modules are looked for part by part of a name, the first one that is missing
counts, and one that is no extension is refused.
-/

namespace Marginalia.Markup

/-- The extensions of the markup that give blocks of their own. -/
structure Features where
  tables : Bool := false
  fences : Bool := false
  deriving DecidableEq, Repr

/-- What is wrong with the name of an extension. -/
inductive ExtensionFault where
  /-- There is no module of this name. -/
  | unknown (module : Text)
  /-- There is no module of this name, as the one before its last dot holds no modules. -/
  | notWithin (module outer : Text)
  /-- The module is no extension. -/
  | noExtension (module : Text)
  /-- The module has no class of this name. -/
  | noClass (module cls : Text)
  /-- The name is empty. -/
  | unnamed
  /-- The name starts with a dot, so that it depends on where it stands. -/
  | relative (name : Text)
  deriving DecidableEq, Repr

/-- What is said of a module that lacks a name. -/
def missingAttribute (module name : Text) : Text :=
  "module ".toList ++ Text.quoted module ++ " has no attribute ".toList ++ Text.quoted name

/-- A fault in words. -/
def ExtensionFault.message : ExtensionFault → Text
  | unknown module => "No module named ".toList ++ Text.quoted module
  | notWithin module outer =>
    "No module named ".toList ++ Text.quoted module ++ "; ".toList ++ Text.quoted outer ++
      " is not a package".toList
  | noExtension module =>
    "Failed to initiate extension ".toList ++ Text.quoted module ++ ": ".toList ++
      missingAttribute module "makeExtension".toList
  | noClass module cls => missingAttribute module cls
  | unnamed => "Empty module name".toList
  | relative name =>
    "the 'package' argument is required to perform a relative import for ".toList ++
      Text.quoted name

/-- The extensions that come with the markup: the short name and the class of each. -/
def standardExtensionClasses : List (Text × Text) :=
  [("abbr", "AbbrExtension"), ("admonition", "AdmonitionExtension"),
    ("attr_list", "AttrListExtension"), ("codehilite", "CodeHiliteExtension"),
    ("def_list", "DefListExtension"), ("extra", "ExtraExtension"),
    ("fenced_code", "FencedCodeExtension"), ("footnotes", "FootnoteExtension"),
    ("legacy_attrs", "LegacyAttrExtension"), ("legacy_em", "LegacyEmExtension"),
    ("md_in_html", "MarkdownInHtmlExtension"), ("meta", "MetaExtension"),
    ("nl2br", "Nl2BrExtension"), ("sane_lists", "SaneListExtension"),
    ("smarty", "SmartyExtension"), ("tables", "TableExtension"), ("toc", "TocExtension"),
    ("wikilinks", "WikiLinkExtension")].map fun (name, cls) => (name.toList, cls.toList)

/-- The module that holds the modules of the extensions, with its dot. -/
def modulePath : Text := "markdown.extensions.".toList

/-- The modules that hold others. -/
def outerModules : List Text := ["markdown", "markdown.extensions"].map String.toList

/-- The modules beside the one that holds the extensions. -/
def otherModules : List Text :=
  ["__main__", "__meta__", "blockparser", "blockprocessors", "core", "htmlparser",
    "inlinepatterns", "postprocessors", "preprocessors", "serializers", "test_tools",
    "treeprocessors", "util"].map fun name => "markdown.".toList ++ name.toList

/-- All modules. -/
def modules : List Text :=
  outerModules ++ otherModules ++ standardExtensionClasses.map fun (name, _) => modulePath ++ name

/-- What is wrong on the way to a module, of which `outer` is found and `parts` are left. -/
def moduleFault? (outer : Text) : (parts : List Text) → Option ExtensionFault
  | [] => none
  | part :: parts =>
    let module := if outer = [] then part else outer ++ '.' :: part
    if outer ≠ [] && !outerModules.contains outer then some (.notWithin module outer)
    else if modules.contains module then moduleFault? module parts
    else some (.unknown module)

/-- The short name of the extension that a module and a class in it give. -/
def moduleExtension (module cls : Text) : Except ExtensionFault Text :=
  if module = [] then .error .unnamed
  else if module.head? = some '.' then .error (.relative module)
  else
    match moduleFault? [] (Text.splitOn '.' module) with
    | some fault => .error fault
    | none =>
      let found? := standardExtensionClasses.find? fun (name, _) => modulePath ++ name = module
      match found?, cls with
      | some (name, _), [] => .ok name
      | none, [] => .error (.noExtension module)
      | found?, cls =>
        match found?.filter fun (_, wanted) => wanted = cls with
        | some (name, _) => .ok name
        | none => .error (.noClass module cls)

/-- The short name of the extension that a name stands for, or what is wrong with it. -/
def shortName (name : Text) : Except ExtensionFault Text :=
  if standardExtensionClasses.any fun (short, _) => short = name then .ok name
  else
    moduleExtension (name.takeWhile (· != ':')) ((name.dropWhile (· != ':')).drop 1)

/-- The features that extensions switch on; the first wrong name counts. -/
def Features.ofNames (names : List Text) : Except ExtensionFault Features :=
  (names.mapM shortName).map fun names =>
    let all := names.contains "extra".toList
    { tables := all || names.contains "tables".toList
      fences := all || names.contains "fenced_code".toList }

/-- The characters that a backslash keeps from having a meaning, whatever the extensions. -/
def standardEscapes : Text :=
  ['\\', '`', '*', '_', '\x7b', '\x7d', '[', ']', '(', ')', '>', '#', '+', '-', '.', '!']

/-- The characters that a backslash keeps from having a meaning; tables add the bar. -/
def Features.escapable (features : Features) : Text :=
  if features.tables then standardEscapes ++ ['|'] else standardEscapes

end Marginalia.Markup
