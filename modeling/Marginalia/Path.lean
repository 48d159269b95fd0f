import Marginalia.Text.Basic

/-!
# Paths

Paths are texts, and these are the lexical rules for them: joining, taking
apart, normal forms and relative paths. Nothing here looks at a disk, and
components are whatever stands between slashes.
-/

namespace Marginalia.Path

/-- Whether a path starts at the root. -/
def isAbsolute : Text → Bool
  | '/' :: _ => true
  | _ => false

/-- A path below another one; an absolute path stands for itself. -/
def join (base path : Text) : Text :=
  if isAbsolute path then path
  else if base = [] || base.getLast? = some '/' then base ++ path
  else base ++ '/' :: path

/-- Whether a character is a slash. -/
def isSlash (c : Char) : Bool := c == '/'

/-- The last component: what follows the last slash, which may be nothing. -/
def name (path : Text) : Text :=
  (path.reverse.takeWhile fun c => !isSlash c).reverse

/-- What precedes the last component, without trailing slashes unless it is all slashes. -/
def parent (path : Text) : Text :=
  let head := (path.reverse.dropWhile fun c => !isSlash c).reverse
  if head.all isSlash then head else Text.dropEndWhile isSlash head

/--
A last component cut before its last dot. A name without a dot, or with nothing
but dots before the last one, has no extension.
-/
def splitName (name : Text) : Text × Text :=
  let after := (name.reverse.takeWhile (· != '.')).reverse
  match name.reverse.dropWhile (· != '.') with
  | [] => (name, [])
  | _ :: before =>
    if before.all (· == '.') then (name, []) else (before.reverse, '.' :: after)

/-- The extension of the last component, with its dot. -/
def extension (path : Text) : Text :=
  (splitName (name path)).2

/-- The path without the extension of its last component. -/
def withoutExtension (path : Text) : Text :=
  path.take (path.length - (extension path).length)

/-- Adds one component to a normal list of components, held with the last one first. -/
def pushComponent (absolute : Bool) (components : List Text) (component : Text) : List Text :=
  if component = [] || component = ".".toList then components
  else if component != "..".toList then component :: components
  else
    match components with
    | [] => if absolute then [] else [component]
    | last :: rest => if last = "..".toList then component :: last :: rest else rest

/-- The components of a path without empty and dot ones, each parent step taken where it can be. -/
def components (path : Text) : List Text :=
  ((Text.splitOn '/' path).foldl (pushComponent (isAbsolute path)) []).reverse

/-- The slashes that a normal path starts with: two are kept when there are exactly two. -/
def rootSlashes (path : Text) : Text :=
  match path.takeWhile isSlash with
  | [] => []
  | ['/', '/'] => ['/', '/']
  | _ => ['/']

/-- The normal form of a path; the empty one is the current directory. -/
def normalize (path : Text) : Text :=
  match rootSlashes path ++ List.intercalate ['/'] (components path) with
  | [] => ['.']
  | normal => normal

/-- The normal form of a path as seen from the directory `cwd`. -/
def absolute (cwd path : Text) : Text :=
  normalize (join cwd path)

/-- The components that two lists share at their start are taken off both. -/
def dropCommon : List Text → List Text → List Text × List Text
  | a :: as, b :: bs => if a = b then dropCommon as bs else (a :: as, b :: bs)
  | as, bs => (as, bs)

/-- The steps from the directory `start` to `path`: up to a shared ancestor, then down. -/
def relativeComponents (cwd path start : Text) : List Text :=
  let (up, down) := dropCommon (components (join cwd start)) (components (join cwd path))
  up.map (fun _ => "..".toList) ++ down

/-- A relative path from the directory `start` to `path`. -/
def relative (cwd path start : Text) : Text :=
  match relativeComponents cwd path start with
  | [] => ['.']
  | steps => List.intercalate ['/'] steps

/-- The directory that a path lies in, the current one being written out. -/
def directoryOf (path : Text) : Text :=
  match parent path with
  | [] => ['.']
  | directory => directory

end Marginalia.Path
