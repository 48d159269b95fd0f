import Marginalia.Disk.Basic

/-!
# Changing a disk

Making directories and writing files. Each operation returns the disk together
with its outcome, because directories that were made before a failure stay.
-/

namespace Marginalia.Disk

/-- The outcome of a change and the disk after it. -/
abbrev Change := Except Fault Unit × Disk

/-- Makes the place of a directory out of the vacant place that a path names. -/
def directoryPlace (disk : Disk) (path : Text) : Except Cause Location :=
  if path = [] then .error .missing
  else if isLongPath path then .error .nameTooLong
  else
    match (names path).getLast? with
    | none => .error .taken
    | some name =>
      match disk.walk true maxLinks (disk.start path) (names path).dropLast with
      | .error cause => .error cause
      | .ok (.vacant _) => .error .missing
      | .ok (.present place node) =>
        if node ≠ .directory then .error .notDirectory
        else if name = ['.'] || name = ['.', '.'] then .error .taken
        else if isLongName name then .error .nameTooLong
        else if (disk.get? (place ++ [name])).isSome then .error .taken
        else .ok (place ++ [name])

/-- Makes one directory, in one that is there. -/
def makeDir (disk : Disk) (path : Text) : Change :=
  if hasNull path then (.error .nullByte, disk)
  else
    match disk.directoryPlace path with
    | .ok place => (.ok (), disk.put place .directory)
    | .error cause => (.error (.refused cause path), disk)

/-- The last name of a path, passing over one final run of slashes, and what precedes it. -/
def splitLast (path : Text) : Text × Text :=
  if Path.name path = [] then (Path.parent (Path.parent path), Path.name (Path.parent path))
  else (Path.parent path, Path.name path)

theorem length_parent_add_name (path : Text) :
    (Path.parent path).length + (Path.name path).length ≤ path.length := by
  have hsplit : (path.reverse.takeWhile fun c => !Path.isSlash c).length +
      (path.reverse.dropWhile fun c => !Path.isSlash c).length = path.length := by
    rw [← List.length_append, List.takeWhile_append_dropWhile, List.length_reverse]
  have hdrop : ∀ t : Text, (Text.dropEndWhile Path.isSlash t).length ≤ t.length := by
    intro t
    have := (List.dropWhile_suffix (l := t.reverse) Path.isSlash).length_le
    simpa [Text.dropEndWhile] using this
  have hle := hdrop (path.reverse.dropWhile fun c => !Path.isSlash c).reverse
  simp only [Path.parent, Path.name, List.length_reverse] at *
  split <;> simp_all <;> omega

theorem length_splitLast (path : Text) (h : (splitLast path).2 ≠ []) :
    (splitLast path).1.length < path.length := by
  have hlen : 0 < (splitLast path).2.length := List.length_pos_iff.2 h
  have hpath := length_parent_add_name path
  have hparent := length_parent_add_name (Path.parent path)
  unfold splitLast at *
  split at hlen <;> simp_all <;> omega

/-- Makes one directory unless it is there already. -/
def ensureDir (disk : Disk) (path : Text) : Change :=
  match disk.makeDir path with
  | (.error (.refused cause refusedPath), disk) =>
    if disk.isDirectory path then (.ok (), disk) else (.error (.refused cause refusedPath), disk)
  | change => change

/--
Makes a directory and the missing ones above it, first those above. A directory
that is there already is no fault; the ones above may be in the way as something
else, which then shows when the directory itself is made. A step on the spot
needs no directory of its own.
-/
def makeDirs (disk : Disk) (path : Text) : Change :=
  if _h : (splitLast path).1 ≠ [] ∧ (splitLast path).2 ≠ [] then
    if disk.exists? (splitLast path).1 then disk.ensureDir path
    else
      match disk.makeDirs (splitLast path).1 with
      | (.error (.refused .taken _), above) | (.ok (), above) =>
        if (splitLast path).2 = ['.'] then (.ok (), above) else above.ensureDir path
      | failed => failed
  else disk.ensureDir path
termination_by path.length
decreasing_by exact length_splitLast path _h.2

/-- The directory around what a path names, seen from a location. -/
def around (disk : Disk) (here : Location) (path : Text) : Except Cause Location :=
  match disk.walk true maxLinks here (names path).dropLast with
  | .error cause => .error cause
  | .ok (.vacant _) => .error .missing
  | .ok (.present place node) => if node = .directory then .ok place else .error .notDirectory

/--
The location of the file that a path names for writing, seen from a location:
through at most `links` links, and into a vacant place. A path that can only name
a directory is refused even if nothing is there.
-/
def filePlaceFrom (disk : Disk) (links : Nat) (here : Location) (path : Text) :
    Except Cause Location :=
  match disk.around here path with
  | .error cause => .error cause
  | .ok place =>
    let name := (names path).getLastD ['.']
    if endsInSlash path || name = ['.'] || name = ['.', '.'] then .error .isDirectory
    else if isLongName name then .error .nameTooLong
    else
      match disk.get? (place ++ [name]) with
      | none | some (.file _) => .ok (place ++ [name])
      | some .directory => .error .isDirectory
      | some (.link target) =>
        match links with
        | 0 => .error .tooManyLinks
        | links + 1 =>
          disk.filePlaceFrom links (if Path.isAbsolute target then [] else place) target

/-- The location of the file that a path names for writing. -/
def filePlace (disk : Disk) (path : Text) : Except Cause Location :=
  if path = [] then .error .missing
  else if isLongPath path then .error .nameTooLong
  else disk.filePlaceFrom maxLinks (disk.start path) path

/-- Opens a file for writing, and so empties it or makes it; gives its location. -/
def openFile (disk : Disk) (path : Text) : Except Fault Location × Disk :=
  if hasNull path then (.error .nullByte, disk)
  else
    match disk.filePlace path with
    | .ok place => (.ok place, disk.putFile place [])
    | .error cause => (.error (.refused cause path), disk)

/-- Writes an open file. If the system stops the writing, the file has what it took. -/
def fillFile (disk : Disk) (place : Location) (content : Bytes) : Change :=
  match disk.stops disk.entries place content with
  | none => (.ok (), disk.putFile place content)
  | some (size, cause) => (.error (.stopped cause), disk.putFile place (content.take size))

/-- Writes a file, in place of what it held before. -/
def writeFile (disk : Disk) (path : Text) (content : Bytes) : Change :=
  match disk.openFile path with
  | (.ok place, disk) => disk.fillFile place content
  | (.error fault, disk) => (.error fault, disk)

/-- Writes a text to a file. The file is open before it shows that the text has no bytes. -/
def writeText (disk : Disk) (path text : Text) : Change :=
  match disk.encodeText text with
  | .ok content => disk.writeFile path content
  | .error fault =>
    match disk.openFile path with
    | (.ok _, disk) => (.error (.unencodable fault), disk)
    | (.error refused, disk) => (.error refused, disk)

/-- Makes a link, where nothing is yet. -/
def makeLink (disk : Disk) (target path : Text) : Change :=
  if hasNull target || hasNull path then (.error .nullByte, disk)
  else if target = [] then (.error (.linkRefused .missing target path), disk)
  else
    match disk.directoryPlace path with
    | .ok place => (.ok (), disk.put place (.link target))
    | .error cause => (.error (.linkRefused cause target path), disk)

/-- Makes the directories above what a path names. -/
def makeAbove (disk : Disk) (path : Text) : Change :=
  if Path.directoryOf path = [] then (.ok (), disk) else disk.makeDirs (Path.directoryOf path)

/-- Puts a node at a path, with the directories above it. -/
def install (disk : Disk) (path : Text) (node : Node) : Change :=
  match node with
  | .directory => disk.makeDirs path
  | .file content =>
    match disk.makeAbove path with
    | (.ok (), disk) => disk.writeFile path content
    | failed => failed
  | .link target =>
    match disk.makeAbove path with
    | (.ok (), disk) => disk.makeLink target path
    | failed => failed

end Marginalia.Disk
