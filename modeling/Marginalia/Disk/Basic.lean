import Marginalia.Dict
import Marginalia.Encoding.Basic
import Marginalia.Path
import Marginalia.Text.Quoted

/-!
# Disks

A disk is a finite map from locations to files, directories and symbolic links,
seen from a current directory. A path is walked component by component through
links; the walk ends at something present, at a vacant place in a directory, or
with the cause why it cannot go on.

A file may have several names, and the system may stop its writing part of the way.
Names need not be text. Where they are not, characters that are set aside stand for
their bytes, and no text that holds one of these can be written.
-/

namespace Marginalia

/-- A place on the disk: the names from the root down. -/
abbrev Location := List Text

/-- What can be at a location. -/
inductive Node where
  | file (content : Bytes)
  | directory
  | link (target : Text)
  deriving DecidableEq, Repr

/-- Why the system refuses an operation. -/
inductive Disk.Cause where
  | missing
  | failed
  | denied
  | taken
  | notDirectory
  | isDirectory
  | tooLarge
  | noSpace
  | nameTooLong
  | tooManyLinks
  | overQuota
  deriving DecidableEq, Repr

/-- The files, directories and links of a disk, and the current directory. -/
structure Disk where
  entries : List (Location × Node) := []
  cwd : Location := []
  /-- The files that can be started. -/
  executable : List Location := []
  /-- The locations of each file that has several. -/
  shared : List (List Location) := []
  /-- Where the system stops the writing of a file: after how many bytes, and why. This may
  depend on everything that is on the disk. -/
  stops : List (Location × Node) → Location → Bytes → Option (Nat × Disk.Cause) :=
    fun _ _ _ => none
  /-- The characters that stand for bytes of names that are no text. -/
  strays : List (Char × UInt8) := []

namespace Disk

/-- The number of a cause. -/
def Cause.number : Cause → Nat
  | .missing => 2
  | .failed => 5
  | .denied => 13
  | .taken => 17
  | .notDirectory => 20
  | .isDirectory => 21
  | .tooLarge => 27
  | .noSpace => 28
  | .nameTooLong => 36
  | .tooManyLinks => 40
  | .overQuota => 122

/-- A cause in words. -/
def Cause.text : Cause → Text
  | .missing => "No such file or directory".toList
  | .failed => "Input/output error".toList
  | .denied => "Permission denied".toList
  | .taken => "File exists".toList
  | .notDirectory => "Not a directory".toList
  | .isDirectory => "Is a directory".toList
  | .tooLarge => "File too large".toList
  | .noSpace => "No space left on device".toList
  | .nameTooLong => "File name too long".toList
  | .tooManyLinks => "Too many levels of symbolic links".toList
  | .overQuota => "Disk quota exceeded".toList

/-- What comes of an operation that does not succeed. -/
inductive Fault where
  /-- The system refuses the operation on a path. -/
  | refused (cause : Cause) (path : Text)
  /-- The system refuses to make a link at a path. -/
  | linkRefused (cause : Cause) (target path : Text)
  /-- The path holds a NUL character, so no system call can be made. -/
  | nullByte
  /-- The system stops the writing of a file that is open. -/
  | stopped (cause : Cause)
  /-- The text that is to be written is none. -/
  | unencodable (fault : Unencodable)
  deriving DecidableEq, Repr

/-- A cause with its number. -/
def Cause.message (cause : Cause) : Text :=
  "[Errno ".toList ++ Text.ofNat cause.number ++ "] ".toList ++ cause.text

/-- A fault in words. -/
def Fault.message : Fault → Text
  | .refused cause path => cause.message ++ ": ".toList ++ Text.quoted path
  | .linkRefused cause target path =>
    cause.message ++ ": ".toList ++ Text.quoted target ++ " -> ".toList ++ Text.quoted path
  | .nullByte => "embedded null byte".toList
  | .stopped cause => cause.message
  | .unencodable fault => fault.message

/-- What is at a location; the root is a directory. -/
def get? (disk : Disk) : Location → Option Node
  | [] => some .directory
  | name :: names => Dict.get? (name :: names) disk.entries

/-- The disk with a node at a location. -/
def put (disk : Disk) (place : Location) (node : Node) : Disk :=
  { disk with entries := Dict.put place node disk.entries }

/-- The locations of the file at a location. -/
def locations (disk : Disk) (place : Location) : List Location :=
  (disk.shared.find? (·.contains place)).getD [place]

/-- The disk with a content in the file at a location. -/
def putFile (disk : Disk) (place : Location) (content : Bytes) : Disk :=
  (disk.locations place).foldl (fun disk other => disk.put other (.file content)) disk

/-- The disk without what is at some locations. -/
def drop (disk : Disk) (gone : Location → Bool) : Disk :=
  { disk with
    entries := disk.entries.filter fun (place, _) => !gone place
    shared := disk.shared.map (·.filter fun place => !gone place) }

/-- The bytes of a text, unless it holds a character that stands for a byte of a name. -/
def encodeText (disk : Disk) (text : Text) : Except Unencodable Bytes :=
  let byte? := fun c : Char => disk.strays.lookup c
  match Unencodable.find? "utf-8".toList "surrogates not allowed".toList
      (fun c => (byte? c).isNone) (fun c => 0xDC00 + ((byte? c).getD 0).toNat) text with
  | none => .ok (Utf8.encode text)
  | some fault => .error fault

/-- The locations of all directories, the root among them. -/
def directories (disk : Disk) : List Location :=
  [] :: disk.entries.filterMap fun (place, node) => if node = .directory then some place else none

/-- The names in a directory, by code point. -/
def children (disk : Disk) (place : Location) : List Text :=
  let names := disk.entries.filterMap fun (other, _) =>
    if other.dropLast = place then other.getLast? else none
  names.mergeSort Text.isLe

/-- What differs on `after` from what was at the same location before. -/
def changes (before after : Disk) : List (Location × Node) :=
  after.entries.filter fun (place, node) => decide (before.get? place ≠ some node)

/-- The locations of what was there before and is no more, inner ones first. -/
def removals (before after : Disk) : List Location :=
  let gone := before.entries.filterMap fun (place, _) =>
    if (after.get? place).isNone then some place else none
  gone.mergeSort fun a b => b.length ≤ a.length

/-- Where the walk along a path ends. -/
inductive Spot where
  | present (place : Location) (node : Node)
  /-- Nothing is there, but the directory around it is. -/
  | vacant (place : Location)
  deriving Repr

/-- The number of links that one walk follows. -/
def maxLinks : Nat := 40

/-- Whether a name has more bytes than a directory can hold. -/
def isLongName (name : Text) : Bool :=
  255 < (Utf8.encode name).length

/-- Whether a path has more bytes than a system call takes. -/
def isLongPath (path : Text) : Bool :=
  4096 ≤ (Utf8.encode path).length

/-- The names of a path, without empty ones. -/
def names (path : Text) : List Text :=
  (Text.splitOn '/' path).filter (· ≠ [])

/-- Whether a path ends in a slash, so that it can only name a directory. -/
def endsInSlash (path : Text) : Bool :=
  path.getLast? == some '/'

/-- The steps of a walk along a path: its names, and a step on the spot after a final slash. -/
def steps (path : Text) : List Text :=
  names path ++ (if endsInSlash path then [['.']] else [])

/-- Where the walk along a path starts. -/
def start (disk : Disk) (path : Text) : Location :=
  if Path.isAbsolute path then [] else disk.cwd

/--
Walks from a location, with `links` links left to follow. A link as the last
step is followed if `follow` says so. The walk is finite because each link
followed leaves fewer links, and each other step fewer steps.
-/
def walk (disk : Disk) (follow : Bool) (links : Nat) (here : Location) (route : List Text) :
    Except Cause Spot :=
  match route with
  | [] =>
    match disk.get? here with
    | some node => .ok (.present here node)
    | none => .ok (.vacant here)
  | step :: route =>
    match disk.get? here with
    | none => .error .missing
    | some (.file _) => .error .notDirectory
    | some (.link _) => .error .notDirectory
    | some .directory =>
      if step = ['.'] then disk.walk follow links here route
      else if step = ['.', '.'] then disk.walk follow links here.dropLast route
      else if isLongName step then .error .nameTooLong
      else
        match disk.get? (here ++ [step]) with
        | some (.link target) =>
          if route = [] && !follow then .ok (.present (here ++ [step]) (.link target))
          else
            match links with
            | 0 => .error .tooManyLinks
            | links + 1 =>
              disk.walk follow links (if Path.isAbsolute target then [] else here)
                (steps target ++ route)
        | _ => disk.walk follow links (here ++ [step]) route
termination_by (links, route.length)

/-- Where a path leads. -/
def resolve (disk : Disk) (path : Text) : Except Cause Spot :=
  if path = [] then .error .missing
  else if isLongPath path then .error .nameTooLong
  else disk.walk true maxLinks (disk.start path) (steps path)

/-- Whether a path holds a NUL character. -/
def hasNull (path : Text) : Bool :=
  path.contains '\x00'

/-- Whether a path leads to something. -/
def exists? (disk : Disk) (path : Text) : Bool :=
  !hasNull path &&
    match disk.resolve path with
    | .ok (.present ..) => true
    | _ => false

/-- The location of the directory that a path leads to. -/
def directoryAt? (disk : Disk) (path : Text) : Option Location :=
  if hasNull path then none
  else
    match disk.resolve path with
    | .ok (.present place .directory) => some place
    | _ => none

/-- Whether a path leads to a directory. -/
def isDirectory (disk : Disk) (path : Text) : Bool :=
  (disk.directoryAt? path).isSome

/-- The content of the file that a path leads to. -/
def readFile (disk : Disk) (path : Text) : Except Fault Bytes :=
  if hasNull path then .error .nullByte
  else
    match disk.resolve path with
    | .ok (.present _ (.file content)) => .ok content
    | .ok (.present _ .directory) => .error (.refused .isDirectory path)
    | .ok (.present _ (.link _)) => .error (.refused .tooManyLinks path)
    | .ok (.vacant _) => .error (.refused .missing path)
    | .error cause => .error (.refused cause path)

/-- The location of a path as text. -/
def pathOf (place : Location) : Text :=
  '/' :: List.intercalate ['/'] place

/-- The location and everything above it, nearest first. -/
def ancestors (place : Location) : List Location :=
  (List.range (place.length + 1)).map fun k => place.take (place.length - k)

/-- The content of the nearest file of a name, in the current directory or above it. -/
def nearestFile? (disk : Disk) (name : Text) : Option Bytes :=
  (ancestors disk.cwd).findSome? fun place =>
    match disk.walk true maxLinks place [name] with
    | .ok (.present _ (.file content)) => some content
    | _ => none

end Disk
end Marginalia
