import Marginalia.Disk.Write
import Marginalia.Shell.Script

/-!
# The machine

What a running script acts on: the disk and the open files, which all parts of a
run share, and the variables, streams and options, of which an isolated part has
its own copy. An act changes the machine and may stop what is running; the changes
made before that stay.
-/

namespace Marginalia.Shell

/-- A file that a stream can lead to. -/
inductive OpenFile where
  /-- A text that is read once. -/
  | source (left : Text)
  /-- A text that grows. -/
  | sink (written : Text)
  /-- A file on the disk, at an offset. -/
  | disk (place : Location) (offset : Nat) (mode : Mode)
  | null
  deriving DecidableEq, Repr

/-- A variable of a script. -/
structure Variable where
  value : Option Text := none
  exported : Bool := false
  readonly : Bool := false
  deriving DecidableEq, Repr

/-- The options that a script can be run with. -/
structure Options where
  exitOnFailure : Bool := false
  noUnset : Bool := false
  trace : Bool := false
  noGlob : Bool := false
  noRun : Bool := false
  verbose : Bool := false
  noClobber : Bool := false
  exportAll : Bool := false
  deriving DecidableEq, Repr

/-- What all parts of a run share. -/
structure World where
  disk : Disk
  files : List OpenFile := []
  /-- The signal that the whole run was ended by. -/
  killed : Option Nat := none
  /-- Whether some command in the background takes its time. -/
  slept : Bool := false

/-- A running script. -/
structure Machine extends World where
  /-- The directory that paths start from. -/
  directory : Location
  /-- The files that the streams lead to, by number. -/
  streams : List (Nat × Nat) := []
  /-- The script by its name. -/
  name : Text
  arguments : List Text := []
  bindings : List (Text × Variable) := []
  functions : List (Text × Command) := []
  /-- The texts that names of commands stand for. -/
  aliases : List (Text × Text) := []
  /--
  The commands that were started in the background, the last one first, by their
  number; a status below zero is the end by a signal.
  -/
  jobs : List (Nat × Int) := []
  options : Options := {}
  /-- The status of the last command. -/
  status : Nat := 0
  /-- The line of the running command. -/
  line : Nat := 0
  /-- The command of the interpreter itself that is running. -/
  builtin : Option Text := none
  /-- The number of loops around the running command. -/
  loops : Nat := 0
  /-- The values that come back at the end of the running function. -/
  locals : Option (List (Text × Option Variable)) := none
  /-- What is done on a signal; the number zero is the end of the script. -/
  traps : List (Nat × Text) := []
  /-- Whether the running part is a copy of its own. -/
  isCopy : Bool := false
  /-- The status of the last command that a word stood for. -/
  substituted : Option Nat := none
  /-- The programs that were found by name, with their paths. -/
  located : List (Text × Text) := []
  /-- How much of an argument was gone through in search of options. -/
  optionOffset : Option Nat := none

/-- Why what is running stops. -/
inductive Stop where
  /-- Something went wrong, and a message says what. -/
  | failed
  /-- The script comes to its end. -/
  | ended
  | killed (signal : Nat)
  /-- Some loops are left. -/
  | broken (loops : Nat)
  /-- Some loops are left but one, which goes on. -/
  | continued (loops : Nat)
  /-- A function comes to its end. -/
  | returned
  deriving DecidableEq, Repr

/-- Something that a script does. -/
abbrev Act (α : Type) := ExceptT Stop (StateM Machine) α

/-- The number that a script is known by. -/
def processNumber : Nat := 4711

/-- The bytes of a stream. -/
def streamBytes (text : Text) : Bytes := text.map fun c => .ofNat c.toNat

/-- A stream of bytes. -/
def streamText (bytes : Bytes) : Text := bytes.map fun b => .ofNat b.toNat

/-- The characters that stand for bytes of names that are no text. -/
def strays : List (Char × UInt8) :=
  (List.range 0x80).map fun n => (.ofNat (0x10DC80 + n), .ofNat (0x80 + n))

/-- A text of characters as a stream has it: byte by byte. -/
def encodeText (text : Text) : Text :=
  streamText (text.flatMap fun c =>
    match strays.lookup c with
    | some byte => [byte]
    | none => Utf8.encodeChar c)

/-- The text of bytes in their pieces, with a character for each byte that is no text. -/
def nameText (bytes : Bytes) : List Utf8.Piece → Text
  | [] => []
  | piece :: pieces =>
    let here := match piece with
      | .char c => [c]
      | .broken .. => (bytes.take piece.size).map fun byte => .ofNat (0x10DC00 + byte.toNat)
    here ++ nameText (bytes.drop piece.size) pieces

/-- A stream as a text of characters. -/
def decodeText (text : Text) : Text :=
  nameText (streamBytes text) (Utf8.scan (streamBytes text))

/-! ## Streams -/

/-- A file's content after a text was written at an offset. -/
def overwrite (content : Text) (offset : Nat) (text : Text) : Text :=
  content.take offset ++ List.replicate (offset - content.length) '\x00' ++ text ++
    content.drop (offset + text.length)

/-- The content of a location on the disk. -/
def World.content (world : World) (place : Location) : Text :=
  match world.disk.get? place with
  | some (.file content) => streamText content
  | _ => []

/-- The world after a text was written to an open file. -/
def World.write (world : World) (index : Nat) (text : Text) : World :=
  match world.files[index]? with
  | some (.sink written) => { world with files := world.files.set index (.sink (written ++ text)) }
  | some (.disk place offset mode) =>
    if mode = .read then world
    else
      let content := world.content place
      let offset := if mode = .append then content.length else offset
      { world with
        disk := world.disk.putFile place (streamBytes (overwrite content offset text))
        files := world.files.set index (.disk place (offset + text.length) mode) }
  | _ => world

/-- What can still be read from an open file. -/
def World.left (world : World) (index : Nat) : Text :=
  match world.files[index]? with
  | some (.source left) => left
  | some (.disk place offset _) => (world.content place).drop offset
  | _ => []

/-- The world after some characters were read from an open file. -/
def World.consume (world : World) (index count : Nat) : World :=
  match world.files[index]? with
  | some (.source left) =>
    { world with files := world.files.set index (.source (left.drop count)) }
  | some (.disk place offset mode) =>
    { world with files := world.files.set index (.disk place (offset + count) mode) }
  | _ => world

/-- Writes to a stream; nothing is written to one that leads nowhere. -/
def write (stream : Nat) (text : Text) : Act Unit :=
  modify fun machine =>
    match machine.streams.lookup stream with
    | some index => { machine with toWorld := machine.toWorld.write index text }
    | none => machine

/-- What can still be read from a stream. -/
def leftOn (stream : Nat) : Act Text := do
  let machine ← get
  return ((machine.streams.lookup stream).map machine.toWorld.left).getD []

/-- Reads some characters off a stream. -/
def consume (stream count : Nat) : Act Unit :=
  modify fun machine =>
    match machine.streams.lookup stream with
    | some index => { machine with toWorld := machine.toWorld.consume index count }
    | none => machine

/-- Makes a new open file; returns its index. -/
def addFile (file : OpenFile) : Act Nat := do
  let machine ← get
  set { machine with files := machine.files ++ [file] }
  return machine.files.length

/-- The streams with one of them leading to a file. -/
def redirect (stream index : Nat) (streams : List (Nat × Nat)) : List (Nat × Nat) :=
  Dict.put stream index streams

/-! ## Messages -/

/-- Writes a message, with the script and the line it is about. -/
def complain (message : Text) : Act Unit := do
  let machine ← get
  let command := match machine.builtin with
    | some name => name ++ ": ".toList
    | none => []
  write 2 (machine.name ++ ": ".toList ++ Text.ofNat machine.line ++ ": ".toList ++ command ++
    message ++ ['\n'])

/-- Sets the status. -/
def setStatus (status : Nat) : Act Unit :=
  modify fun machine => { machine with status }

/-- Writes a message and stops. -/
def fail (message : Text) : Act α := do
  complain message
  setStatus 2
  throw .failed

/-! ## Files -/

/-- The disk as seen from the directory of a script. -/
def Machine.view (machine : Machine) : Disk := { machine.disk with cwd := machine.directory }

/-- How the cause of a refusal is put when a file is opened, made or started. -/
def causeText (absence : String) : Disk.Cause → Text
  | .missing | .notDirectory => absence.toList
  | cause => cause.text

/-- The stream that a path names, if it names one. -/
def streamPath? (path : Text) : Option Nat :=
  match String.ofList path with
  | "/dev/stdin" | "/dev/fd/0" => some 0
  | "/dev/stdout" | "/dev/fd/1" => some 1
  | "/dev/stderr" | "/dev/fd/2" => some 2
  | _ => none

/-- Opens a file; returns the index it has among the open files. -/
def openFile (path : Text) (mode : Mode) : Act Nat := do
  let machine ← get
  if path = "/dev/null".toList then addFile .null
  else
    match (streamPath? path).bind fun stream => machine.streams.lookup stream with
    | some index => pure index
    | none =>
      let name := decodeText path
      match mode with
      | .read =>
        match machine.view.resolve name with
        | .ok (.present place (.file _)) => addFile (.disk place 0 mode)
        | .ok (.present _ _) => addFile .null
        | .ok (.vacant _) => fail ("cannot open ".toList ++ path ++ ": No such file".toList)
        | .error cause =>
          fail ("cannot open ".toList ++ path ++ ": ".toList ++ causeText "No such file" cause)
      | mode =>
        match machine.view.filePlace name with
        | .error cause =>
          fail ("cannot create ".toList ++ path ++ ": ".toList ++
            causeText "Directory nonexistent" cause)
        | .ok place =>
          let old := machine.disk.get? place
          if mode = .write && machine.options.noClobber && old.isSome then
            fail ("cannot create ".toList ++ path ++ ": File exists".toList)
          else
            if mode = .write || mode = .replace || old.isNone then
              modify fun machine => { machine with disk := machine.disk.putFile place [] }
            addFile (.disk place 0 mode)

/-! ## Variables -/

/-- The letters of the options that are on. -/
def Options.letters (options : Options) : Text :=
  (if options.exitOnFailure then ['e'] else []) ++ (if options.noGlob then ['f'] else []) ++
    (if options.trace then ['x'] else []) ++ (if options.verbose then ['v'] else []) ++
    (if options.noClobber then ['C'] else []) ++ (if options.exportAll then ['a'] else []) ++
    (if options.noUnset then ['u'] else [])

/-- The number that a text of digits writes. -/
def ofDigits (text : Text) : Nat :=
  text.foldl (fun n c => n * 10 + (c.toNat - '0'.toNat)) 0

/-- The value of a variable. -/
def Machine.held? (machine : Machine) (name : Text) : Option Text :=
  if name = "LINENO".toList then some (Text.ofNat machine.line)
  else (Dict.get? name machine.bindings).bind (·.value)

/-- The characters at which values are cut into words. -/
def Machine.separators (machine : Machine) : Text :=
  (machine.held? "IFS".toList).getD [' ', '\t', '\n']

/-- All arguments as one text. -/
def Machine.joined (machine : Machine) : Text :=
  let separator := (machine.separators.head?).toList
  List.intercalate separator machine.arguments

/-- The value of a parameter, unless it has none. -/
def Machine.value? (machine : Machine) (name : Text) : Option Text :=
  match name with
  | ['@'] | ['*'] => if machine.arguments = [] then none else some machine.joined
  | ['#'] => some (Text.ofNat machine.arguments.length)
  | ['?'] => some (Text.ofNat machine.status)
  | ['-'] => some machine.options.letters
  | ['$'] => some (Text.ofNat processNumber)
  | ['!'] => machine.jobs.head?.map fun (number, _) => Text.ofNat number
  | name =>
    if name.all Char.isDigit && name ≠ [] then
      match ofDigits name with
      | 0 => some machine.name
      | n + 1 => machine.arguments[n]?
    else machine.held? name

/-- Gives a variable a value. -/
def assign (name value : Text) : Act Unit := do
  let machine ← get
  let old := (Dict.get? name machine.bindings).getD {}
  if old.readonly then fail (name ++ ": is read only".toList)
  else
    let new := { old with
      value := some value
      exported := old.exported || machine.options.exportAll }
    set { machine with
      bindings := Dict.put name new machine.bindings
      located := if name = "PATH".toList then [] else machine.located }

/-- Things by name in the order in which the interpreter keeps them: in so many groups. -/
def inGroups (count : Nat) (named : List (Text × α)) : List (Text × α) :=
  let group := fun (name : Text) =>
    ((name.headD '\x00').toNat * 16 + name.foldl (fun sum c => sum + c.toNat) 0) % count
  named.mergeSort fun (a, _) (b, _) => decide (group a ≤ group b)

/-- The variables that programs see. -/
def Machine.environment (machine : Machine) : List (Text × Text) :=
  inGroups 39 (machine.bindings.filterMap fun (name, v) =>
    match v.exported, v.value with
    | true, some value => some (name, value)
    | _, _ => none)

/-! ## Copies -/

/-- Runs an act and then changes the machine, however the act ends. -/
def restoring (act : Act α) (restore : Machine → Machine) : Act α :=
  ExceptT.mk fun machine =>
    let (result, after) := act.run.run machine
    (result, restore after)

/-- Runs an act; streams and line come back as they were. -/
def withStreams (act : Act α) : Act α := do
  let streams := (← get).streams
  restoring act fun machine => { machine with streams }

/--
Runs an act on a copy of the machine, with other streams if they are given; only
what all parts share stays changed. The status of the copy is the result.
-/
def isolated (streams : List (Nat × Nat)) (act : Act Unit) : Act Nat := do
  let machine ← get
  let (result, after) := act.run.run
    { machine with streams, isCopy := true, traps := machine.traps.filter (·.2 = []) }
  let world := match result with
    | .error (.killed signal) => { after.toWorld with killed := some signal }
    | _ => after.toWorld
  set { machine with toWorld := world }
  match world.killed, machine.isCopy with
  | some signal, false => throw (.killed signal)
  | _, _ => return after.status % 256

/-- What an act on a copy of the machine prints, and its status. -/
def captured (act : Act Unit) : Act (Text × Nat) := do
  let index ← addFile (.sink [])
  let status ← isolated (redirect 1 index (← get).streams) act
  match (← get).files[index]? with
  | some (.sink written) => return (written, status)
  | _ => return ([], status)

end Marginalia.Shell
