import Marginalia.Shell.Naming

/-!
# Programs that change files

The programs that make, copy, move, list and remove files and directories. Each
goes through its operands and changes the disk as far as it can; what is refused
is said in a message, and the other operands are still worked off.
-/

namespace Marginalia.Shell.Utility

/-- Changes a disk operand by operand; each change may be refused with a message. -/
def changing (request : Request) (operands : List Text)
    (change : Disk → Text → Except Disk.Cause Disk) (complaint : Text → Disk.Cause → Text) :
    Effect :=
  let step := fun (state : Disk × List (Nat × Text)) (operand : Text) =>
    match change state.1 (decodeText operand) with
    | .ok disk => (disk, state.2)
    | .error cause =>
      let message := request.program ++ ": ".toList ++ complaint operand cause ++ ['\n']
      (state.1, state.2 ++ [(2, message)])
  let (disk, written) := operands.foldl step (request.disk, [])
  { written, status := if written.isEmpty then 0 else 1, disk := some disk }

/-- A change of a disk, with its cause if it is refused. -/
def outcome : Disk.Change → Except Disk.Cause Disk
  | (.ok (), disk) => .ok disk
  | (.error (.refused cause _), _) => .error cause
  | (.error _, _) => .error .missing

/-- Makes directories. -/
def mkdir (request : Request) : Effect :=
  withOptions request "pm:vZ" [("parents", 'p'), ("mode=", 'm'), ("verbose", 'v')] fun found operands =>
    if operands.isEmpty then refuse request ("missing operand".toList ++ hint request) 1
    else
      changing request operands
        (fun disk path => outcome (if has found 'p' then disk.makeDirs path else disk.makeDir path))
        (fun operand cause =>
          "cannot create directory '".toList ++ operand ++ "': ".toList ++ cause.text)

/-- A disk without what a path names. -/
def removed (recursive : Bool) (disk : Disk) (path : Text) : Except Disk.Cause Disk :=
  match disk.walk false Disk.maxLinks (disk.start path) (Disk.steps path) with
  | .error cause => .error cause
  | .ok (.vacant _) => .error .missing
  | .ok (.present place node) =>
    if node = .directory && !recursive then .error .isDirectory
    else .ok (disk.drop place.isPrefixOf)

/-- Removes files. -/
def rm (request : Request) : Effect :=
  withOptions request "dfirvIR" [("force", 'f'), ("recursive", 'r'), ("dir", 'd'), ("verbose", 'v')] fun found operands =>
    if operands.isEmpty && !has found 'f' then
      refuse request ("missing operand".toList ++ hint request) 1
    else
      changing request operands
        (fun disk path =>
          match removed (has found 'r' || has found 'R') disk path with
          | .error .missing => if has found 'f' then .ok disk else .error .missing
          | result => result)
        (fun operand cause => "cannot remove '".toList ++ operand ++ "': ".toList ++ cause.text)

/-- Makes files that are not there. -/
def touch (request : Request) : Effect :=
  withOptions request "acd:fhmr:t:" [("no-create", 'c')] fun _ operands =>
    if operands.isEmpty then refuse request ("missing file operand".toList ++ hint request) 1
    else
      changing request operands
        (fun disk path => if disk.exists? path then .ok disk else outcome (disk.writeFile path []))
        (fun operand cause => "cannot touch '".toList ++ operand ++ "': ".toList ++ cause.text)

/-- Removes directories that are empty. -/
def rmdir (request : Request) : Effect :=
  withOptions request "pv" [("parents", 'p'), ("verbose", 'v')] fun _ operands =>
    if operands.isEmpty then refuse request ("missing operand".toList ++ hint request) 1
    else
      changing request operands
        (fun disk path =>
          match disk.resolve path with
          | .ok (.present place .directory) =>
            if (disk.children place).isEmpty then removed true disk path else .error .taken
          | .ok (.present ..) => .error .notDirectory
          | .ok (.vacant _) => .error .missing
          | .error cause => .error cause)
        (fun operand cause =>
          "failed to remove '".toList ++ operand ++ "': ".toList ++
            if cause = .taken then "Directory not empty".toList else cause.text)

/-! ## Copying and moving -/

/-- Where a file goes: into a directory that is there, or to the path itself. -/
def goalFor (disk : Disk) (source goal : Text) : Text :=
  if disk.isDirectory (decodeText goal) then
    Text.dropEndWhile Path.isSlash goal ++ '/' :: Path.name (unslashed source)
  else goal

/-- A disk with what lies at one location and below it copied to another one. -/
def copied (disk : Disk) (start goal : Location) : Disk :=
  let inside := disk.entries.filter fun (place, _) => start.isPrefixOf place
  inside.foldl (fun disk (place, node) =>
    let new := goal ++ place.drop start.length
    let after := match node with
      | .file content => disk.putFile new content
      | node => disk.put new node
    { after with
      executable :=
        if disk.executable.contains place then new :: disk.executable else disk.executable }) disk

/-- A disk without what lies at a location and below it. -/
def erased (disk : Disk) (start : Location) : Disk :=
  { disk.drop start.isPrefixOf with
    executable := disk.executable.filter fun place => !start.isPrefixOf place }

/-- A disk with what lies at one location and below it moved to another one. -/
def moved (disk : Disk) (start goal : Location) : Disk :=
  let cleared := erased disk goal
  let renamed := fun place =>
    if start.isPrefixOf place then goal ++ place.drop start.length else place
  { erased (copied cleared start goal) start with
    shared := cleared.shared.map (·.map renamed) }

/-- A disk with one more location for the file at a location. -/
def joined (disk : Disk) (place other : Location) : Disk :=
  let names := disk.locations place
  { disk with shared := (other :: names) :: disk.shared.filter (· ≠ names) }

/-- The location that a path names for a new file or directory. -/
def newPlace (disk : Disk) (isDirectory : Bool) (path : Text) : Except Disk.Cause Location :=
  let path := if isDirectory then Text.dropEndWhile Path.isSlash path else path
  match disk.resolve path with
  | .ok (.present place _) => .ok place
  | .ok (.vacant place) => .ok place
  | .error cause => .error (if Disk.endsInSlash path then .notDirectory else cause)

/-- A complaint about the operands of a program, up to the names. -/
def aboutGoal (verb : String) (source goal : Text) : Text :=
  verb.toList ++ " '".toList ++ source ++ "' to '".toList ++ goal ++ "': ".toList

/-- Copies one file or directory. -/
def copyOne (recursive : Bool) (disk : Disk) (source goal : Text) : Except Text Disk :=
  let goal := goalFor disk source goal
  match disk.resolve (decodeText source) with
  | .ok (.present start node) =>
    if node = .directory && !recursive then
      .error ("-r not specified; omitting directory '".toList ++ source ++ ['\''])
    else
      match newPlace disk (node = .directory) (decodeText goal) with
      | .error cause =>
        .error ("cannot create regular file '".toList ++ goal ++ "': ".toList ++ cause.text)
      | .ok place =>
        if (disk.locations start).contains place then
          .error (['\''] ++ source ++ "' and '".toList ++ goal ++ "' are the same file".toList)
        else .ok (copied disk start place)
  | .ok (.vacant _) =>
    .error ("cannot stat '".toList ++ source ++ "': No such file or directory".toList)
  | .error cause => .error ("cannot stat '".toList ++ source ++ "': ".toList ++ cause.text)

/-- Moves one file or directory. -/
def moveOne (disk : Disk) (source goal : Text) : Except Text Disk :=
  let goal := goalFor disk source goal
  match disk.walk false Disk.maxLinks (disk.start (decodeText source))
      (Disk.steps (decodeText source)) with
  | .ok (.present start node) =>
    match newPlace disk (node = .directory) (decodeText goal) with
    | .error cause => .error (aboutGoal "cannot move" source goal ++ cause.text)
    | .ok place =>
      if place = start then
        .error (['\''] ++ source ++ "' and '".toList ++ goal ++ "' are the same file".toList)
      else if node = .directory && (disk.get? place).isSome then
        .error ("cannot overwrite non-directory '".toList ++ goal ++ "' with directory '".toList ++
          source ++ ['\''])
      else .ok (moved disk start place)
  | .ok (.vacant _) =>
    .error ("cannot stat '".toList ++ source ++ "': No such file or directory".toList)
  | .error cause => .error ("cannot stat '".toList ++ source ++ "': ".toList ++ cause.text)

/-- Gives one file another name. -/
def linkOne (disk : Disk) (source goal : Text) : Except Text Disk :=
  let refused := "failed to create hard link '".toList ++ goal ++ ['\'']
  match disk.walk false Disk.maxLinks (disk.start (decodeText source))
      (Disk.steps (decodeText source)) with
  | .error cause => .error ("failed to access '".toList ++ source ++ "': ".toList ++ cause.text)
  | .ok (.vacant _) =>
    .error ("failed to access '".toList ++ source ++ "': No such file or directory".toList)
  | .ok (.present _ .directory) =>
    .error (['\''] ++ source ++ "': hard link not allowed for directory".toList)
  | .ok (.present start node) =>
    match disk.directoryPlace (decodeText goal) with
    | .error .taken => .error (refused ++ ": File exists".toList)
    | .error cause => .error (refused ++ " => '".toList ++ source ++ "': ".toList ++ cause.text)
    | .ok place => .ok (joined (disk.put place node) start place)

/-- Carries files to where the last operand says. -/
def carrying (request : Request) (operands : List Text)
    (carry : Disk → Text → Text → Except Text Disk) : Effect :=
  match operands.reverse with
  | [] => refuse request ("missing file operand".toList ++ hint request) 1
  | [source] =>
    refuse request
      ("missing destination file operand after '".toList ++ source ++ ['\''] ++ hint request) 1
  | goal :: sources =>
    if 1 < sources.length && !request.disk.isDirectory (decodeText goal) then
      let cause : Disk.Cause :=
        if request.disk.exists? (decodeText goal) then .notDirectory else .missing
      refuse request ("target '".toList ++ goal ++ "': ".toList ++ cause.text) 1
    else
      let step := fun (state : Disk × List (Nat × Text)) (source : Text) =>
        match carry state.1 source goal with
        | .ok disk => (disk, state.2)
        | .error message =>
          (state.1, state.2 ++ [(2, request.program ++ ": ".toList ++ message ++ ['\n'])])
      let (disk, written) := sources.reverse.foldl step (request.disk, [])
      { written, status := if written.isEmpty then 0 else 1, disk := some disk }

/-- Copies files. -/
def cp (request : Request) : Effect :=
  withOptions request "abdfHilLnprst:uvxPRS:TZ" [("archive", 'a'), ("force", 'f'), ("recursive", 'r'), ("verbose", 'v')] fun found operands =>
    carrying request operands
      (copyOne (has found 'r' || has found 'R' || has found 'a'))

/-- Moves files. -/
def mv (request : Request) : Effect :=
  withOptions request "bfint:uvS:TZ" [("force", 'f'), ("verbose", 'v')] fun _ operands => carrying request operands moveOne

/-- Makes links. -/
def ln (request : Request) : Effect :=
  withOptions request "bdfinrst:vFLPS:T" [("symbolic", 's'), ("force", 'f'), ("verbose", 'v')] fun found operands =>
    carrying request operands fun disk source goal =>
      let goal := goalFor disk source goal
      let path := decodeText goal
      let disk := if has found 'f' then (removed false disk path).toOption.getD disk else disk
      if !has found 's' then linkOne disk source goal
      else
        match disk.makeLink (decodeText source) path with
        | (.ok (), disk) => .ok disk
        | (.error (.linkRefused cause _ _), _) =>
          .error ("failed to create symbolic link '".toList ++ goal ++ "': ".toList ++ cause.text)
        | (.error _, _) => .error ("failed to create symbolic link '".toList ++ goal ++ ['\''])

/-! ## Modes -/

/-- What a mode says about whether a file can be started. -/
def modeStarts? (mode : Text) : Option Bool :=
  if mode ≠ [] && mode.all Char.isDigit then
    some ((mode.reverse[2]?).any fun c => (c.toNat - '0'.toNat) % 2 = 1)
  else
    match mode.dropWhile fun c => "ugoa".toList.contains c with
    | '+' :: rest => if rest.contains 'x' || rest.contains 'X' then some true else none
    | '-' :: rest => if rest.contains 'x' then some false else none
    | '=' :: rest => some (rest.contains 'x')
    | _ => none

/-- Changes modes, of which only one part is kept: whether a file can be started. -/
def chmod (request : Request) : Effect :=
  let dropDash := request.arguments.map fun argument =>
    if argument.head? = some '-' && (modeStarts? argument).isSome then '.' :: argument else argument
  withOptions { request with arguments := dropDash } "Rfvc" [("recursive", 'R')] fun _ operands =>
    match operands with
    | [] => refuse request ("missing operand".toList ++ hint request) 1
    | [mode] =>
      refuse request ("missing operand after '".toList ++ mode ++ ['\''] ++ hint request) 1
    | mode :: paths =>
      let starts := modeStarts? (if mode.head? = some '.' then mode.tail else mode)
      changing request paths
        (fun disk path =>
          match disk.resolve path with
          | .ok (.present place _) =>
            let others := disk.executable.filter (· ≠ place)
            .ok { disk with
              executable := match starts with
                | none => disk.executable
                | some true => place :: others
                | some false => others }
          | .ok (.vacant _) => .error .missing
          | .error cause => .error cause)
        (fun operand cause => "cannot access '".toList ++ operand ++ "': ".toList ++ cause.text)

/-! ## Listing -/

/-- The names in a directory that a listing shows. -/
def shownNames (found : List (Char × Text)) (disk : Disk) (place : Location) : List Text :=
  let names := (disk.children place).filter fun name =>
    has found 'a' || has found 'A' || name.head? ≠ some '.'
  let names := if has found 'a' then ['.'] :: ['.', '.'] :: names else names
  if has found 'r' then names.reverse else names

/-- A name in a listing, with a slash after that of a directory if asked for. -/
def shownName (found : List (Char × Text)) (disk : Disk) (place : Location) (name : Text) : Text :=
  let isDirectory := disk.get? (place ++ [name]) = some .directory
  encodeText name ++ if (has found 'p' || has found 'F') && isDirectory then ['/'] else []

/-- Lists directories. -/
def ls (request : Request) : Effect :=
  withOptions request "1aAdrpFCtU" [("all", 'a'), ("almost-all", 'A'), ("directory", 'd'), ("reverse", 'r')] fun found operands =>
    let operands := (if operands.isEmpty then [['.']] else operands).mergeSort Text.isLe
    let spots := operands.map fun operand => (operand, request.disk.resolve (decodeText operand))
    let complaints := spots.filterMap fun (operand, spot) =>
      let complaint := fun (cause : Disk.Cause) =>
        some (2, "ls: cannot access '".toList ++ operand ++ "': ".toList ++ cause.text ++ ['\n'])
      match spot with
      | .error cause => complaint cause
      | .ok (.vacant _) => complaint .missing
      | .ok (.present ..) => none
    let files := spots.filterMap fun (operand, spot) =>
      match spot with
      | .ok (.present _ node) => if node ≠ .directory || has found 'd' then some operand else none
      | _ => none
    let folders := spots.filterMap fun (operand, spot) =>
      match spot with
      | .ok (.present place .directory) => if has found 'd' then none else some (operand, place)
      | _ => none
    let several := 1 < operands.length
    let blocks := (if files.isEmpty then [] else [Text.unlines files]) ++
      folders.map fun (operand, place) =>
        let names := shownNames found request.disk place
        (if several then operand ++ ":\n".toList else []) ++
          Text.unlines (names.map (shownName found request.disk place))
    { written := complaints ++ [(1, List.intercalate ['\n'] blocks)]
      status := if complaints.isEmpty then 0 else 2 }

/-- Makes a file or directory of its own under a new name, and prints that. -/
def mktemp (request : Request) : Effect :=
  withOptions request "dqup:t" [("directory", 'd'), ("quiet", 'q')] fun found operands =>
    let stem := "/tmp/tmp.".toList
    let taken := fun n => request.disk.exists? (stem ++ Text.ofNat (1000000000 + n))
    let n := ((List.range (request.disk.entries.length + 1)).find? fun n => !taken n).getD 0
    let path := match operands with
      | [] => stem ++ Text.ofNat (1000000000 + n)
      | template :: _ => template.map fun c => if c = 'X' then 'x' else c
    let change :=
      if has found 'd' then request.disk.makeDir path else request.disk.writeFile path []
    { written := [(1, path ++ ['\n'])], disk := some change.2 }

/-- Prints where links lead. -/
def readlink (request : Request) : Effect :=
  withOptions request "efmnqsvz" [("no-newline", 'n')] fun found operands =>
    let results := operands.map fun operand =>
      let path := decodeText operand
      match request.disk.walk false Disk.maxLinks (request.disk.start path) (Disk.steps path) with
      | .ok (.present _ (.link target)) => some (encodeText target)
      | _ => none
    { written := results.filterMap fun result =>
        result.map fun target => (1, if has found 'n' then target else target ++ ['\n'])
      status := if results.all (·.isSome) then 0 else 1 }

end Marginalia.Shell.Utility
