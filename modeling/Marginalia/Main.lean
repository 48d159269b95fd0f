import Marginalia.CommandLine.Standard
import Marginalia.Highlighter.Lines
import Marginalia.Shell.Basic

/-!
# The command

The outer layer: it takes a picture of the files that a run can see, runs the
program on the picture, and carries out the changes that the program made to it.
The standard command stands for the line highlighter; any other command is run
by the small interpreter of scripts.
-/

namespace Marginalia.Main

/-- The path of a location as the system takes it. -/
def systemPath (place : Location) : String :=
  String.ofList (Disk.pathOf place)

/-- Adds the content of a file to a disk. -/
def loadFile (place : Location) (disk : Disk) : IO Disk := do
  let content ← IO.FS.readBinFile (systemPath place)
  return disk.put place (.file content.toList)

/-- Adds a file that a walk came upon to a disk; only sources need their content. -/
def loadEntry (place : Location) (disk : Disk) : IO Disk :=
  if (Registry.standard.forPath (Disk.pathOf place)).isSome then loadFile place disk
  else return disk.put place (.file [])

/-- Adds a directory and everything below it to a disk. -/
partial def loadTree (place : Location) (disk : Disk) : IO Disk := do
  let directory ← IO.FS.realPath (systemPath place)
  let mut disk := disk.put place .directory
  for entry in ← directory.readDir do
    let inner := place ++ [entry.fileName.toList]
    match (← entry.path.symlinkMetadata).type with
    | .dir => disk ← loadTree inner disk
    | .file => disk ← loadEntry inner disk
    | .symlink =>
      if ← entry.path.pathExists then
        let target ← IO.FS.realPath entry.path
        disk := disk.put inner (.link target.toString.toList)
    | .other => pure ()
  return disk

/-- Adds directories to a disk, with the environment files in them. -/
def loadDirectories (places : List Location) (disk : Disk) : IO Disk := do
  let mut disk := disk
  for place in places do
    if (disk.get? place).isNone then disk := disk.put place .directory
    let file := place ++ [EnvFile.fileName]
    let path ← IO.FS.realPath (systemPath place)
    for entry in ← path.readDir do
      if entry.fileName.toList = EnvFile.fileName then
        if (← entry.path.metadata).type == .file then disk ← loadFile file disk
  return disk

/-- Adds what a path names to a disk, if it is there and the disk lacks it. -/
def loadPath (disk : Disk) (path : Text) : IO Disk := do
  if disk.exists? path then return disk
  let place := Path.components (Path.join (Disk.pathOf disk.cwd) path)
  try
    let found ← IO.FS.realPath (systemPath place)
    let disk ← loadDirectories (Disk.ancestors place).tail disk
    match (← found.metadata).type with
    | .dir => loadTree place disk
    | .file => loadFile place disk
    | _ => return disk
  catch _ => return disk

/-- The files that a run with the given arguments can see. -/
def loadDisk (environment : List (Text × Text)) (arguments : List Text) : IO Disk := do
  let cwd := Path.components (← IO.currentDir).toString.toList
  let disk ← loadDirectories (Disk.ancestors cwd) { cwd }
  let settings := (Settings.load environment disk).toOption.getD {}
  (arguments ++ settings.command ++ [settings.outputDir]).foldlM loadPath disk

/-- The variables of the environment that are settings. -/
def loadEnvironment : IO (List (Text × Text)) :=
  Settings.variableNames.filterMapM fun name => do
    let value ← IO.getEnv (String.ofList name)
    return value.map fun value => (name, value.toList)

/-- Carries out a change. -/
def store (place : Location) : Node → IO Unit
  | .directory => IO.FS.createDirAll (systemPath place)
  | .file content => IO.FS.writeBinFile (systemPath place) ⟨content.toArray⟩
  | .link _ => pure ()

/-- Carries out a removal. -/
def remove (disk : Disk) (place : Location) : IO Unit :=
  match disk.get? place with
  | some .directory => IO.FS.removeDir (systemPath place)
  | _ => IO.FS.removeFile (systemPath place)

/-- The programs that a run can start in an environment. -/
def programs (environment : List (Text × Text)) : Runner := fun disk command stdin =>
  if standardCommand.isPrefixOf command then
    let settings := Settings.ofEnvironment (Dict.get? · environment)
    let encoding := Encoding.named? settings.encoding
    (LineHighlighter.uniform {}).runner (encoding.getD .utf8) disk command stdin
  else Shell.runner environment disk command stdin

/-- Runs the program and leaves its changes behind. -/
def run (arguments : List String) : IO UInt32 := do
  let arguments := arguments.map String.toList
  let environment ← loadEnvironment
  let disk ← loadDisk environment arguments
  let report := CommandLine.run { library := .standard, disk, environment, programs } arguments
  (Disk.removals disk report.disk).forM (remove disk)
  (Disk.changes disk report.disk).forM fun (place, node) => store place node
  IO.print (String.ofList report.out)
  IO.eprint (String.ofList report.err)
  match report.exit with
  | .ok status => return .ofNat status
  | .error failure =>
    IO.eprintln (String.ofList failure.message)
    return 1

end Marginalia.Main

/-- The command. -/
def main (arguments : List String) : IO UInt32 :=
  Marginalia.Main.run arguments
