import Marginalia.Highlighter.Basic
import Marginalia.Shell.Interpreter

/-!
# Outside programs

Programs as a highlighter starts them: the interpreter of scripts and the programs
that scripts call. A program sees an environment, and a disk that it may change.

This is what the command runs when its highlighter is a script. It is one runner
among others: the rest of the library takes any, and nothing is proved of this one.
-/

namespace Marginalia.Shell

/-- The directories that a program finds besides those of its disk. -/
def systemDirs : List Location :=
  ["bin", "dev", "etc", "tmp", "usr", "usr/bin"].map fun path => Text.splitOn '/' path.toList

/-- A disk with the directories of the system. -/
def withSystem (disk : Disk) : Disk :=
  systemDirs.foldl (fun disk place =>
    if (disk.get? place).isSome then disk else disk.put place .directory) disk

/-- A disk without the directories of the system that were not there before. -/
def withoutSystem (before disk : Disk) : Disk :=
  disk.drop fun place => (before.get? place).isNone && systemDirs.contains place

/-- The machine that a program starts on. -/
def startMachine (environment : List (Text × Text)) (disk : Disk) (name : Text) (stdin : Bytes) :
    Machine where
  disk := disk
  files := [.source (streamText stdin), .sink [], .sink []]
  directory := disk.cwd
  streams := [(0, 0), (1, 1), (2, 2)]
  name := encodeText name
  bindings := startVariables
    (environment.map fun (name, value) => (encodeText name, encodeText value)) disk.cwd

/-- What was written to an open file. -/
def Machine.writtenTo (machine : Machine) (index : Nat) : Bytes :=
  match machine.files[index]? with
  | some (.sink written) => streamBytes written
  | _ => []

/-- What a stopped machine replies; the end by a signal is a status below zero. -/
def reply (result : Except Stop Unit) (machine : Machine) : Reply where
  status := match result with
    | .error (.killed signal) => -Int.ofNat signal
    | _ => Int.ofNat (machine.status % 256)
  stdout := machine.writtenTo 1
  stderr := machine.writtenTo 2

/-- Starts what was found by a name. -/
def start (name : Text) (found : Executable) (arguments : List Text) : Act Unit :=
  let (program, arguments) := found.command (arguments.map encodeText)
  if program = "sh".toList || program = "dash".toList then
    toEnd (run fuel) (interpret (run fuel) arguments)
  else startFound (run fuel) true startDepth name (.program program) arguments

/-- Programs as they are started in an environment. -/
def runner (environment : List (Text × Text)) : Runner := fun disk command stdin =>
  if command.any Disk.hasNull then (.error (.notStarted .nullByte), disk)
  else
    match command with
    | [] => (.error (.notStarted (.refused .missing [])), disk)
    | name :: arguments =>
      let path := "PATH".toList
      let search := (Dict.get? path environment).getD standardSearch
      let environment := Dict.put path search environment
      match findProgram search (withSystem disk) name with
      | .error cause => (.error (.notStarted (.refused cause name)), disk)
      | .ok found =>
        let (result, machine) :=
          (start name found arguments).run.run
            (startMachine environment (withSystem disk) name stdin)
        (.ok (reply result machine), withoutSystem disk machine.disk)

end Marginalia.Shell
