import Marginalia.Shell.Rule.Sheet
import Marginalia.Shell.Rule.Token

/-!
# What rules read and write

Records come from the operands one after the other, from named files and from the
output of commands. The input is read in blocks, so a program that does not need all
of it leaves the rest to others. A command that is printed to starts when it is
closed, at the latest at the end.
-/

namespace Marginalia.Shell.Rule.Flow

open Sheet

/-! ## Commands -/

/-- Runs a command of the interpreter of scripts; returns its status. -/
def runCommand (launch : Launch) (name : String) (command : Text) : Act Nat := do
  let isKilled ← tryCatch
    (do
      let _ ← launch name.toList ["-c".toList, command]
      pure none)
    fun stop => do
      match stop with
      | .killed signal => pure (some signal)
      | stop => throw stop
  return (isKilled.map (256 + ·)).getD (← get).status

/-- Writes what was printed so far. -/
def flush : Work Unit := do
  let pending := (← get).pending
  modify fun sheet => { sheet with pending := [] }
  Work.act (write 1 pending)

/-- What a command prints, as something to read from. -/
def sourceOfCommand (launch : Launch) (command : Text) : Work Source := do
  flush
  Work.act do
    let index ← addFile (.sink [])
    let status ← withStreams do
      modify fun machine => { machine with streams := redirect 1 index machine.streams }
      runCommand launch "/bin/sh" command
    match (← get).files[index]? with
    | some (.sink written) => return { left := written, status }
    | _ => return { left := [], status }

/-- Lets a command read a text; returns its status. -/
def feed (launch : Launch) (command text : Text) : Work Nat :=
  Work.act do
    let index ← addFile (.source text)
    withStreams do
      modify fun machine => { machine with streams := redirect 0 index machine.streams }
      runCommand launch "/bin/sh" command

/-! ## Reading -/

/-- The number of characters that are taken from the input at once. -/
def blockSize : Nat := 4096

/-- A source after as much of the input was added as is needed for a record. -/
def loaded (ending : Ending) : (fuel : Nat) → Source → Work Source
  | 0, source => pure source
  | fuel + 1, source => do
    if !source.isInput || ending.isWithin source.left then return source
    else
      let block := (← Work.act (leftOn 0)).take blockSize
      if block = [] then return source
      else
        Work.act (consume 0 block.length)
        loaded ending fuel { source with left := source.left ++ block }

/-- How many blocks are read at most. -/
def blockLimit : Nat := 1000000

/-- Takes a record off a source. -/
def takeRecord (source : Source) : Work (Option Text × Source) := do
  let mark ← textOf "RS"
  let ending ← orFail mark (Ending.ofText mark)
  let source ← loaded ending blockLimit source
  match ending.first? source.left with
  | some (record, left) => return (some record, { source with left })
  | none => return (none, { source with left := [] })

/-- What a path names as something to read from, or why there is nothing. -/
def sourceOfFile (path : Text) : Work (Except Disk.Cause Source) := do
  if path = ['-'] || path = "/dev/stdin".toList then return .ok { left := [], isInput := true }
  else if path = "/dev/null".toList then return .ok { left := [] }
  else
    match (← Work.act get).view.readFile (decodeText path) with
    | .ok bytes => return .ok { left := streamText bytes }
    | .error (.refused cause _) => return .error cause
    | .error _ => return .error .missing

/-- Opens a file for the rules. -/
def openMain (path : Text) : Work Unit := do
  match ← sourceOfFile path with
  | .ok source => modify fun sheet => { sheet with main := some source, hasRead := true }
  | .error .isDirectory => failWith "read error (Is a directory)".toList
  | .error cause =>
    failWith ("cannot open \"".toList ++ path ++ "\" (".toList ++ cause.text ++ [')'])

/-- The variable and the value of an operand that assigns. -/
def assignment? (operand : Text) : Option (Text × Text) :=
  match Text.cut? '=' operand with
  | some (name, value) => if isName name then some (name, unescape 0 value) else none
  | none => none

/-- Goes on with the next operand; the result says whether there was one. -/
def nextOperand : (fuel : Nat) → Work Bool
  | 0 => pure false
  | fuel + 1 => do
    let n := (← get).operand
    if (← plainValue "ARGC".toList).asNumber ≤ Float.ofNat n then
      if (← get).hasRead then return false
      else
        openMain ['-']
        setValue "FILENAME".toList (.text ['-'])
        return true
    else
      modify fun sheet => { sheet with operand := n + 1 }
      let arguments ← tableOf "ARGV".toList
      let key := (Text.ofNat n, some (Int.ofNat n))
      let operand ← if ← hasKey arguments key then do asText (← elementAt arguments key)
        else pure []
      match assignment? operand with
      | some (name, value) => do
        setValue name (.input value)
        nextOperand fuel
      | none =>
        if operand = [] then nextOperand fuel
        else
          openMain operand
          setValue "FILENAME".toList (.text operand)
          setValue "FNR".toList (.number 0)
          return true

/-- How many operands are gone through at most. -/
def operandLimit : Nat := 1000000

/-- Takes the next record for the rules. -/
def nextRecord : (fuel : Nat) → Work (Option Text)
  | 0 => pure none
  | fuel + 1 => do
    match (← get).main with
    | none => if ← nextOperand operandLimit then nextRecord fuel else return none
    | some source =>
      match ← takeRecord source with
      | (some record, source) => do
        modify fun sheet => { sheet with main := some source }
        increase "NR"
        increase "FNR"
        return some record
      | (none, _) => do
        modify fun sheet => { sheet with main := none }
        nextRecord fuel

/-- Takes a record off a source that has a name; below zero there is no such source. -/
def readNamed (name : Text) (start : Work (Except Disk.Cause Source)) :
    Work (Except Int Text) := do
  let found ← match (← get).inputs.lookup name with
    | some source => pure (Except.ok source)
    | none => start
  match found with
  | .error _ => return .error (-1)
  | .ok source => do
    let (record, source) ← takeRecord source
    modify fun sheet => { sheet with inputs := Dict.put name source sheet.inputs }
    match record with
    | some record => return .ok record
    | none => return .error 0

/-! ## Writing -/

/-- Opens a file to print to. -/
def openOutput (route : Route) (path : Text) : Work Nat := do
  if path = "/dev/null".toList then Work.act (addFile .null)
  else
    let machine ← Work.act get
    match machine.view.filePlace (decodeText path) with
    | .error cause =>
      failWith ("cannot open \"".toList ++ path ++ "\" for output (".toList ++ cause.text ++ [')'])
    | .ok place =>
      Work.act do
        if route = .file || (machine.disk.get? place).isNone then
          modify fun machine => { machine with disk := machine.disk.putFile place [] }
        addFile (.disk place 0 (if route = .file then .replace else .append))

/-- Prints a text where a name leads to. -/
def printTo (route : Route) (name text : Text) : Work Unit := do
  let isFile := route ≠ .command
  if isFile && (name = "/dev/stdout".toList || name = ['-']) then
    modify fun sheet => { sheet with pending := sheet.pending ++ text }
  else if isFile && name = "/dev/stderr".toList then Work.act (write 2 text)
  else
    let isSame := fun (output : Output) =>
      output.name = name && (output.route ≠ .command) = isFile
    let output ← match (← get).outputs.find? isSame with
      | some output => pure output
      | none => do
        let index ← if isFile then openOutput route name else do
          flush
          pure 0
        pure { name, route, index }
    if isFile then
      Work.act (modify fun machine =>
        { machine with toWorld := machine.toWorld.write output.index text })
    modify fun sheet =>
      let others := sheet.outputs.filter fun other => !isSame other
      let held := if isFile then [] else output.held ++ text
      { sheet with outputs := { output with held } :: others }

/-- Closes what a name leads to; the result is its status, or below zero if nothing is open. -/
def close (launch : Launch) (name : Text) : Work Int := do
  let sheet ← get
  let (closed, others) := sheet.outputs.partition (·.name = name)
  let input := sheet.inputs.lookup name
  set { sheet with
    outputs := others
    inputs := sheet.inputs.filter (·.1 ≠ name) }
  let statuses ← closed.mapM fun output =>
    if output.route = .command then feed launch name output.held else pure 0
  match statuses.head?, input with
  | some status, _ => return status
  | none, some source => return source.status
  | none, none => return -1

/-- Closes everything that is printed to, what was used last first. -/
def closeAll (launch : Launch) : Work Unit := do
  (← get).outputs.forM fun output => do
    if output.route = .command then
      let _ ← feed launch output.name output.held
  modify fun sheet => { sheet with outputs := [] }
  flush

end Marginalia.Shell.Rule.Flow
