import Marginalia.Shell.Builtin
import Marginalia.Shell.Expansion
import Marginalia.Shell.Programs

/-!
# Running scripts

How commands run. The functions before `run` are given what runs the commands inside
a command, and `run` ties them together: each of its calls lowers an amount of fuel,
so a script that would go on for ever comes to an end as well.

A command that fails is tested if its status only decides how the script goes on;
only one that is not tested can end a script that asks for that.
-/

namespace Marginalia.Shell

/-- What runs a command, given whether it is tested. -/
abbrev Execute := Bool → Command → Act Unit

/-- Goes on after a failure, with the status that it has set. -/
def forgiving (act : Act Unit) : Act Unit :=
  ExceptT.mk fun machine =>
    match act.run.run machine with
    | (.error .failed, after) => (.ok (), after)
    | result => result

/-- Ends the script if it asks for that and the last command failed. -/
def checkStatus (tested : Bool) : Act Unit := do
  let machine ← get
  if machine.options.exitOnFailure && !tested && machine.status ≠ 0 then throw .ended

/-- Sets the line that messages are about. -/
def setLine (line : Nat) : Act Unit := modify fun machine => { machine with line }

/-- What a command prints, with its status kept in mind. -/
def captureOutput (run : Execute) (command : Option Command) : Act Text := do
  match command with
  | none => do
    modify fun machine => { machine with status := 0, substituted := some 0 }
    pure []
  | some command => do
    let (text, status) ← captured (run false command)
    modify fun machine => { machine with status, substituted := some status }
    pure text

/-! ## Redirections -/

/-- A redirection with its words expanded. -/
inductive Target where
  | path (stream : Nat) (mode : Mode) (path : Text)
  | stream (stream : Nat) (other : Text)
  | document (stream : Nat) (text : Text)

/-- Expands the words of a redirection. -/
def expandRedirect (capture : Option Command → Act Text) : Redirect → Act Target
  | .file stream mode word => do return .path stream mode (← expandText capture word)
  | .stream stream word => do
    let other ← expandText capture word
    match other with
    | ['-'] => return .stream stream other
    | [c] =>
      if c.isDigit then return .stream stream other
      else fail "Syntax error: Bad fd number".toList
    | _ => fail "Syntax error: Bad fd number".toList
  | .document stream text => do
    return .document stream (Glyph.text (← wordGlyphs capture false false text))

/-- Carries out a redirection. -/
def applyTarget : Target → Act Unit
  | .path stream mode path => do
    let index ← openFile path mode
    modify fun machine => { machine with streams := redirect stream index machine.streams }
  | .document stream text => do
    let index ← addFile (.source text)
    modify fun machine => { machine with streams := redirect stream index machine.streams }
  | .stream stream other => do
    let machine ← get
    match other with
    | ['-'] => set { machine with streams := machine.streams.filter (·.1 ≠ stream) }
    | digits =>
      match machine.streams.lookup (ofDigits digits) with
      | some index => set { machine with streams := redirect stream index machine.streams }
      | none => fail (digits ++ ": Bad file descriptor".toList)

/-! ## Programs -/

/-- The directories in which programs lie. -/
def programDirs : List Text := ["/bin".toList, "/usr/bin".toList]

/-- The directories in which programs are looked for without further settings. -/
def standardSearch : Text := "/usr/local/bin:/usr/bin:/bin".toList

/-- Whether there is a program of a name. -/
def isProgram (name : Text) : Bool :=
  name = "sh".toList || name = "dash".toList || (Utility.programs.lookup name).isSome ||
    (Launch.programs.lookup name).isSome

/-- Something that can be started. -/
inductive Executable where
  /-- One of the known programs. -/
  | program (name : Text)
  /-- A script, with the path that it was found at. -/
  | script (path : Text) (source : Text)
  deriving DecidableEq, Repr

/-- What a path names that can be started, or why it cannot be. -/
def executableAt (disk : Disk) (path : Text) : Except Disk.Cause Executable :=
  if programDirs.contains (Path.parent path) && isProgram (Path.name path) then
    .ok (.program (Path.name path))
  else
    match disk.resolve path with
    | .ok (.present place (.file content)) =>
      if disk.executable.contains place then .ok (.script (encodeText path) (streamText content))
      else .error .denied
    | .ok (.present ..) => .error .denied
    | .ok (.vacant _) => .error .missing
    | .error cause => .error cause

/-- The first thing of a name that can be started in one of several directories. -/
def searchIn (disk : Disk) (name : Text) : List Text → Except Disk.Cause Executable
  | [] => .error .missing
  | directory :: directories =>
    match executableAt disk (if directory = [] then name else directory ++ '/' :: name) with
    | .ok found => .ok found
    | .error .denied => (searchIn disk name directories).mapError fun _ => .denied
    | .error _ => searchIn disk name directories

/--
What a command names, or why it cannot be started. A name without a slash is looked
for in the directories that `search` lists, of which no one is a program itself.
-/
def findProgram (search : Text) (disk : Disk) (name : Text) : Except Disk.Cause Executable :=
  if name.contains '/' then executableAt disk name
  else if name = [] || name = ['.'] || name = ['.', '.'] then .error .denied
  else if Disk.isLongName name then .error .nameTooLong
  else searchIn disk name (Text.splitOn ':' search)

/-- The directories that a script looks for programs in. -/
def Machine.search (machine : Machine) : Text :=
  decodeText ((machine.held? "PATH".toList).getD [])

/--
The program that starts something, and its arguments. A script names the program in
its first line, with at most one argument; without that it is for the interpreter.
-/
def Executable.command (arguments : List Text) : Executable → Text × List Text
  | .program name => (name, arguments)
  | .script path source =>
    match source with
    | '#' :: '!' :: rest =>
      let line := (rest.takeWhile (· != '\n')).dropWhile fun c => c == ' ' || c == '\t'
      let program := line.takeWhile fun c => c != ' ' && c != '\t'
      let argument := (line.drop program.length).dropWhile fun c => c == ' ' || c == '\t'
      (Path.name program, (if argument = [] then [] else [argument]) ++ path :: arguments)
    | _ => ("sh".toList, path :: arguments)

/-- The status of a command that cannot be started. -/
def startStatus : Disk.Cause → Nat
  | .missing | .notDirectory | .nameTooLong | .tooManyLinks => 127
  | _ => 126

/-- Runs a program that is no script. -/
def runUtility (program : Text) (arguments : List Text) : Act Unit := do
  let stdin ← leftOn 0
  let machine ← get
  match Utility.programs.lookup program with
  | none => setStatus 127
  | some utility => do
    let fromFile := match machine.streams.lookup 0 |>.bind (machine.files[·]?) with
      | some (.disk ..) => true
      | _ => false
    let effect := utility { program, arguments, stdin, fromFile, disk := machine.view }
    let taken := if fromFile then effect.taken.getD stdin.length else stdin.length
    if effect.reads then consume 0 taken
    if effect.sleeps then modify fun machine => { machine with slept := true }
    match effect.disk with
    | some disk =>
      modify fun machine => { machine with disk := { disk with cwd := machine.disk.cwd } }
    | none => pure ()
    effect.written.forM fun (stream, text) => write stream text
    setStatus effect.status

/-! ## Scripts -/

/-- Runs the lines of a script one after the other. -/
def runLines (run : Execute) (tested : Bool) : Nat → Reader → Act Unit
  | 0, _ => pure ()
  | fuel + 1, reader => do
    let echo := fun (rest : Reader) => do
      if (← get).options.verbose then
        write 2 (reader.text.take (reader.text.length - rest.text.length))
    match readLine { reader with aliases := (← get).aliases } with
    | .finished => echo { reader with text := [] }
    | .blank rest => do
      echo rest
      runLines run tested fuel rest
    | .malformed fault => do
      setLine fault.line
      fail fault.message
    | .command command rest => do
      echo rest
      if !(← get).options.noRun then run tested command
      runLines run tested fuel rest

/-- Runs the text of a script, which sets the status only if it holds a command. -/
def runText (run : Execute) (tested : Bool) (text : Text) : Act Unit := do
  setStatus 0
  runLines run tested (text.length + 2) { text }

/-- Does what is set for the end of the script, and keeps the status. -/
def runExitTrap (run : Execute) (stop : Option Stop) : Act Unit := do
  let machine ← get
  match stop, machine.traps.lookup 0 with
  | some (.killed _), _ | _, none => pure ()
  | _, some action => do
    set { machine with traps := machine.traps.filter (·.1 ≠ 0) }
    runLines run false (action.length + 2) { text := action }
    setStatus machine.status

/-- Runs a script to its end, whatever ends it but a signal. -/
def toEnd (run : Execute) (act : Act Unit) : Act Unit :=
  ExceptT.mk fun machine =>
    let (result, after) := act.run.run machine
    let stop := match result with
      | .error stop => some stop
      | .ok () => none
    let (final, after) := (runExitTrap run stop).run.run after
    match stop, final with
    | some (.killed signal), _ | _, .error (.killed signal) => (.error (.killed signal), after)
    | _, _ => (.ok (), after)

/-- The options and arguments that the interpreter is called with. -/
structure Invocation where
  /-- Whether the script is the first argument itself. -/
  isText : Bool := false
  /-- Whether the script is the input. -/
  isInput : Bool := false
  arguments : List Text := []

/-- Takes the options off the arguments of the interpreter. -/
def invocation : Nat → Invocation → List Text → Act Invocation
  | 0, found, arguments => pure { found with arguments }
  | fuel + 1, found, arguments =>
    match arguments with
    | ['-'] :: rest | ['-', '-'] :: rest => pure { found with arguments := rest }
    | (sign :: letters) :: rest =>
      if sign = '-' || sign = '+' then do
        let others := letters.filter fun c => c != 'c' && c != 'l' && c != 's'
        let rest ← Builtin.setLetters (sign == '-') rest others
        invocation fuel
          { found with
            isText := found.isText || letters.contains 'c'
            isInput := found.isInput || letters.contains 's' } rest
      else pure { found with arguments }
    | arguments => pure { found with arguments }

/-- Runs the interpreter with arguments: a script file, a script given as text, or the input. -/
def interpret (run : Execute) (arguments : List Text) : Act Unit := do
  let found ← invocation arguments.length {} arguments
  let begin := fun (name : Option Text) (arguments : List Text) =>
    modify fun machine => { machine with name := name.getD machine.name, arguments }
  match found.isText, found.arguments with
  | true, [] => fail "-c requires an argument".toList
  | true, text :: rest => do
    begin rest.head? rest.tail
    runText run false text
  | false, script :: rest =>
    if found.isInput then do
      begin none (script :: rest)
      let text ← leftOn 0
      consume 0 text.length
      runText run false text
    else do
      match (← get).view.readFile (decodeText script) with
      | .ok source => do
        begin (some script) rest
        runText run false (streamText source)
      | .error (.refused .isDirectory _) => do
        begin (some script) rest
        setStatus 0
      | .error (.refused cause _) =>
        fail ("cannot open ".toList ++ script ++ ": ".toList ++ causeText "No such file" cause)
      | .error _ => fail ("cannot open ".toList ++ script ++ ": No such file".toList)
  | false, [] => do
    let text ← leftOn 0
    consume 0 text.length
    runText run false text

/-- The variables that a script starts with. -/
def startVariables (environment : List (Text × Text)) (directory : Location) :
    List (Text × Variable) :=
  let given := environment.filter fun (name, _) => isName name
  given.foldl (fun bindings (name, value) =>
      Dict.put name { value := some value, exported := true } bindings)
    [("IFS".toList, { value := some [' ', '\t', '\n'] }),
      ("OPTIND".toList, { value := some ['1'] }),
      ("PS4".toList, { value := some ['+', ' '] }),
      ("PATH".toList, { value := some standardSearch }),
      ("PWD".toList, { value := some (encodeText (Disk.pathOf directory)), exported := true })]

/--
Runs the interpreter as a program of its own, by the name that it is called, and says
so if a signal ends it; if it `replaces` the script, the signal ends that.
-/
def runInterpreter (run : Execute) (replaces : Bool) (name : Text) (arguments : List Text) :
    Act Unit := do
  let machine ← get
  let start : Machine :=
    { toWorld := machine.toWorld
      directory := machine.directory
      streams := machine.streams
      name
      bindings := startVariables machine.environment machine.directory }
  let (result, after) := (toEnd run (interpret run arguments)).run.run start
  set { machine with toWorld := { after.toWorld with killed := machine.killed } }
  match result with
  | .error (.killed signal) => do
    if replaces then throw (.killed signal)
    write 2 (Signal.obituary signal)
    setStatus (128 + signal)
  | _ => setStatus (after.status % 256)

/-- The path of what was found by a name. -/
def Executable.path (name : Text) : Executable → Text
  | .script path _ => path
  | .program known => if name.contains '/' then name else "/usr/bin/".toList ++ known

/-- Remembers where the program of a name was found. -/
def remember (name : Text) (found : Executable) : Act Unit :=
  modify fun machine =>
    { machine with
      located :=
        if name.contains '/' then machine.located
        else Dict.put name (found.path name) machine.located }

/-- Runs an act in place of a program; a signal that ends it ends the script as well. -/
def inPlace (replaces : Bool) (act : Act Unit) : Act Unit :=
  tryCatch act fun stop => do
    match stop with
    | .killed signal => do
      if replaces then throw stop
      write 2 (Signal.obituary signal)
      setStatus (128 + signal)
    | stop => throw stop

/-- Starts what was found by a name; `depth` limits how far programs start programs. -/
def startFound (run : Execute) (replaces : Bool) :
    (depth : Nat) → (name : Text) → Executable → List Text → Act Unit
  | 0, _, _, _ => setStatus 126
  | depth + 1, name, found, arguments => do
    let (program, arguments) := found.command arguments
    if program = "sh".toList || program = "dash".toList then
      runInterpreter run replaces name arguments
    else
      match Launch.programs.lookup program with
      | none => runUtility program arguments
      | some act =>
        let launch : Launch := fun name arguments => do
          let machine ← get
          match findProgram machine.search machine.view (decodeText name) with
          | .error cause => pure (some cause)
          | .ok found => do
            startFound run true depth name found arguments
            pure none
        inPlace replaces (act launch arguments)

/-- How far programs can start programs. -/
def startDepth : Nat := 1000

/-- Runs a program by its name; `replaces` says that the script ends with it. -/
def runProgram (run : Execute) (replaces : Bool) (name : Text) (arguments : List Text) :
    Act Unit := do
  let machine ← get
  match findProgram machine.search machine.view (decodeText name) with
  | .error cause => do
    complain (name ++ ": ".toList ++ causeText "not found" cause)
    setStatus (if name.contains '/' then startStatus cause else 127)
  | .ok found => do
    remember name found
    startFound run replaces startDepth name found arguments

/-! ## Simple commands -/

/-- Gives variables values for as long as an act runs. -/
def withAssignments (assigned : List (Text × Text)) (exported : Bool) (act : Act Unit) :
    Act Unit := do
  let before := (← get).bindings
  assigned.forM fun (name, value) => do
    assign name value
    if exported then Builtin.mark ({ · with exported := true }) name
  restoring act fun machine =>
    { machine with
      bindings := assigned.foldl (fun bindings (name, _) =>
        match Dict.get? name before with
        | some old => Dict.put name old bindings
        | none => bindings.filter (·.1 ≠ name)) machine.bindings }

/-- Runs a function. -/
def runFunction (run : Execute) (tested : Bool) (body : Command) (arguments : List Text) :
    Act Unit := do
  let machine ← get
  set { machine with arguments, loops := 0, locals := some [] }
  let act : Act Unit := ExceptT.mk fun machine =>
    match (run tested body).run.run machine with
    | (.error .returned, after) => (.ok (), after)
    | result => result
  restoring act fun after =>
    { after with
      arguments := machine.arguments
      loops := machine.loops
      locals := machine.locals
      bindings := (after.locals.getD []).foldl (fun bindings (name, old) =>
        match old with
        | some old => Dict.put name old bindings
        | none => bindings.filter (·.1 ≠ name)) after.bindings }

/-- Runs a script file as a part of the running one. -/
def source (run : Execute) (tested : Bool) (arguments : List Text) : Act Unit := do
  match arguments with
  | [] => setStatus 0
  | path :: _ => do
    let machine ← get
    if !path.contains '/' then fail (path ++ ": not found".toList)
    else
      match machine.view.readFile (decodeText path) with
      | .error _ => fail ("cannot open ".toList ++ path ++ ": No such file".toList)
      | .ok bytes => do
        set { machine with builtin := some path }
        let act : Act Unit := ExceptT.mk fun machine =>
          match (runText run tested (streamText bytes)).run.run machine with
          | (.error .returned, after) => (.ok (), after)
          | result => result
        restoring act fun after => { after with builtin := machine.builtin }

/-- Whether a name is a command of the interpreter itself. -/
def isBuiltin (name : Text) : Bool :=
  (Builtin.simple.lookup name).isSome ||
    ["eval", "exec", ".", "kill", "command", "type", "hash"].contains (String.ofList name)

/-- What a name stands for as a command; `short` asks for the bare answer. -/
def explain (short : Bool) (name : Text) : Act Unit := do
  let machine ← get
  let say := fun (bare : Text) (long : String) =>
    write 1 (if short then bare ++ ['\n'] else name ++ ' ' :: long.toList ++ ['\n'])
  setStatus 0
  let byAlias := machine.aliases.lookup name
  if keywords.contains name then say name "is a shell keyword"
  else if let some value := byAlias then
    write 1 (if short then "alias ".toList ++ Builtin.aliasText name value ++ ['\n']
      else name ++ " is an alias for ".toList ++ value ++ ['\n'])
  else if (machine.functions.lookup name).isSome then say name "is a shell function"
  else if isBuiltin name then
    say name (if specialBuiltins.contains name then "is a special shell builtin" else
      "is a shell builtin")
  else
    match findProgram machine.search machine.view (decodeText name) with
    | .ok found =>
      let path := found.path name
      let isKnown := (machine.located.lookup name).isSome
      remember name found
      write 1 (if short then path ++ ['\n']
        else name ++ (if isKnown then " is a tracked alias for " else " is ").toList ++ path ++
          ['\n'])
    | .error _ => do
      if !short then write 1 (name ++ ": not found\n".toList)
      setStatus 127

/-- Looks for programs and remembers where they are, forgets that, or shows it. -/
def locate (arguments : List Text) : Act Unit := do
  let (found, names) ← Builtin.letters ['r'] arguments
  setStatus 0
  if found.contains 'r' then modify fun machine => { machine with located := [] }
  else if names = [] then
    write 1 ((inGroups 31 (← get).located).flatMap fun (_, path) => path ++ ['\n'])
  else
    names.forM fun name => do
      let machine ← get
      if !isBuiltin name && (machine.functions.lookup name).isNone then
        match findProgram machine.search machine.view (decodeText name) with
        | .ok found => remember name found
        | .error _ => do
          complain (name ++ ": not found".toList)
          setStatus 1

/-- Runs a command of the interpreter itself. -/
def runBuiltin (run : Execute) (tested : Bool) (name : Text) (arguments : List Text) :
    Act Unit := do
  let machine ← get
  let onTrap := fun (action : Text) => runLines run false (action.length + 2) { text := action }
  let act : Act Unit :=
    match String.ofList name with
    | "eval" =>
      let text := List.intercalate [' '] arguments
      runText run tested text
    | "." => source run tested arguments
    | "kill" => Builtin.kill onTrap arguments
    | "type" => arguments.forM (explain false)
    | "hash" => locate arguments
    | _ =>
      match Builtin.simple.lookup name with
      | some act => act arguments
      | none => setStatus 127
  set { machine with builtin := some name }
  restoring (if specialBuiltins.contains name then act else forgiving act) fun after =>
    { after with builtin := machine.builtin }

/-- Runs a command by its name. -/
def runNamed (run : Execute) (tested functions : Bool) (name : Text) (arguments : List Text) :
    Act Unit := do
  let machine ← get
  match if functions then machine.functions.lookup name else none with
  | some body =>
    if specialBuiltins.contains name then runBuiltin run tested name arguments
    else runFunction run tested body arguments
  | none =>
    if isBuiltin name then runBuiltin run tested name arguments else
      runProgram run false name arguments

/-- Runs a command by its name, which may only ask for another one. -/
def runWords (run : Execute) (tested : Bool) : Nat → Bool → List Text → Act Unit
  | 0, _, _ => pure ()
  | _ + 1, _, [] => pure ()
  | fuel + 1, functions, name :: arguments =>
    match String.ofList name, arguments with
    | "command", ['-', 'v'] :: names => (names.take 1).forM (explain true)
    | "command", ['-', 'V'] :: names => (names.take 1).forM (explain false)
    | "command", ['-', 'p'] :: words | "command", ['-', '-'] :: words =>
      runWords run tested fuel false words
    | "command", [] => setStatus 0
    | "command", words => runWords run tested fuel false words
    | "exec", words =>
      match if words.head? = some ['-', '-'] then words.tail else words with
      | [] => setStatus 0
      | program :: arguments => do
        modify fun machine => { machine with builtin := some name }
        runProgram run true program arguments
        throw .ended
    | _, _ => runNamed run tested functions name arguments

/-- Shows a command that is about to run, if the script asks for that. -/
def showCommand (streams : List (Nat × Nat)) (assigned : List (Text × Text)) (words : List Text) :
    Act Unit := do
  let machine ← get
  if machine.options.trace then
    let mark := (machine.held? "PS4".toList).getD []
    let shown := assigned.map (fun (name, value) => name ++ '=' :: value) ++ words
    set { machine with streams }
    write 2 (mark ++ List.intercalate [' '] shown ++ ['\n'])
    modify fun after => { after with streams := machine.streams }

/-- Expands the values of assignments. -/
def expandAssignments (capture : Option Command → Act Text) :
    List (Text × Word) → Act (List (Text × Text))
  | [] => pure []
  | (name, word) :: rest => do
    let value ← expandText capture word
    return (name, value) :: (← expandAssignments capture rest)

/-- Runs a simple command. -/
def runSimple (run : Execute) (tested : Bool) (line : Nat) (assignments : List (Text × Word))
    (words : List Word) (redirects : List Redirect) : Act Unit := do
  let capture := captureOutput run
  setLine line
  modify fun machine => { machine with substituted := none }
  let words ← expandWords capture words
  let targets ← redirects.mapM (expandRedirect capture)
  let isExec := words.head? = some "exec".toList && words.length = 1
  let isSpecial := words.head?.any specialBuiltins.contains
  let streams := (← get).streams
  let body : Act Unit := do
    let failed ← ExceptT.mk fun machine =>
      match (targets.forM applyTarget).run.run machine with
      | (.error .failed, after) => (if isSpecial then .error .failed else .ok true, after)
      | (.error stop, after) => (.error stop, after)
      | (.ok (), after) => (.ok false, after)
    if !failed then
      if words.isEmpty then
        assignments.forM fun (name, word) => do
          let value ← expandText capture word
          showCommand streams [(name, value)] []
          assign name value
        setStatus ((← get).substituted.getD 0)
      else
        let assigned ← expandAssignments capture assignments
        showCommand streams assigned words
        if isSpecial then
          assigned.forM fun (name, value) => assign name value
          runWords run tested (words.length + 1) true words
        else withAssignments assigned true (runWords run tested (words.length + 1) true words)
  if isExec then body else withStreams body

/-! ## Compound commands -/

/-- Remembers where the program of a simple command is. -/
def foresee : Command → Act Unit
  | .simple _ _ (word :: _) _ => do
    let word : Word := word
    let machine ← get
    match word.plain? with
    | none => pure ()
    | some name =>
      if !isBuiltin name && (machine.functions.lookup name).isNone then
        match findProgram machine.search machine.view (decodeText name) with
        | .ok found => remember name found
        | .error _ => pure ()
  | _ => pure ()

/-- Runs commands that pass their output on, each to the next one. -/
def runPipeline (run : Execute) : List Command → Act Unit
  | [] => pure ()
  | [last] => do setStatus (← isolated (← get).streams (run false last))
  | first :: rest => do
    let (text, _) ← captured (run false first)
    let index ← addFile (.source text)
    withStreams do
      modify fun machine => { machine with streams := redirect 0 index machine.streams }
      runPipeline run rest

/-- What comes of a stop inside a loop. -/
inductive Round where
  | goesOn
  | leaves

/-- Runs a part of a loop, and takes up the stops that are about the loop. -/
def inLoop (act : Act Unit) : Act Round :=
  ExceptT.mk fun machine =>
    let (result, after) := act.run.run { machine with loops := machine.loops + 1 }
    let after := { after with loops := machine.loops }
    match result with
    | .ok () => (.ok .goesOn, after)
    | .error (.broken (n + 2)) => (.error (.broken (n + 1)), after)
    | .error (.broken _) => (.ok .leaves, after)
    | .error (.continued (n + 2)) => (.error (.continued (n + 1)), after)
    | .error (.continued _) => (.ok .goesOn, after)
    | .error stop => (.error stop, after)

/-- Runs a loop as long as its condition comes out as it should. -/
def runLoop (onSuccess : Bool) (condition body : Act Unit) : Nat → (status : Nat) → Act Unit
  | 0, status => setStatus status
  | fuel + 1, status => do
    match ← inLoop condition with
    | .leaves => setStatus status
    | .goesOn =>
      if ((← get).status = 0) = (onSuccess = true) then
        match ← inLoop body with
        | .leaves => pure ()
        | .goesOn => do runLoop onSuccess condition body fuel (← get).status
      else setStatus status

/-- Runs the body of a loop for each word. -/
def runEach (name : Text) (body : Act Unit) : List Text → Act Unit
  | [] => pure ()
  | word :: words => do
    assign name word
    match ← inLoop body with
    | .leaves => pure ()
    | .goesOn => runEach name body words

/-- Whether one of several patterns matches a text. -/
def matchesAny (capture : Option Command → Act Text) (text : Text) : List Word → Act Bool
  | [] => pure false
  | pattern :: patterns => do
    if (← expandPattern capture pattern).accepts text then pure true
    else matchesAny capture text patterns

/-- Runs the first item that matches a text. -/
def runSelection (run : Execute) (tested : Bool) (text : Text) :
    List (List Word × Option Command) → Act Unit
  | [] => setStatus 0
  | (patterns, body) :: items => do
    if ← matchesAny (captureOutput run) text patterns then
      match body with
      | some body => run tested body
      | none => setStatus 0
    else runSelection run tested text items

/-- Runs a command with redirections; if one cannot be carried out, the command does not run. -/
def redirecting (run : Execute) (redirects : List Redirect) (act : Act Unit) : Act Unit := do
  let targets ← redirects.mapM (expandRedirect (captureOutput run))
  withStreams do
    let failed ← ExceptT.mk fun machine =>
      match (targets.forM applyTarget).run.run machine with
      | (.error .failed, after) => (.ok true, after)
      | (.error stop, after) => (.error stop, after)
      | (.ok (), after) => (.ok false, after)
    if !failed then act

/-- Runs a command, given what runs the commands inside it and how often a loop may go round. -/
def step (run : Execute) (rounds : Nat) (tested : Bool) : Command → Act Unit
  | .simple line assignments words redirects => do
    runSimple run tested line assignments words redirects
    checkStatus tested
  | .pipeline commands => do
    commands.forM foresee
    runPipeline run commands
    checkStatus tested
  | .negation command => do
    run true command
    setStatus (if (← get).status = 0 then 1 else 0)
  | .conjunction first second => do
    run true first
    if (← get).status = 0 then run tested second
  | .disjunction first second => do
    run true first
    if (← get).status ≠ 0 then run tested second
  | .sequence first second => do
    run tested first
    run tested second
  | .background command => do
    let index ← addFile .null
    let status ← isolated (redirect 0 index (← get).streams) (run false command)
    modify fun machine =>
      { machine with
        status := 0
        jobs := (processNumber + machine.jobs.length + 1, Int.ofNat status) :: machine.jobs }
  | .redirected line command redirects => do
    setLine line
    redirecting run redirects (run tested command)
  | .isolated line command redirects => do
    setLine line
    let act := redirecting run redirects (run tested command)
    let status ← isolated (← get).streams (toEnd run act)
    setStatus status
    checkStatus tested
  | .choice condition accepted rejected => do
    run true condition
    if (← get).status = 0 then run tested accepted
    else
      match rejected with
      | some rejected => run tested rejected
      | none => setStatus 0
  | .loop onSuccess condition body =>
    runLoop onSuccess (run true condition) (run tested body) rounds 0
  | .iteration line name words body => do
    setLine line
    let texts ← match words with
      | some words => expandWords (captureOutput run) words
      | none => do pure (← get).arguments
    setStatus 0
    runEach name (run tested body) texts
  | .selection line word items => do
    setLine line
    let text ← expandText (captureOutput run) word
    runSelection run tested text items
  | .definition name body => do
    modify fun machine =>
      { machine with functions := Dict.put name body machine.functions, status := 0 }

/-- Runs a command. -/
def run : Nat → Bool → Command → Act Unit
  | 0, _, _ => throw .ended
  | fuel + 1, tested, command => step (run fuel) fuel tested command

/-- How deep commands may nest, and how often a loop may go round. -/
def fuel : Nat := 1000000

end Marginalia.Shell
