import Marginalia.Shell.Condition
import Marginalia.Shell.Grammar
import Marginalia.Shell.Printing
import Marginalia.Shell.Signal

/-!
# Commands of the interpreter itself

The commands that act on the running script: its variables, options, arguments,
directory and signals. Each sets the status. One that fails writes a message and
stops; whether the script then goes on depends on the command.
-/

namespace Marginalia.Shell.Builtin

/-- A number from zero on, in decimal; blanks around it do not matter. -/
def natural (text : Text) : Act Nat := do
  let isBlank := fun c => c == ' ' || ('\t' ≤ c && c ≤ '\r')
  let trimmed := Text.dropEndWhile isBlank (text.dropWhile isBlank)
  let digits := match trimmed with
    | '+' :: digits => digits
    | digits => digits
  let value := ofDigits digits
  if digits ≠ [] && digits.all Char.isDigit && value ≤ Int32.maxValue.toNatClampNeg then
    return value
  else fail ("Illegal number: ".toList ++ text)

/-- Refuses an option. -/
def illegal (letter : Char) : Act α := fail ("Illegal option -".toList ++ [letter])

/-- The letters of the options that arguments start with, and the other arguments. -/
def letters (known : List Char) : List Text → Act (List Char × List Text)
  | [] => pure ([], [])
  | argument :: rest =>
    match argument with
    | ['-', '-'] => pure ([], rest)
    | '-' :: c :: cs => do
      match (c :: cs).find? fun c => !known.contains c with
      | some c => illegal c
      | none => do
        let (more, rest) ← letters known rest
        return (c :: cs ++ more, rest)
    | _ => pure ([], argument :: rest)

/-! ## Printing -/

/-- Prints arguments. -/
def echo (arguments : List Text) : Act Unit := do
  write 1 (Printing.echo arguments)
  setStatus 0

/-- Prints a format with arguments. -/
def printf (arguments : List Text) : Act Unit := do
  let (_, arguments) ← letters [] arguments
  match arguments with
  | [] => fail "usage: printf format [arg ...]".toList
  | format :: arguments => do
    let progress := Printing.format format arguments
    progress.warnings.forM complain
    match progress.fault with
    | some fault => do
      complain fault
      write 1 progress.out
      setStatus 2
      throw .failed
    | none => do
      write 1 progress.out
      setStatus (if progress.warnings.isEmpty then 0 else 1)

/-! ## The course of a script -/

/-- Ends the script. -/
def exit (arguments : List Text) : Act Unit := do
  match arguments with
  | [] => pure ()
  | text :: _ => setStatus (← natural text)
  throw .ended

/-- Ends the running function, or the script. -/
def endFunction (arguments : List Text) : Act Unit := do
  match arguments with
  | [] => pure ()
  | text :: _ => setStatus (← natural text)
  throw .returned

/-- Leaves loops, or the rest of one round. -/
def leave (stop : Nat → Stop) (arguments : List Text) : Act Unit := do
  let count ← match arguments with
    | [] => pure 1
    | text :: _ => do
      let count ← natural text
      if count = 0 then fail ("Illegal number: ".toList ++ text) else pure count
  let loops := (← get).loops
  setStatus 0
  if 0 < loops then throw (stop (min count loops))

/-- Drops arguments. -/
def shift (arguments : List Text) : Act Unit := do
  let count ← match arguments with
    | [] => pure 1
    | text :: _ => natural text
  let machine ← get
  if machine.arguments.length < count then fail "can't shift that many".toList
  else set { machine with arguments := machine.arguments.drop count, status := 0 }

/-! ## Variables -/

/-- A text in quotes, as the interpreter would read it back. -/
def quoted (text : Text) : Text :=
  List.intercalate "\"'\"".toList
    ((Text.splitOn '\'' text).map fun piece => '\'' :: piece ++ ['\''])

/-- The name and the value in an argument that may assign. -/
def splitAssignment (argument : Text) : Text × Option Text :=
  match Text.cut? '=' argument with
  | some (name, value) => (name, some value)
  | none => (argument, none)

/-- Changes a variable that need not have a value. -/
def mark (change : Variable → Variable) (name : Text) : Act Unit :=
  modify fun machine =>
    let old := (Dict.get? name machine.bindings).getD {}
    { machine with bindings := Dict.put name (change old) machine.bindings }

/-- Shows variables as they would be declared. -/
def showVariables (command : Text) (isShown : Variable → Bool) : Act Unit := do
  let shown := (← get).bindings.filter fun (_, v) => isShown v
  (shown.mergeSort fun a b => Text.isLe a.1 b.1).forM fun (name, v) =>
    let value := match v.value with
      | some value => '=' :: quoted value
      | none => []
    write 1 (command ++ ' ' :: name ++ value ++ ['\n'])

/-- Gives variables values and a mark, or shows those that have the mark. -/
def declare (command : String) (isMarked : Variable → Bool) (change : Variable → Variable)
    (arguments : List Text) : Act Unit := do
  let (options, arguments) ← letters ['p'] arguments
  setStatus 0
  if options ≠ [] || arguments.isEmpty then showVariables command.toList isMarked
  else
    arguments.forM fun argument => do
      let (name, value) := splitAssignment argument
      if !isName name then fail (name ++ ": bad variable name".toList)
      match value with
      | some value => assign name value
      | none => pure ()
      mark change name

/-- Makes variables local to the running function. -/
def makeLocal (arguments : List Text) : Act Unit := do
  let machine ← get
  match machine.locals with
  | none => fail "not in a function".toList
  | some _ => do
    arguments.forM fun argument => do
      let (name, value) := splitAssignment argument
      if !isName name then fail (name ++ ": bad variable name".toList)
      modify fun machine =>
        { machine with
          locals := machine.locals.map ((name, Dict.get? name machine.bindings) :: ·) }
      match value with
      | some value => assign name value
      | none => pure ()
    setStatus 0

/-- Removes variables or functions. -/
def unset (arguments : List Text) : Act Unit := do
  let (options, names) ← letters ['f', 'v'] arguments
  names.forM fun name => do
    let machine ← get
    if options.contains 'f' then
      set { machine with functions := machine.functions.filter (·.1 ≠ name) }
    else if !isName name then fail (name ++ ": bad variable name".toList)
    else if ((Dict.get? name machine.bindings).map (·.readonly)).getD false then
      fail (name ++ ": is read only".toList)
    else set { machine with bindings := machine.bindings.filter (·.1 ≠ name) }
  setStatus 0

/-- An alias as it would be made. -/
def aliasText (name value : Text) : Text := name ++ '=' :: quoted value

/-- Makes or shows aliases. -/
def makeAlias (arguments : List Text) : Act Unit := do
  let machine ← get
  setStatus 0
  if arguments.isEmpty then
    machine.aliases.forM fun (name, value) => write 1 (aliasText name value ++ ['\n'])
  arguments.forM fun argument => do
    let (name, value) := splitAssignment argument
    match value, (← get).aliases.lookup name with
    | some value, _ =>
      modify fun machine => { machine with aliases := Dict.put name value machine.aliases }
    | none, some value => write 1 (aliasText name value ++ ['\n'])
    | none, none => do
      write 2 ("alias: ".toList ++ name ++ " not found\n".toList)
      setStatus 1

/-- Removes aliases. -/
def removeAlias (arguments : List Text) : Act Unit := do
  let (options, names) ← letters ['a'] arguments
  setStatus 0
  if options.contains 'a' then modify fun machine => { machine with aliases := [] }
  else
    names.forM fun name => do
      let machine ← get
      if (machine.aliases.lookup name).isSome then
        set { machine with aliases := machine.aliases.filter (·.1 ≠ name) }
      else
        write 2 ("unalias: ".toList ++ name ++ " not found\n".toList)
        setStatus 1

/-! ## Options -/

/-- Turns an option on or off. -/
def setOption (on : Bool) (letter : Char) : Act Unit := do
  let change := fun (change : Options → Options) =>
    modify fun (machine : Machine) => { machine with options := change machine.options }
  match letter with
  | 'e' => change ({ · with exitOnFailure := on })
  | 'u' => change ({ · with noUnset := on })
  | 'x' => change ({ · with trace := on })
  | 'f' => change ({ · with noGlob := on })
  | 'n' => change ({ · with noRun := on })
  | 'v' => change ({ · with verbose := on })
  | 'C' => change ({ · with noClobber := on })
  | 'a' => change ({ · with exportAll := on })
  | letter => if "bmIisVE".toList.contains letter then pure () else illegal letter

/-- The letter of an option with a long name. -/
def longOptions : List (Text × Char) :=
  [("errexit", 'e'), ("noglob", 'f'), ("ignoreeof", 'I'), ("interactive", 'i'), ("monitor", 'm'),
    ("noexec", 'n'), ("stdin", 's'), ("xtrace", 'x'), ("verbose", 'v'), ("vi", 'V'), ("emacs", 'E'),
    ("noclobber", 'C'), ("allexport", 'a'), ("notify", 'b'), ("nounset", 'u')].map
    fun (name, letter) => (name.toList, letter)

/-- Turns options on or off; one letter stands for a long name, which is the next argument. -/
def setLetters (on : Bool) (names : List Text) : List Char → Act (List Text)
  | [] => pure names
  | 'o' :: letters =>
    match names with
    | [] => setLetters on [] letters
    | name :: names =>
      match longOptions.lookup name with
      | some letter => do
        setOption on letter
        setLetters on names letters
      | none => fail ("Illegal option -o ".toList ++ name)
  | letter :: letters => do
    setOption on letter
    setLetters on names letters

/-- Carries out options; returns the other arguments, and whether a sign ended the options. -/
def setOptions : Nat → List Text → Act (List Text × Bool)
  | 0, arguments => pure (arguments, false)
  | fuel + 1, arguments =>
    match arguments with
    | ['-', '-'] :: rest => pure (rest, true)
    | ['-'] :: rest => do
      setOption false 'x'
      setOption false 'v'
      pure (rest, false)
    | ('-' :: letters) :: rest => do setOptions fuel (← setLetters true rest letters)
    | ('+' :: letters) :: rest => do setOptions fuel (← setLetters false rest letters)
    | arguments => pure (arguments, false)

/-- Sets options and arguments. -/
def setParameters (arguments : List Text) : Act Unit := do
  let (rest, ended) ← setOptions arguments.length arguments
  if ended || rest ≠ [] then modify fun machine => { machine with arguments := rest }
  setStatus 0

/-- Finds the next option among arguments, and leaves it in a variable. -/
def getopts (arguments : List Text) : Act Unit := do
  match arguments with
  | known :: name :: given => do
    let machine ← get
    let all := if given.isEmpty then machine.arguments else given
    let index := max 1 (ofDigits ((machine.held? "OPTIND".toList).getD ['1']))
    let silent := known.head? = some ':'
    -- The letters that are left of an argument, and the index of the argument after it.
    let (letters, index, done) :=
      match machine.optionOffset.map fun offset => ((all[index - 2]?).getD []).drop offset with
      | some (c :: cs) => (c :: cs, index, false)
      | _ =>
        match all[index - 1]? with
        | some ['-', '-'] => ([], index + 1, true)
        | some ('-' :: c :: cs) => (c :: cs, index + 1, false)
        | _ => ([], index, true)
    let finish := fun (value : Text) (argument : Option Text) (index : Nat) (left : Text) => do
      assign "OPTIND".toList (Text.ofNat index)
      modify fun machine =>
        { machine with
          optionOffset :=
            if left = [] then none else some (((all[index - 2]?).getD []).length - left.length)
          bindings := machine.bindings.filter (·.1 ≠ "OPTARG".toList) }
      match argument with
      | some argument => assign "OPTARG".toList argument
      | none => pure ()
      assign name value
    match letters, done with
    | _, true | [], _ => do
      finish ['?'] none index []
      setStatus 1
    | c :: left, false => do
      match known.dropWhile (· != c), c with
      | [], _ | _, ':' => do
        if silent then finish ['?'] (some [c]) index left
        else
          write 2 ("Illegal option -".toList ++ [c, '\n'])
          finish ['?'] none index left
      | _ :: ':' :: _, _ =>
        match left, all[index - 1]? with
        | [], some argument => finish [c] (some argument) (index + 1) []
        | [], none =>
          if silent then finish [':'] (some [c]) index []
          else
            write 2 ("No arg for -".toList ++ c :: " option\n".toList)
            finish ['?'] none index []
        | left, _ => finish [c] (some left) index []
      | _, _ => finish [c] (some []) index left
      setStatus 0
  | _ => fail "Usage: getopts optstring var [arg]".toList

/-! ## Input -/

/-- A line of an input, its escapes carried out if asked for, and how much of the input it takes.
The third result says whether the line has its end. -/
def inputLine (raw : Bool) : Text → List (Char × Bool) × Nat × Bool
  | [] => ([], 0, false)
  | '\n' :: _ => ([], 1, true)
  | '\\' :: '\n' :: text =>
    let (line, size, ended) := inputLine raw text
    if raw then ([('\\', false)], 2, true) else (line, size + 2, ended)
  | '\\' :: c :: text =>
    let (line, size, ended) := inputLine raw text
    if raw then (('\\', false) :: (c, false) :: line, size + 2, ended)
    else ((c, true) :: line, size + 2, ended)
  | c :: text =>
    let (line, size, ended) := inputLine raw text
    ((c, false) :: line, size + 1, ended)

/-- Gives variables the fields of a line; the last one gets all that is left. -/
def assignFields (separators : Text) : List Text → List (Char × Bool) → Act Unit
  | [], _ => pure ()
  | name :: names, line => do
    let isSeparator := fun (c : Char × Bool) => separators.contains c.1 && !c.2
    let isWhite := fun (c : Char × Bool) =>
      isSeparator c && (c.1 == ' ' || c.1 == '\t' || c.1 == '\n')
    let line := line.dropWhile isWhite
    if names.isEmpty then assign name ((line.reverse.dropWhile isWhite).reverse.map (·.1))
    else
      let first := line.takeWhile fun c => !isSeparator c
      let rest := (line.drop first.length).dropWhile isWhite
      let rest := match rest with
        | c :: others => if isSeparator c then others else rest
        | [] => []
      assign name (first.map (·.1))
      assignFields separators names rest

/-- Reads a line into variables. -/
def read (arguments : List Text) : Act Unit := do
  let arguments := match arguments with
    | ['-', 'p'] :: _ :: rest => rest
    | arguments => arguments
  let (options, names) ← letters ['r'] arguments
  if names.isEmpty then fail "arg count".toList
  match names.find? fun name => !isName name with
  | some name => fail (name ++ ": bad variable name".toList)
  | none => do
    let (line, size, ended) := inputLine (options.contains 'r') (← leftOn 0)
    consume 0 size
    assignFields (← get).separators names line
    setStatus (if ended then 0 else 1)

/-! ## Directories -/

/-- Goes to another directory. -/
def cd (arguments : List Text) : Act Unit := do
  let (_, arguments) ← letters ['L', 'P'] arguments
  let machine ← get
  let goal := match arguments with
    | [] => (machine.held? "HOME".toList).getD []
    | ['-'] :: _ => (machine.held? "OLDPWD".toList).getD []
    | path :: _ => path
  let path := if goal = [] then ['.'] else decodeText goal
  match machine.view.directoryAt? path with
  | none => fail ("can't cd to ".toList ++ goal)
  | some place => do
    set { machine with directory := place }
    [("OLDPWD", machine.directory), ("PWD", place)].forM fun (name, place) => do
      assign name.toList (encodeText (Disk.pathOf place))
      mark ({ · with exported := true }) name.toList
    if arguments.head? = some ['-'] then write 1 (encodeText (Disk.pathOf place) ++ ['\n'])
    setStatus 0

/-- Prints the directory. -/
def pwd (_ : List Text) : Act Unit := do
  write 1 (encodeText (Disk.pathOf (← get).directory) ++ ['\n'])
  setStatus 0

/-! ## Conditions -/

/-- Sets the status by a condition. -/
def test (arguments : List Text) : Act Unit := do
  match Condition.test (← get).view arguments with
  | .error message => fail message
  | .ok holds => setStatus (if holds then 0 else 1)

/-- The same, with a bracket after the condition. -/
def bracket (arguments : List Text) : Act Unit := do
  if arguments.getLast? = some [']'] then test arguments.dropLast
  else fail "missing ]".toList

/-! ## Signals -/

/-- The names of all signals. -/
def signalList : Text := Text.unlines (['0'] :: Signal.names)

/-- How the command that sends signals is used. -/
def killUsage : Text :=
  ("Usage: kill [-s sigspec | -signum | -sigspec] [pid | job]... or\n" ++
    "kill -l [exitstatus]").toList

/-- Sends a signal to the script itself; `onTrap` runs what the script has set for it. -/
def raise (onTrap : Text → Act Unit) (signal : Nat) : Act Unit := do
  let machine ← get
  match machine.traps.lookup signal with
  | some action =>
    if signal = 9 then throw (.killed signal) else if action ≠ [] then onTrap action
  | none =>
    if Signal.isHarmless signal then pure ()
    else if machine.isCopy then
      modify fun machine => { machine with killed := machine.killed.or (some signal) }
    else throw (.killed signal)

/-- Sends a signal to each of several processes, of which only the script itself is known. -/
def sendAll (onTrap : Text → Act Unit) (signal : Nat) : List Text → Act Unit
  | [] => pure ()
  | target :: targets => do
    let number ← natural (match target with
      | '-' :: digits => digits
      | digits => digits)
    if number = processNumber then raise onTrap signal
    else if ((← get).jobs.lookup number).isSome && (← get).slept then
      modify fun machine =>
        { machine with jobs := Dict.put number (-Int.ofNat signal) machine.jobs }
    else
      complain "No such process\n".toList
      setStatus 1
    sendAll onTrap signal targets

/-- Prints the name of a signal. -/
def nameSignal (text : Text) : Act Unit := do
  let number ← natural text
  match Signal.name? (if 128 < number then number - 128 else number) with
  | some name => write 1 (name ++ ['\n'])
  | none => fail ("invalid signal number or exit status: ".toList ++ text)

/-- Sends signals. -/
def kill (onTrap : Text → Act Unit) (arguments : List Text) : Act Unit := do
  setStatus 0
  let send := fun (signal : Nat) (targets : List Text) => do
    if targets.isEmpty then fail killUsage else sendAll onTrap signal targets
  match arguments with
  | [] => fail killUsage
  | ('-' :: spec) :: rest =>
    match Signal.ofText? spec with
    | some signal => send signal rest
    | none =>
      match spec, rest with
      | ['-'], rest => send 15 rest
      | ['l'], [] => write 1 signalList
      | ['l'], text :: _ => nameSignal text
      | 's' :: name, rest => do
        let (name, rest) := if name = [] then (rest.headD [], rest.tail) else (name, rest)
        let rest := if rest.head? = some ['-', '-'] then rest.tail else rest
        match Signal.ofText? name with
        | some signal => send signal rest
        | none => fail ("invalid signal number or name: ".toList ++ name)
      | 'l' :: c :: _, _ | c :: _, _ => illegal c
      | [], _ => fail killUsage
  | targets => send 15 targets

/-- Sets what is done on signals. -/
def trap (arguments : List Text) : Act Unit := do
  let arguments := if arguments.head? = some ['-', '-'] then arguments.tail else arguments
  setStatus 0
  match arguments with
  | [] =>
    ((← get).traps.mergeSort fun a b => a.1 ≤ b.1).forM fun (signal, action) =>
      let name := if signal = 0 then "EXIT".toList else (Signal.name? signal).getD []
      write 1 ("trap -- ".toList ++ quoted action ++ ' ' :: name ++ ['\n'])
  | first :: rest => do
    let isReset := rest.isEmpty || first = ['-'] || (first ≠ [] && first.all Char.isDigit)
    let names := if rest.isEmpty || (first ≠ ['-'] && isReset) then arguments else rest
    names.forM fun name =>
      match Signal.ofText? name with
      | none => do
        write 2 ("trap: ".toList ++ name ++ ": bad trap\n".toList)
        setStatus 1
      | some signal =>
        modify fun machine =>
          let others := machine.traps.filter (·.1 ≠ signal)
          { machine with traps := if isReset then others else (signal, first) :: others }

/-- Waits for commands in the background; the status of the last one that is named stays. -/
def wait (arguments : List Text) : Act Unit := do
  setStatus 0
  arguments.forM fun argument => do
    let jobs := (← get).jobs
    let status ← match argument with
      | '%' :: digits =>
        match jobs.reverse[ofDigits digits - 1]? with
        | some (_, status) => pure (some status)
        | none => fail ("No such job: ".toList ++ argument)
      | argument => do pure (jobs.lookup (← natural argument))
    match status with
    | some (.ofNat status) => setStatus status
    | some (.negSucc n) => do
      write 2 (Signal.obituary (n + 1))
      setStatus (129 + n)
    | none => setStatus 127

/-- The commands that need nothing but the machine. -/
def simple : List (Text × (List Text → Act Unit)) :=
  [(":", fun _ => setStatus 0), ("true", fun _ => setStatus 0), ("false", fun _ => setStatus 1),
    ("echo", echo), ("printf", printf), ("exit", exit), ("return", endFunction),
    ("break", leave .broken), ("continue", leave .continued), ("shift", shift),
    ("export", declare "export" (·.exported) ({ · with exported := true })),
    ("readonly", declare "readonly" (·.readonly) ({ · with readonly := true })),
    ("local", makeLocal), ("unset", unset),
    ("set", setParameters), ("getopts", getopts), ("read", read), ("cd", cd), ("chdir", cd),
    ("pwd", pwd), ("test", test), ("[", bracket), ("trap", trap), ("wait", wait),
    ("alias", makeAlias), ("unalias", removeAlias),
    ("jobs", fun _ => setStatus 0),
    ("umask", fun _ => setStatus 0), ("times", fun _ => setStatus 0),
    ("ulimit", fun _ => setStatus 0)].map fun (name, run) => (name.toList, run)

end Marginalia.Shell.Builtin
