import Marginalia.Shell.Printing
import Marginalia.Shell.Request

/-!
# Programs that start programs

What these programs need besides their arguments is a way to start another program,
which they are given. They change its variables, give it arguments from their input,
or pass on how it ends.
-/

namespace Marginalia.Shell

/-- What starts a program with arguments, and otherwise says why it cannot be started. -/
abbrev Launch := Text → List Text → Act (Option Disk.Cause)

namespace Launch

/-- Ends a program with a message. -/
def giveUp (program : String) (message : Text) (status : Nat) : Act Unit := do
  write 2 (program.toList ++ ": ".toList ++ message ++ ['\n'])
  setStatus status

/-- Where a program says that more is to be learnt. -/
def hint (program : String) : Text :=
  "\nTry '".toList ++ program.toList ++ " --help' for more information.".toList

/-- Goes on with the options before the first operand, if they are known. -/
def withLeading (program letters : String) (names : List (String × Char)) (failure : Nat)
    (arguments : List Text) (act : List (Char × Text) → List Text → Act Unit) : Act Unit :=
  let known : Utility.Known := { Utility.Known.ofTable letters names with isLeading := true }
  let given := Utility.options known none arguments
  match given.fault with
  | some fault => giveUp program (fault.message ++ hint program) failure
  | none => act given.found given.operands

/-- The status for a program that cannot be started. -/
def failureStatus : Disk.Cause → Nat
  | .missing | .notDirectory | .nameTooLong | .tooManyLinks => 127
  | _ => 126

/-- Starts a program, and says so if it cannot be started. -/
def orGiveUp (launch : Launch) (program introduction : String) (name : Text)
    (arguments : List Text) : Act Unit := do
  match ← launch name arguments with
  | none => pure ()
  | some cause =>
    giveUp program (introduction.toList ++ '\'' :: name ++ "': ".toList ++ cause.text)
      (failureStatus cause)

/-! ## Variables -/

/-- The directories in which programs are looked for if no variable lists them. -/
def defaultSearch : Text := "/bin:/usr/bin".toList

/-- Runs an act in which programs see other variables than before. -/
def withEnvironment (environment : List (Text × Text)) (act : Act Unit) : Act Unit := do
  let before := (← get).bindings
  let path := "PATH".toList
  let hidden :=
    if (Dict.get? path environment).isSome then []
    else [(path, { value := some defaultSearch : Variable })]
  modify fun machine =>
    { machine with
      bindings := hidden ++ environment.map fun (name, value) =>
        (name, { value := some value, exported := true }) }
  restoring act fun machine => { machine with bindings := before }

/-- Splits off the leading settings of variables. -/
def settings : List Text → List (Text × Text) × List Text
  | [] => ([], [])
  | argument :: rest =>
    if argument.contains '=' then
      let name := argument.takeWhile (· != '=')
      let (others, words) := settings rest
      ((name, argument.drop (name.length + 1)) :: others, words)
    else ([], argument :: rest)

/-- The lines that show variables. -/
def environmentLines (environment : List (Text × Text)) : Text :=
  environment.flatMap fun (name, value) => name ++ '=' :: value ++ ['\n']

/-- Starts a program with other variables, or shows the variables. -/
def env (launch : Launch) (arguments : List Text) : Act Unit :=
  withLeading "env" "iu:C:0vS:"
    [("ignore-environment", 'i'), ("unset=", 'u'), ("null", '0'), ("chdir=", 'C')] 125 arguments fun found operands => do
    let machine ← get
    let (clears, operands) := match operands with
      | ['-'] :: rest => (true, rest)
      | operands => (Utility.has found 'i', operands)
    let (given, words) := settings operands
    let removed := found.filterMap fun (letter, value) =>
      if letter = 'u' then some value else none
    let start := if clears then [] else machine.environment
    let kept := start.filter fun (name, _) => !removed.contains name
    let environment := given.foldl (fun all (name, value) => Dict.put name value all) kept
    match words with
    | [] => do
      write 1 (environmentLines environment)
      setStatus 0
    | name :: arguments => withEnvironment environment (orGiveUp launch "env" "" name arguments)

/-- Shows the values of variables. -/
def printenv (arguments : List Text) : Act Unit :=
  withLeading "printenv" "0" [("null", '0')] 2 arguments fun _ names => do
    let environment := (← get).environment
    if names = [] then
      write 1 (environmentLines environment)
      setStatus 0
    else
      let values := names.map fun name => environment.lookup name
      write 1 (values.flatMap fun value => (value.map (· ++ ['\n'])).getD [])
      setStatus (if values.all Option.isSome then 0 else 1)

/-! ## Arguments from the input -/

/-- Where the reading of items stands. -/
structure Items where
  /-- The lines that are done with, each with its items, last first. -/
  lines : List (List Text) := []
  /-- The items of the open line, last first. -/
  line : List Text := []
  /-- The open item, last character first. -/
  item : Option Text := none
  /-- The quote that is open. -/
  quote : Option Char := none
  /-- Whether a backslash stands before the next character. -/
  escaped : Bool := false
  unmatched : Option Char := none

namespace Items

/-- Adds a character to the open item. -/
def push (items : Items) (c : Char) : Items :=
  { items with item := some (c :: items.item.getD []), escaped := false }

/-- Ends the open item. -/
def endItem (items : Items) : Items :=
  match items.item with
  | some item => { items with line := item.reverse :: items.line, item := none }
  | none => items

/-- Ends the open line. -/
def endLine (items : Items) : Items :=
  let items := items.endItem
  { items with
    lines := if items.line.isEmpty then items.lines else items.line.reverse :: items.lines
    line := []
    unmatched := items.unmatched.or items.quote }

/-- Takes in a character; with `whole` a line is one item. -/
def take (whole : Bool) (items : Items) (c : Char) : Items :=
  if items.unmatched.isSome then items
  else if items.escaped then items.push c
  else
    match items.quote with
    | some quote =>
      if c = quote then { items with quote := none, item := some (items.item.getD []) }
      else if c = '\n' then items.endLine
      else items.push c
    | none =>
      if c = '\n' then items.endLine
      else if c = '\\' then { items with escaped := true }
      else if c = '\'' || c = '"' then { items with quote := some c }
      else if c = ' ' || c = '\t' then
        if whole then if items.item.isSome then items.push c else items else items.endItem
      else items.push c

end Items

/-- The lines of items in a text, or the quote that is not closed. -/
def itemLines (whole : Bool) (text : Text) : Except Char (List (List Text)) :=
  let items := (text.foldl (Items.take whole) {}).endLine
  match items.unmatched with
  | some quote => .error quote
  | none => .ok items.lines.reverse

/-- A list in pieces of so many elements. -/
def pieces (size : Nat) : Nat → List α → List (List α)
  | 0, _ => []
  | fuel + 1, list =>
    if list.isEmpty then [] else list.take size :: pieces size fuel (list.drop size)

/-- A text with each occurrence of a part replaced. -/
def replaced (part new : Text) (skip : Nat) : Text → Text
  | [] => []
  | c :: text =>
    match skip with
    | skip + 1 => replaced part new skip text
    | 0 =>
      if part ≠ [] && Text.startsWith part (c :: text) then
        new ++ replaced part new (part.length - 1) text
      else c :: replaced part new 0 text

/-- The character between the items that an option names. -/
def delimiter (text : Text) : Char :=
  match text with
  | '\\' :: rest => (Printing.escape rest).1
  | text => text.headD '\x00'

/-- The argument lists that the input asks for, or the quote that is not closed. -/
def argumentLists (found : List (Char × Text)) (command : List Text) (input : Text) :
    Except Char (List (List Text)) := do
  let replaced? := (Utility.valueOf? found 'I').or
    (if Utility.has found 'i' then some ['\x7b', '\x7d'] else none)
  let size? := fun letter => (Utility.valueOf? found letter).bind Utility.natural?
  let separator? :=
    if Utility.has found '0' then some '\x00' else (Utility.valueOf? found 'd').map delimiter
  let lines ← match separator? with
    | some separator =>
      let items := Text.splitOn separator input
      pure ((if items.getLast? = some [] then items.dropLast else items).map fun item => [item])
    | none => itemLines replaced?.isSome input
  match replaced? with
  | some part =>
    return lines.map fun line => command.map (replaced part line.flatten 0)
  | none =>
    let items := lines.flatten
    let groups := match size? 'n', size? 'L' with
      | some size, _ => pieces size items.length items
      | none, some size => (pieces size lines.length lines).map List.flatten
      | none, none => if items.isEmpty then [] else [items]
    let groups := if groups.isEmpty && !Utility.has found 'r' then [[]] else groups
    return groups.map (command ++ ·)

/-- A word as it would be typed. -/
def typed (word : Text) : Text :=
  if word ≠ [] && word.all fun c => c.isAlphanum || "_-./=+:,@%".toList.contains c then word
  else '\'' :: word ++ ['\'']

/-- Starts a program once for each list of arguments. -/
def startEach (launch : Launch) (shows : Bool) : List (List Text) → (status : Nat) → Act Unit
  | [], status => setStatus status
  | [] :: rest, status => startEach launch shows rest status
  | (name :: arguments) :: rest, status => do
    if shows then
      write 2 (List.intercalate [' '] ((name :: arguments).map typed) ++ ['\n'])
    let ended ← tryCatch (Except.ok <$> launch name arguments) fun stop => do
      match stop with
      | .killed signal => pure (.error signal)
      | stop => throw stop
    match ended with
    | .error signal =>
      giveUp "xargs" (name ++ ": terminated by signal ".toList ++ Text.ofNat signal) 125
    | .ok (some cause) => giveUp "xargs" (name ++ ": ".toList ++ cause.text) (failureStatus cause)
    | .ok none =>
      match (← get).status with
      | 0 => startEach launch shows rest status
      | 255 => giveUp "xargs" (name ++ ": exited with status 255; aborting".toList) 124
      | _ => startEach launch shows rest 123

/-- Starts a program with arguments from the input. -/
def xargs (launch : Launch) (arguments : List Text) : Act Unit :=
  withLeading "xargs" "0a:E:e::i::I:l::L:n:prs:txP:d:"
    [("null", '0'), ("delimiter=", 'd'), ("replace[=", 'i'), ("max-args=", 'n'),
      ("max-lines[=", 'l'), ("max-procs=", 'P'), ("no-run-if-empty", 'r'), ("verbose", 't'),
      ("exit", 'x')] 1 arguments fun found operands => do
    let command := if operands = [] then ["echo".toList] else operands
    let badNumber := found.find? fun (letter, value) =>
      "nLPs".toList.contains letter && (Utility.natural? value).isNone
    match badNumber, found.find? fun (letter, value) => letter == 'n' && ofDigits value = 0 with
    | some (letter, value), _ =>
      giveUp "xargs" ("invalid number \"".toList ++ value ++ "\" for -".toList ++ letter ::
        " option".toList ++ hint "xargs") 1
    | none, some (letter, value) =>
      giveUp "xargs" ("value ".toList ++ value ++ " for -".toList ++ letter ::
        " option should be >= 1".toList ++ hint "xargs") 1
    | none, none => do
      let input ← leftOn 0
      consume 0 input.length
      match argumentLists found command input with
      | .error quote =>
        let kind := if quote = '"' then "double" else "single"
        giveUp "xargs" ("unmatched ".toList ++ kind.toList ++
          (" quote; by default quotes are special to xargs unless you use the -0 option").toList) 1
      | .ok lists =>
        let empty ← addFile .null
        withStreams do
          modify fun machine => { machine with streams := redirect 0 empty machine.streams }
          startEach launch (Utility.has found 't') lists 0

/-! ## Ends -/

/-- Starts a program with less weight, which nothing shows. -/
def nice (launch : Launch) (arguments : List Text) : Act Unit :=
  withLeading "nice" "n:" [("adjustment=", 'n')] 125 arguments fun found operands => do
    match Utility.valueOf? found 'n' with
    | some value =>
      if (Utility.count? value).isNone then
        return ← giveUp "nice" ("invalid adjustment '".toList ++ value ++ ['\'']) 125
    | none => pure ()
    match operands with
    | [] => do
      write 1 "0\n".toList
      setStatus 0
    | name :: arguments => orGiveUp launch "nice" "" name arguments

/-- Starts a program and gives up on it if it takes its time. -/
def timeout (launch : Launch) (arguments : List Text) : Act Unit :=
  withLeading "timeout" "k:s:v"
    [("kill-after=", 'k'), ("signal=", 's'), ("verbose", 'v'), ("foreground", 'f'),
      ("preserve-status", 'p')] 125 arguments fun _ operands => do
    match operands with
    | duration :: name :: arguments =>
      if !duration.head?.any Char.isDigit then
        let message := "invalid time interval '".toList ++ duration ++ '\'' :: hint "timeout"
        giveUp "timeout" message 125
      else do
        let before := (← get).slept
        modify fun machine => { machine with slept := false }
        orGiveUp launch "timeout" "failed to run command " name arguments
        if (← get).slept then setStatus 124
        modify fun machine => { machine with slept := machine.slept || before }
    | _ => do
      write 2 ((hint "timeout").tail ++ ['\n'])
      setStatus 125

end Launch
end Marginalia.Shell
