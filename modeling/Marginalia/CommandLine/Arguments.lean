import Marginalia.Dict
import Marginalia.Text.Digit
import Marginalia.Text.Quoted

/-!
# Arguments of the command line

Arguments are first told apart, each by itself: options, which may be shortened
or run together, and positional ones. Then they are read from left to right.
The inputs are one run of positional arguments; what stands elsewhere is not
recognised.
-/

namespace Marginalia.CommandLine

/-- The options. -/
inductive Opt where
  | help
  | output
  | nested
  | flat
  | quiet
  | selfTest
  | languages
  deriving DecidableEq, Repr

/-- How each option is written. -/
def spellings : List (Text × Opt) :=
  [("-h", Opt.help), ("--help", .help), ("-o", .output), ("--output", .output),
    ("--dirs", .nested), ("--no-dirs", .flat), ("-q", .quiet), ("--quiet", .quiet),
    ("--self-test", .selfTest), ("--languages", .languages)].map
    fun (spelling, opt) => (spelling.toList, opt)

/-- An option as messages name it: all its spellings. -/
def Opt.name (opt : Opt) : Text :=
  List.intercalate ['/'] ((spellings.filter fun (_, other) => other = opt).map (·.1))

/-- What the command line asks for. -/
structure Request where
  inputs : List Text := []
  output : Option Text := none
  nested : Option Bool := none
  quiet : Bool := false
  selfTest : Bool := false
  languages : Bool := false
  deriving DecidableEq, Repr

/-- Why arguments cannot be understood. -/
inductive UsageError where
  | ambiguous (argument : Text) (candidates : List Text)
  | missingValue (opt : Opt)
  | ignoredValue (opt : Opt) (value : Text)
  | unrecognized (arguments : List Text)
  deriving DecidableEq, Repr

/-- A usage error in words. -/
def UsageError.message : UsageError → Text
  | .ambiguous argument candidates =>
    "ambiguous option: ".toList ++ argument ++ " could match ".toList ++
      List.intercalate ", ".toList candidates
  | .missingValue opt => "argument ".toList ++ opt.name ++ ": expected one argument".toList
  | .ignoredValue opt value =>
    "argument ".toList ++ opt.name ++ ": ignored explicit argument ".toList ++ Text.quoted value
  | .unrecognized arguments =>
    "unrecognized arguments: ".toList ++ List.intercalate [' '] arguments

/-- Why reading the arguments stops before its end. -/
inductive Stop where
  | help
  | usage (fault : UsageError)
  deriving DecidableEq, Repr

/-- An argument, told apart by itself. -/
inductive Token where
  /-- What makes all arguments after it positional. -/
  | separator
  | positional (text : Text)
  /-- An option, whether it is a one-letter one, and a value in the same argument. -/
  | option (opt : Opt) (short : Bool) (value : Option Text)
  /-- What looks like an option but is none. -/
  | unknown (text : Text)
  deriving DecidableEq, Repr

/-- Whether an argument is a negative number, and so no option. -/
def isNegativeNumber (argument : Text) : Bool :=
  match argument with
  | '-' :: number =>
    let number := (Text.dropEnd? ['\n'] number).getD number
    match Text.cut? '.' number with
    | none => number ≠ [] && number.all isDecimalDigit
    | some (whole, places) =>
      whole.all isDecimalDigit && places ≠ [] && places.all isDecimalDigit
  | _ => false

/-- Whether a spelling is a one-letter one. -/
def isShort (spelling : Text) : Bool :=
  !Text.startsWith ['-', '-'] spelling

/-- An argument cut at its first equals sign. -/
def cutValue (argument : Text) : Text × Option Text :=
  match Text.cut? '=' argument with
  | some (before, after) => (before, some after)
  | none => (argument, none)

/-- The spellings that an argument may stand for: those that it begins, or its first letter. -/
def candidates (argument : Text) : List (Text × Token) :=
  if isShort argument then
    spellings.filterMap fun (spelling, opt) =>
      if spelling = argument.take 2 then
        some (spelling, .option opt true (some (argument.drop 2)))
      else none
  else
    let (stem, value) := cutValue argument
    spellings.filterMap fun (spelling, opt) =>
      if Text.startsWith stem spelling then some (spelling, .option opt (isShort spelling) value)
      else none

/-- Tells what an argument is. -/
def Token.ofArgument (argument : Text) : Except UsageError Token :=
  if argument.head? ≠ some '-' then .ok (.positional argument)
  else
    match Dict.get? argument spellings with
    | some opt => .ok (.option opt (isShort argument) none)
    | none =>
      if argument.length = 1 then .ok (.positional argument)
      else
        let (stem, value) := cutValue argument
        match value, Dict.get? stem spellings with
        | some value, some opt => .ok (.option opt (isShort stem) (some value))
        | _, _ =>
          match candidates argument with
          | [] =>
            if isNegativeNumber argument || argument.contains ' ' then .ok (.positional argument)
            else .ok (.unknown argument)
          | [(_, token)] => .ok token
          | many => .error (.ambiguous argument (many.map (·.1)))

/-- What stands before the positional rest of the arguments. -/
def separatorText : Text := ['-', '-']

/-- Tells all arguments apart. -/
def tokens : List Text → Except UsageError (List Token)
  | [] => .ok []
  | argument :: arguments =>
    if argument = separatorText then .ok (.separator :: arguments.map .positional)
    else
      match Token.ofArgument argument with
      | .error fault => .error fault
      | .ok token => (tokens arguments).map (token :: ·)

/-- Options out of one argument, and the output option's value if it is the last of them. -/
structure Bundle where
  flags : List Opt
  /-- Whether the output option stands last. -/
  output : Bool := false
  /-- Its value, if it is in the same argument. -/
  value : Option Text := none

/-- One option without a value in the same argument. -/
def Bundle.single (opt : Opt) : Bundle :=
  if opt = .output then { flags := [], output := true } else { flags := [opt] }

/-- The value that stands in the same argument; the separator as a value is none. -/
def plainValue (value : Text) : Text :=
  if value = separatorText then [] else value

/-- The options that letters after a one-letter option stand for. -/
def unbundle (opt : Opt) : Text → Except UsageError Bundle
  | [] => .error (.ignoredValue opt [])
  | c :: rest =>
    match Dict.get? ['-', c] spellings with
    | none => .error (.ignoredValue opt (c :: rest))
    | some next =>
      if rest = [] then
        let last := Bundle.single next
        .ok { last with flags := opt :: last.flags }
      else if next = .output then
        .ok { flags := [opt], output := true, value := some (plainValue rest) }
      else (unbundle next rest).map fun bundle => { bundle with flags := opt :: bundle.flags }

/-- The options that one argument stands for. -/
def bundleOf (opt : Opt) (short : Bool) : Option Text → Except UsageError Bundle
  | none => .ok (.single opt)
  | some value =>
    if opt = .output then .ok { flags := [], output := true, value := some (plainValue value) }
    else if short then
      if value = [] then .error (.ignoredValue opt value) else unbundle opt value
    else .error (.ignoredValue opt value)

/-- Sets what an option without value asks for. -/
def Request.setFlag (request : Request) : Opt → Except Stop Request
  | .help => .error .help
  | .output => .ok request
  | .nested => .ok { request with nested := some true }
  | .flat => .ok { request with nested := some false }
  | .quiet => .ok { request with quiet := true }
  | .selfTest => .ok { request with selfTest := true }
  | .languages => .ok { request with languages := true }

/-- How far the arguments have been read. -/
structure Progress where
  request : Request := {}
  /-- Whether the run of inputs has begun. -/
  begun : Bool := false
  /-- Whether the run of inputs goes on. -/
  running : Bool := false
  /-- What was not recognised. -/
  extras : List Text := []

/-- Takes a positional argument, or the separator, which adds nothing to the inputs. -/
def Progress.take (progress : Progress) (written : Text) (inputs : List Text) : Progress :=
  if progress.running || !progress.begun then
    { progress with
      begun := true
      running := true
      request := { progress.request with inputs := progress.request.inputs ++ inputs } }
  else { progress with extras := progress.extras ++ [written] }

/-- Takes the options of one argument. -/
def Progress.takeFlags (progress : Progress) (flags : List Opt) (output : Option Text) :
    Except Stop Progress := do
  let request ← flags.foldlM Request.setFlag progress.request
  pure
    { progress with
      running := false
      request := { request with output := output.or request.output } }

/-- Reads told-apart arguments from left to right. -/
def readTokens (progress : Progress) : List Token → Except Stop Request
  | [] =>
    if progress.extras = [] then .ok progress.request
    else .error (.usage (.unrecognized progress.extras))
  | .separator :: rest => readTokens (progress.take separatorText []) rest
  | .positional text :: rest => readTokens (progress.take text [text]) rest
  | .unknown text :: rest =>
    readTokens { progress with running := false, extras := progress.extras ++ [text] } rest
  | .option opt short value :: rest =>
    match bundleOf opt short value with
    | .error fault => .error (.usage fault)
    | .ok bundle =>
      if bundle.output && bundle.value.isNone then
        match rest with
        | .positional text :: rest =>
          match progress.takeFlags bundle.flags (some text) with
          | .error stop => .error stop
          | .ok progress => readTokens progress rest
        | _ => .error (.usage (.missingValue .output))
      else
        match progress.takeFlags bundle.flags bundle.value with
        | .error stop => .error stop
        | .ok progress => readTokens progress rest

/-- What arguments ask for. -/
def parse (arguments : List Text) : Except Stop Request :=
  match tokens arguments with
  | .error fault => .error (.usage fault)
  | .ok tokens => readTokens {} tokens

end Marginalia.CommandLine
