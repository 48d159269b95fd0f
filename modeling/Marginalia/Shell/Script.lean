import Marginalia.Text.Basic

/-!
# Scripts

What a script is made of. Words are lists of parts, because what a part means
depends on how it is quoted; commands are built from words, redirections and
other commands. Parts and commands refer to each other: a part can stand for what
a command prints.

Streams, arguments and values are texts of which each character is one byte.
-/

namespace Marginalia.Shell

/-- How a redirection opens a file. -/
inductive Mode where
  | read
  | write
  /-- Writes in place of what is there, even if that is protected. -/
  | replace
  | append
  | update
  deriving DecidableEq, Repr

mutual

/-- A piece of a word. -/
inductive Part where
  /-- A character as it stands. -/
  | char (c : Char)
  /-- A character that quoting keeps from having a meaning. -/
  | kept (c : Char)
  /-- Quotes, which make a word even around nothing. -/
  | quotes
  /-- What a parameter stands for. -/
  | parameter (name : Text) (use : Use) (quoted : Bool)
  /-- What a command prints. -/
  | output (command : Option Command) (quoted : Bool)
  /-- What an expression comes to. -/
  | number (expression : List Part) (quoted : Bool)

/-- What is made of the value of a parameter. -/
inductive Use where
  | value
  | length
  /-- Another word in place of a value that is missing. -/
  | orElse (emptyToo : Bool) (word : List Part)
  /-- The same, and the parameter takes the word as its value. -/
  | orAssign (emptyToo : Bool) (word : List Part)
  /-- A message and the end of the script in place of a value that is missing. -/
  | orFail (emptyToo : Bool) (word : List Part)
  /-- Another word in place of a value that is there. -/
  | andThen (emptyToo : Bool) (word : List Part)
  /-- The value without what a pattern matches at its start or end. -/
  | without (atEnd longest : Bool) (pattern : List Part)
  /-- Nothing that can be done. -/
  | invalid

/-- Where a stream of a command comes from or goes to. -/
inductive Redirect where
  | file (stream : Nat) (mode : Mode) (word : List Part)
  /-- Another stream, by its number. -/
  | stream (stream : Nat) (word : List Part)
  /-- A text that stands in the script. -/
  | document (stream : Nat) (text : List Part)

/-- A command; a line number is kept where messages need it. -/
inductive Command where
  | simple (line : Nat) (assignments : List (Text × List Part)) (words : List (List Part))
      (redirects : List Redirect)
  /-- Commands that pass their output on, each to the next one. -/
  | pipeline (commands : List Command)
  | negation (command : Command)
  | conjunction (first second : Command)
  | disjunction (first second : Command)
  | sequence (first second : Command)
  | background (command : Command)
  /-- A command with redirections of its own. -/
  | redirected (line : Nat) (command : Command) (redirects : List Redirect)
  /-- A command that leaves no trace in the variables of the script. -/
  | isolated (line : Nat) (command : Command) (redirects : List Redirect)
  | choice (condition accepted : Command) (rejected : Option Command)
  /-- A loop that goes on as long as its condition comes out as it should. -/
  | loop (onSuccess : Bool) (condition body : Command)
  /-- A loop over words; without words, over the arguments. -/
  | iteration (line : Nat) (name : Text) (words : Option (List (List Part))) (body : Command)
  /-- The first item of which a pattern matches a word. -/
  | selection (line : Nat) (word : List Part) (items : List (List (List Part) × Option Command))
  | definition (name : Text) (body : Command)

end

/-- A word before its expansion. -/
abbrev Word := List Part

/-- Commands one after the other. -/
def Command.followedBy : Option Command → Command → Command
  | none, second => second
  | some first, second => .sequence first second

/-- The text of a word in which nothing has a meaning. -/
def Word.plain? : Word → Option Text
  | [] => some []
  | .char c :: parts => (Word.plain? parts).map (c :: ·)
  | _ => none

/-- Whether a name can start with a character. -/
def startsName (c : Char) : Bool := c.isAlpha || c == '_'

/-- Whether a name can go on with a character. -/
def isInName (c : Char) : Bool := c.isAlphanum || c == '_'

/-- Whether a text is the name of a variable. -/
def isName (text : Text) : Bool :=
  match text with
  | [] => false
  | c :: rest => startsName c && rest.all isInName

/-- The variable and the value of a word that assigns. -/
def Word.assignment? (word : Word) : Option (Text × Word) :=
  let name := word.takeWhile fun
    | .char c => c != '='
    | _ => false
  match word.drop name.length, Word.plain? name with
  | .char '=' :: value, some name => if isName name then some (name, value) else none
  | _, _ => none

/-- The text of a word without its quotes, whatever its parts mean. -/
def Word.bareText (word : Word) : Text :=
  word.filterMap fun
    | .char c | .kept c => some c
    | _ => none

end Marginalia.Shell
