import Marginalia.Shell.Token

/-!
# The grammar of scripts

Reading commands, one logical line at a time, so that the lines before one that
makes no sense are still run. Commands nest, and the functions here pass an amount
of fuel on that each call lowers; between two characters of the text there is only
a fixed number of calls.
-/

namespace Marginalia.Shell

/-- How far a list of commands reaches. -/
inductive Extent where
  /-- To the end of the line. -/
  | line
  /-- To a word that ends it; it holds one command at least. -/
  | block
  /-- To a word or sign that ends it; it may be empty. -/
  | nested
  deriving DecidableEq, Repr

/-- The commands of the interpreter itself whose failure ends a script. -/
def specialBuiltins : List Text :=
  [".", ":", "break", "continue", "eval", "exec", "exit", "export", "local", "readonly", "return",
    "set", "shift", "times", "trap", "unset"].map String.toList

/-- The keyword of a name, as a token. -/
def Token.ofKeyword (name : String) : Token := .keyword name.toList

/-- The parts of a simple command that were read so far. -/
structure Gathering where
  assignments : List (Text × Word) := []
  words : List Word := []
  redirects : List Redirect := []

mutual

/-- Reads the rest of a list after the commands `done`. -/
def listFrom : Nat → Extent → Option Command → Parse (Option Command)
  | 0, _, done => pure done
  | fuel + 1, extent, done => do
    let token ← next (innerList fuel) true (extent != .line)
    match token with
    | .newline => pure done
    | .finish => do hold token; pure done
    | token => do
      hold token
      if (extent = .nested || (extent = .block && done.isSome)) && token.endsList then pure done
      else
        let first ← andOr fuel
        let token ← next (innerList fuel) false false
        let command := match token with
          | .ampersand => .background first
          | _ => first
        let done := some (Command.followedBy done command)
        match token with
        | .finish => do hold token; pure done
        | .newline => do hold token; listFrom fuel extent done
        | .ampersand | .semicolon => listFrom fuel extent done
        | token => if extent = .line then unexpected else do hold token; pure done

/-- Reads a list that stands inside a word, with its closing parenthesis if it has one. -/
def innerList : Nat → Bool → Parse (Option Command)
  | 0, _ => pure none
  | fuel + 1, closed => do
    let command ← listFrom fuel .nested none
    if closed then
      match ← next (innerList fuel) true false with
      | .closing => pure command
      | _ => expecting .closing
    else pure command

/--
Reads a list that is not empty. Only the end of the script makes it empty, and then
the keyword that should follow is missed next.
-/
def block : Nat → Parse Command
  | 0 => unexpected
  | fuel + 1 => do return (← listFrom fuel .block none).getD (.simple 0 [] [] [])

/-- Reads pipelines that hang on each other. -/
def andOr : Nat → Parse Command
  | 0 => unexpected
  | fuel + 1 => do andOrFrom fuel (← pipeline fuel)

/-- Reads the pipelines that hang on a command. -/
def andOrFrom : Nat → Command → Parse Command
  | 0, first => pure first
  | fuel + 1, first => do
    match ← next (innerList fuel) false false with
    | .andSign => do andOrFrom fuel (.conjunction first (← pipeline fuel))
    | .orSign => do andOrFrom fuel (.disjunction first (← pipeline fuel))
    | token => do hold token; pure first

/-- Reads a pipeline. -/
def pipeline : Nat → Parse Command
  | 0 => unexpected
  | fuel + 1 => do
    match ← next (innerList fuel) true true with
    | .keyword ['!'] => return .negation (← pipelineFrom fuel [← command fuel false])
    | token => do
      hold token
      pipelineFrom fuel [← command fuel false]

/-- Reads the commands that a pipeline goes on with, held with the last one first. -/
def pipelineFrom : Nat → List Command → Parse Command
  | 0, _ => unexpected
  | fuel + 1, commands => do
    match ← next (innerList fuel) false false, commands with
    | .bar, commands => do pipelineFrom fuel ((← command fuel true) :: commands)
    | token, [single] => do hold token; pure single
    | token, commands => do hold token; pure (.pipeline commands.reverse)

/-- Reads one command. -/
def command : Nat → Bool → Parse Command
  | 0, _ => unexpected
  | fuel + 1, overNewlines => do
    let line := (← get).line
    match ← next (innerList fuel) true overNewlines with
    | .opening => do
      let body ← block fuel
      match ← next (innerList fuel) true false with
      | .closing => return .isolated line body (← redirects fuel)
      | _ => expecting .closing
    | .keyword name =>
      match String.ofList name with
      | "\x7b" => do
        let body ← block fuel
        expectKeyword fuel "\x7d" false
        withRedirects fuel line body
      | "if" => do withRedirects fuel line (← choice fuel)
      | "while" => do withRedirects fuel line (← loop fuel true)
      | "until" => do withRedirects fuel line (← loop fuel false)
      | "for" => do withRedirects fuel line (← iteration fuel line)
      | "case" => do withRedirects fuel line (← selection fuel line)
      | _ => unexpected
    | .word word => do hold (.word word); simple fuel (← get).line {}
    | .redirect stream sign => do hold (.redirect stream sign); simple fuel (← get).line {}
    | _ => unexpected

/-- Reads a keyword that has to be there. -/
def expectKeyword : Nat → String → Bool → Parse Unit
  | 0, _, _ => pure ()
  | fuel + 1, name, overNewlines => do
    match ← next (innerList fuel) true overNewlines with
    | .keyword found =>
      if found = name.toList then pure () else expecting (.ofKeyword name)
    | _ => expecting (.ofKeyword name)

/-- Reads a choice after its first keyword. -/
def choice : Nat → Parse Command
  | 0 => unexpected
  | fuel + 1 => do
    let condition ← block fuel
    expectKeyword fuel "then" false
    let accepted ← block fuel
    match ← next (innerList fuel) true false with
    | .keyword ['e', 'l', 'i', 'f'] => return .choice condition accepted (some (← choice fuel))
    | .keyword ['e', 'l', 's', 'e'] => do
      let rejected ← block fuel
      expectKeyword fuel "fi" false
      return .choice condition accepted (some rejected)
    | token => do
      hold token
      expectKeyword fuel "fi" false
      return .choice condition accepted none

/-- Reads a loop after its first keyword. -/
def loop : Nat → Bool → Parse Command
  | 0, _ => unexpected
  | fuel + 1, onSuccess => do
    let condition ← block fuel
    expectKeyword fuel "do" false
    let body ← block fuel
    expectKeyword fuel "done" false
    return .loop onSuccess condition body

/-- Reads words up to a token of another kind, which has to end the line or the command. -/
def wordList : Nat → Parse (List Word)
  | 0 => pure []
  | fuel + 1 => do
    match ← next (innerList fuel) false false with
    | .word word => return word :: (← wordList fuel)
    | .newline | .semicolon => pure []
    | _ => unexpected

/-- Reads a loop over words after its first keyword. -/
def iteration : Nat → Nat → Parse Command
  | 0, _ => unexpected
  | fuel + 1, line => do
    let badName := Parse.fail "Syntax error: Bad for loop variable".toList
    let name ← match ← next (innerList fuel) false false with
      | .word word =>
        match Word.plain? word with
        | some name => if isName name then pure name else badName
        | none => badName
      | _ => badName
    let words ← match ← next (innerList fuel) true true with
      | .keyword ['i', 'n'] => do pure (some (← wordList fuel))
      | .semicolon => pure none
      | token => do hold token; pure none
    expectKeyword fuel "do" true
    let body ← block fuel
    expectKeyword fuel "done" false
    return .iteration line name words body

/-- Reads a selection after its first keyword. -/
def selection : Nat → Nat → Parse Command
  | 0, _ => unexpected
  | fuel + 1, line => do
    match ← next (innerList fuel) false false with
    | .word word => do
      expectKeyword fuel "in" true
      return .selection line word (← items fuel)
    | _ => expecting (.word [])

/-- Reads the items of a selection and the keyword that ends it. -/
def items : Nat → Parse (List (List Word × Option Command))
  | 0 => unexpected
  | fuel + 1 => do
    match ← next (innerList fuel) true true with
    | .keyword ['e', 's', 'a', 'c'] => pure []
    | token => do
      let first ← match token with
        | .opening => next (innerList fuel) false false
        | token => pure token
      let patterns ← patternsFrom fuel first
      let body ← listFrom fuel .nested none
      match ← next (innerList fuel) true true with
      | .keyword ['e', 's', 'a', 'c'] => return [(patterns, body)]
      | .itemEnd => return (patterns, body) :: (← items fuel)
      | _ => expecting .itemEnd

/-- Reads the patterns of an item, the first one being read already, up to a parenthesis. -/
def patternsFrom : Nat → Token → Parse (List Word)
  | 0, _ => pure []
  | fuel + 1, token => do
    let pattern := match token with
      | .word word => word
      | .keyword name => name.map .char
      | _ => []
    match ← next (innerList fuel) false false with
    | .bar => do
      let token ← next (innerList fuel) false false
      return pattern :: (← patternsFrom fuel token)
    | .closing => pure [pattern]
    | _ => expecting .closing

/-- Reads the target of a redirection. -/
def target : Nat → Nat → Sign → Parse Redirect
  | 0, _, _ => unexpected
  | fuel + 1, stream, sign => do
    match ← next (innerList fuel) false false with
    | .word word =>
      match sign with
      | .file mode => pure (.file stream mode word)
      | .stream => pure (.stream stream word)
      | .document dropTabs =>
        return .document stream (← takeDocument (innerList fuel) dropTabs word)
    | _ => unexpected

/-- Reads the redirections after a command. -/
def redirects : Nat → Parse (List Redirect)
  | 0 => pure []
  | fuel + 1 => do
    match ← next (innerList fuel) true false with
    | .redirect stream sign => do
      let redirect ← target fuel stream sign
      return redirect :: (← redirects fuel)
    | token => do hold token; pure []

/-- Reads the redirections after a command that is no simple one. -/
def withRedirects : Nat → Nat → Command → Parse Command
  | 0, _, _ => unexpected
  | fuel + 1, line, body => do
    match ← redirects fuel with
    | [] => pure body
    | found => pure (.redirected line body found)

/-- Reads the rest of a simple command, or a definition. -/
def simple : Nat → Nat → Gathering → Parse Command
  | 0, _, _ => unexpected
  | fuel + 1, line, g => do
    match ← nextWord (innerList fuel) g.words.isEmpty with
    | .word word =>
      match g.words, Word.assignment? word with
      | [], some assignment =>
        simple fuel line { g with assignments := g.assignments ++ [assignment] }
      | _, _ => simple fuel line { g with words := g.words ++ [word] }
    | .redirect stream sign => do
      let redirect ← target fuel stream sign
      simple fuel line { g with redirects := g.redirects ++ [redirect] }
    | .opening =>
      match g.words, g.assignments, g.redirects with
      | [word], [], [] => do
        match ← next (innerList fuel) false false with
        | .closing =>
          let name := (Word.plain? word).getD []
          if isName name && !specialBuiltins.contains name then
            return .definition name (← command fuel true)
          else Parse.fail "Syntax error: Bad function name".toList
        | _ => expecting .closing
      | _, _, _ => do
        hold .opening
        pure (.simple line g.assignments g.words g.redirects)
    | token => do
      hold token
      pure (.simple line g.assignments g.words g.redirects)

end

/-- What reading a line of a script comes to. -/
inductive Line where
  | finished
  | blank (rest : Reader)
  | command (command : Command) (rest : Reader)
  | malformed (fault : Malformed)

/-- Reads the next line of a script. -/
def readLine (reader : Reader) : Line :=
  let size := reader.text.length * (reader.aliases.foldl (fun n (_, value) => n + value.length) 1)
  match (listFrom (16 * size + 64) .line none).run { reader with held := none } with
  | .error fault => .malformed fault
  | .ok (some command, rest) => .command command rest
  | .ok (none, rest) =>
    match rest.last with
    | .finish => .finished
    | _ => .blank rest

end Marginalia.Shell
