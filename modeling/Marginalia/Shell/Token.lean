import Marginalia.Shell.Script

/-!
# Tokens of a script

A reader holds what is left of a script and counts lines. It gives words and the
signs between them. Reading a word meets commands inside it, so the functions
here are given `inner`, which reads a command up to its closing parenthesis, or up
to the end of the text.

The functions that read a word pass an amount of fuel on, which each call lowers.
Every second call takes a character off the text, so twice its length is enough.
-/

namespace Marginalia.Shell

/-- What a redirection sign asks for. -/
inductive Sign where
  | file (mode : Mode)
  | stream
  /-- A text in the script, of whose lines leading tabs may be dropped. -/
  | document (dropTabs : Bool)
  deriving DecidableEq, Repr

/-- What the grammar of scripts is about. -/
inductive Token where
  | finish
  | newline
  | semicolon
  | ampersand
  | andSign
  | orSign
  | bar
  | opening
  | closing
  | itemEnd
  | redirect (stream : Nat) (sign : Sign)
  | word (word : Word)
  | keyword (name : Text)

namespace Token

/-- A token as messages name it. -/
def describe : Token → Text
  | .finish => "end of file".toList
  | .newline => "newline".toList
  | .semicolon => "\";\"".toList
  | .ampersand => "\"&\"".toList
  | .andSign => "\"&&\"".toList
  | .orSign => "\"||\"".toList
  | .bar => "\"|\"".toList
  | .opening => "\"(\"".toList
  | .closing => "\")\"".toList
  | .itemEnd => "\";;\"".toList
  | .redirect _ _ => "redirection".toList
  | .word _ => "word".toList
  | .keyword name => '"' :: name ++ ['"']

/-- Whether a list of commands ends before a token. -/
def endsList : Token → Bool
  | .finish | .closing | .itemEnd => true
  | .keyword name =>
    ["do", "done", "elif", "else", "esac", "fi", "then", "\x7d"].contains (String.ofList name)
  | _ => false

end Token

/-- The words with a meaning of their own where a command can start. -/
def keywords : List Text :=
  ["!", "case", "do", "done", "elif", "else", "esac", "fi", "for", "if", "in", "then", "until",
    "while", "\x7b", "\x7d"].map String.toList

/-- An alias that is being read: the text after it is so long. -/
structure OpenAlias where
  name : Text
  after : Nat
  /-- Whether the word after it may be an alias as well. -/
  leadsOn : Bool
  deriving DecidableEq, Repr

/-- What is left of a script. -/
structure Reader where
  text : Text
  line : Nat := 1
  /-- The lines that were taken out after this one. -/
  hidden : Nat := 0
  /-- A token that was read and is still to be used. -/
  held : Option Token := none
  /-- The last token that was read. -/
  last : Token := .newline
  /-- The texts that names of commands stand for. -/
  aliases : List (Text × Text) := []
  /-- The aliases that are being read, the last one first. -/
  openAliases : List OpenAlias := []

/-- Why a script makes no sense, and in which line that shows. -/
structure Malformed where
  line : Nat
  message : Text
  deriving DecidableEq, Repr

/-- Reading something off a script. -/
abbrev Parse (α : Type) := StateT Reader (Except Malformed) α

/-- Gives up where the reader stands. -/
def Parse.fail (message : Text) : Parse α := fun reader => .error ⟨reader.line, message⟩

/-- The reader after one more character. -/
def Reader.advance (reader : Reader) : Reader :=
  match reader.text with
  | [] => reader
  | c :: text =>
    if c = '\n' then { reader with text, line := reader.line + 1 + reader.hidden, hidden := 0 }
    else { reader with text }

/-- Passes over characters. -/
def skip (count : Nat) : Parse Unit :=
  modify fun reader => count.repeat Reader.advance reader

/-- Where a run of parts ends. -/
inductive Ending where
  /-- Before the end of a word. -/
  | word
  /-- At a closing brace. -/
  | brace
  /-- At a closing quote. -/
  | quote
  /-- At the end of the text. -/
  | text
  /-- At two closing parentheses, with some open before them. -/
  | number (depth : Nat)
  deriving DecidableEq, Repr

/-- Whether a word ends before a character that is not quoted. -/
def endsWord (c : Char) : Bool :=
  c == ' ' || c == '\t' || c == '\n' || c == ';' || c == '&' || c == '|' || c == '<' || c == '>' ||
    c == '(' || c == ')'

/-- The parameters whose names are no letters or digits. -/
def isSpecial (c : Char) : Bool :=
  c == '@' || c == '*' || c == '#' || c == '?' || c == '-' || c == '$' || c == '!'

/-- The one name after a dollar sign, if there is one. -/
def nameAfterDollar (text : Text) : Text :=
  match text with
  | [] => []
  | c :: _ =>
    if startsName c then text.takeWhile isInName
    else if c.isDigit || isSpecial c then [c]
    else []

/--
The name in braces, and whether its length is asked for. A number sign asks for a
length unless it is the name itself.
-/
def nameInBraces (text : Text) : Bool × Text :=
  let name := fun (text : Text) =>
    match text with
    | [] => []
    | c :: _ =>
      if startsName c then text.takeWhile isInName
      else if c.isDigit then text.takeWhile Char.isDigit
      else if isSpecial c then [c]
      else []
  match text with
  | '#' :: c :: rest =>
    if isInName c then (true, name (c :: rest))
    else if c != '\x7d' && rest.head? == some '\x7d' then (true, name (c :: rest))
    else (false, ['#'])
  | text => (false, name text)

/-- A text in backquotes, without the backslashes that keep it together, and its written length. -/
def backquoted? (quoted : Bool) : Text → Option (Text × Nat)
  | [] => none
  | '\\' :: '\n' :: text => (backquoted? quoted text).map fun (body, size) => (body, size + 2)
  | '\\' :: c :: text =>
    (backquoted? quoted text).map fun (body, size) =>
      if c = '\\' || c = '`' || c = '$' || (quoted && c = '"') then (c :: body, size + 2)
      else ('\\' :: c :: body, size + 2)
  | c :: text =>
    if c = '`' then some ([], 1)
    else (backquoted? quoted text).map fun (body, size) => (c :: body, size + 1)

/-- Reads a text of its own and then goes on as before. -/
def readApart (text : Text) (line : Nat) (read : Parse α) : Parse α := do
  let reader ← get
  set { text, line : Reader }
  let result ← read
  set reader
  pure result

/-- The operator of a parameter in braces, given how its word is read. -/
def useOf (fromWord : Bool → Parse Word) (quoted : Bool) (text : Text) : Parse Use := do
  let (emptyToo, operator) := match text with
    | ':' :: rest => (true, rest.head?)
    | text => (false, text.head?)
  let size := if emptyToo then 2 else 1
  match operator with
  | some '-' => do skip size; return .orElse emptyToo (← fromWord quoted)
  | some '=' => do skip size; return .orAssign emptyToo (← fromWord quoted)
  | some '?' => do skip size; return .orFail emptyToo (← fromWord quoted)
  | some '+' => do skip size; return .andThen emptyToo (← fromWord quoted)
  | _ =>
    match text with
    | '\x7d' :: _ => do skip 1; return .value
    | '%' :: '%' :: _ => do skip 2; return .without true true (← fromWord false)
    | '%' :: _ => do skip 1; return .without true false (← fromWord false)
    | '#' :: '#' :: _ => do skip 2; return .without false true (← fromWord false)
    | '#' :: _ => do skip 1; return .without false false (← fromWord false)
    | _ => do
      let _ ← fromWord quoted
      return .invalid

/-- Whether a backslash in double quotes takes the meaning off a character. -/
def isEscapable (ending : Ending) (c : Char) : Bool :=
  c == '\\' || c == '`' || c == '$' || (c == '"' && ending != .text) ||
    (c == '\x7d' && ending == .brace)

/-- What is wrong with a text that stops before an ending. -/
def Ending.fault? : Ending → Option Text
  | .word | .text => none
  | .quote => some "Syntax error: Unterminated quoted string".toList
  | .brace => some "Syntax error: Missing '\x7d'".toList
  | .number _ => some "Syntax error: Missing '))'".toList

mutual

/-- Reads parts up to an ending. -/
def parts (inner : Bool → Parse (Option Command)) : Nat → Bool → Ending → Parse Word
  | 0, _, _ => pure []
  | fuel + 1, quoted, ending => do
    let go := parts inner fuel quoted
    let literal := fun (c : Char) => if quoted then Part.kept c else Part.char c
    match (← get).text with
    | [] => (ending.fault?.map Parse.fail).getD (pure [])
    | c :: rest =>
      match ending, c with
      | .brace, '\x7d' => do skip 1; pure []
      | .quote, '"' => do skip 1; pure []
      | .number depth, '(' => do skip 1; return .kept c :: (← go (.number (depth + 1)))
      | .number (depth + 1), ')' => do skip 1; return .kept c :: (← go (.number depth))
      | .number 0, ')' =>
        if rest.head? = some ')' then do skip 2; pure []
        else do skip 1; return .kept c :: (← go ending)
      | ending, c =>
        if ending = .word && endsWord c then pure []
        else if ending = .brace && !quoted && c = '\n' then
          (ending.fault?.map Parse.fail).getD (pure [])
        else if c = '\\' then
          match rest with
          | [] => do skip 1; return .kept '\\' :: (← go ending)
          | '\n' :: _ => do skip 2; go ending
          | d :: _ => do
            skip 2
            let following ← go ending
            if quoted && !isEscapable ending d then return .kept '\\' :: .kept d :: following
            else return .kept d :: following
        else if c = '\'' && !quoted then
          match rest.idxOf? '\'' with
          | none => do
            skip (rest.length + 1)
            Parse.fail "Syntax error: Unterminated quoted string".toList
          | some size => do
            skip (size + 2)
            return .quotes :: (rest.take size).map .kept ++ (← go ending)
        else if c = '"' && (!quoted || ending = .brace) then
          match rest with
          | '$' :: '@' :: '"' :: _ => do
            skip 4
            return .parameter ['@'] .value true :: (← go ending)
          | _ => do
            skip 1
            let inside ← parts inner fuel true .quote
            return .quotes :: inside ++ (← go ending)
        else if c = '$' then do
          skip 1
          let found ← substitution inner fuel quoted
          return found.getD (literal '$') :: (← go ending)
        else if c = '`' then
          match backquoted? quoted rest with
          | none => do
            skip (rest.length + 1)
            Parse.fail "Syntax error: EOF in backquote substitution".toList
          | some (body, size) => do
            skip (size + 1)
            let command ← readApart body 1 (inner false)
            return .output command quoted :: (← go ending)
        else do
          skip 1
          return literal c :: (← go ending)

/-- Reads what follows a dollar sign, if it has a meaning. -/
def substitution (inner : Bool → Parse (Option Command)) : Nat → Bool → Parse (Option Part)
  | 0, _ => pure none
  | fuel + 1, quoted => do
    let fromWord := fun quoted => parts inner fuel quoted .brace
    match (← get).text with
    | '(' :: '(' :: _ => do
      skip 2
      let expression ← parts inner fuel true (.number 0)
      return some (.number expression quoted)
    | '(' :: _ => do
      skip 1
      let reader ← get
      set { reader with held := none }
      let command ← inner true
      modify fun after => { after with held := reader.held, last := reader.last }
      return some (.output command quoted)
    | '\x7b' :: text => do
      skip 1
      let (asksLength, name) := nameInBraces text
      skip (if asksLength then name.length + 1 else name.length)
      let after := (← get).text
      if asksLength then
        let _ ← fromWord quoted
        let use := if after.head? = some '\x7d' then .length else .invalid
        return some (.parameter name use quoted)
      else if name = [] then
        let _ ← fromWord quoted
        return some (.parameter name .invalid quoted)
      else return some (.parameter name (← useOf fromWord quoted after) quoted)
    | text =>
      match nameAfterDollar text with
      | [] => pure none
      | name => do
        skip name.length
        return some (.parameter name .value quoted)

end

/-- Reads one word. -/
def readWord (inner : Bool → Parse (Option Command)) : Parse Word := do
  parts inner (2 * (← get).text.length + 4) false .word

/-- How many characters stand between tokens: blanks, continued lines and a comment. -/
def gap : Text → Nat
  | ' ' :: text | '\t' :: text => gap text + 1
  | '\\' :: '\n' :: text => gap text + 2
  | '#' :: text => (text.takeWhile (· != '\n')).length + 1
  | _ => 0

/-- The redirection sign at the start of a text, its length and the stream it is about. -/
def sign? : Text → Option (Sign × Nat × Nat)
  | '>' :: '>' :: _ => some (.file .append, 2, 1)
  | '>' :: '|' :: _ => some (.file .replace, 2, 1)
  | '>' :: '&' :: _ => some (.stream, 2, 1)
  | '>' :: _ => some (.file .write, 1, 1)
  | '<' :: '<' :: '-' :: _ => some (.document true, 3, 0)
  | '<' :: '<' :: _ => some (.document false, 2, 0)
  | '<' :: '&' :: _ => some (.stream, 2, 0)
  | '<' :: '>' :: _ => some (.file .update, 2, 0)
  | '<' :: _ => some (.file .read, 1, 0)
  | _ => none

/-- The sign that a text starts with, other than a redirection, and its length. -/
def mark? : Text → Option (Token × Nat)
  | [] => some (.finish, 0)
  | '\n' :: _ => some (.newline, 1)
  | '&' :: '&' :: _ => some (.andSign, 2)
  | '&' :: _ => some (.ampersand, 1)
  | '|' :: '|' :: _ => some (.orSign, 2)
  | '|' :: _ => some (.bar, 1)
  | ';' :: ';' :: _ => some (.itemEnd, 2)
  | ';' :: _ => some (.semicolon, 1)
  | '(' :: _ => some (.opening, 1)
  | ')' :: _ => some (.closing, 1)
  | _ => none

/-- The stream that a word before a redirection sign names: no word, or one digit. -/
def streamOf? (standard : Nat) (word : Word) : Option Nat :=
  match word with
  | [] => some standard
  | [.char c] => if c.isDigit then some (c.toNat - '0'.toNat) else none
  | _ => none

/-- Reads a token off the text. -/
def readToken (inner : Bool → Parse (Option Command)) : Parse Token := do
  skip (gap (← get).text)
  match mark? (← get).text with
  | some (token, size) => do skip size; pure token
  | none => do
    let word ← readWord inner
    match sign? (← get).text with
    | none => pure (.word word)
    | some (sign, size, standard) =>
      match streamOf? standard word with
      | none => pure (.word word)
      | some stream => do skip size; pure (.redirect stream sign)

/-- Reads the next token, passing over newlines if asked to. -/
def nextToken (inner : Bool → Parse (Option Command)) (overNewlines : Bool) : Nat → Parse Token
  | 0 => pure .finish
  | fuel + 1 => do
    let reader ← get
    let token ← match reader.held with
      | some token => do set { reader with held := none }; pure token
      | none => readToken inner
    match token, overNewlines with
    | .newline, true => nextToken inner overNewlines fuel
    | token, _ => pure token

/-- The reader after an alias was put in place of its name, unless it is being read already. -/
def Reader.replaceAlias? (reader : Reader) (name : Text) : Option Reader :=
  let openAliases := reader.openAliases.filter (·.after ≤ reader.text.length)
  match reader.aliases.lookup name with
  | none => none
  | some value =>
    if openAliases.any (·.name = name) then none
    else
      some { reader with
        text := value ++ reader.text
        openAliases :=
          { name
            after := reader.text.length
            leadsOn := value.getLast?.any fun c => c == ' ' || c == '\t' } :: openAliases }

/-- Whether the word that was read up to a place comes right after an alias that leads on. -/
def Reader.isLedOn (reader : Reader) (before : Nat) : Bool :=
  reader.openAliases.any fun one =>
    one.leadsOn && one.after ≤ before && reader.text.length < one.after

/-- Reads the next token; a word may be a keyword or an alias. -/
def nextOf (inner : Bool → Parse (Option Command)) (withKeywords withAliases overNewlines : Bool) :
    Nat → Parse Token
  | 0 => pure .finish
  | fuel + 1 => do
    let before := (← get).text.length
    let isHeld := (← get).held.isSome
    let token ← nextToken inner overNewlines (before + 2)
    match token with
    | .word word =>
      match Word.plain? word with
      | some text =>
        if withKeywords && keywords.contains text then pure (.keyword text)
        else
          let reader ← get
          let replaced :=
            if !isHeld && (withAliases || reader.isLedOn before) then reader.replaceAlias? text
            else none
          match replaced with
          | some reader => do
            set reader
            nextOf inner withKeywords withAliases overNewlines fuel
          | none => pure token
      | none => pure token
    | token => pure token

/-- Reads the next token; where a command can start, a word may be a keyword or an alias. -/
def next (inner : Bool → Parse (Option Command)) (atCommand overNewlines : Bool) :
    Parse Token := do
  let token ← nextOf inner atCommand atCommand overNewlines ((← get).aliases.length + 1)
  modify fun reader => { reader with last := token }
  pure token

/-- Reads the next token of a simple command; before its first word, that may be an alias. -/
def nextWord (inner : Bool → Parse (Option Command)) (isFirst : Bool) : Parse Token := do
  let token ← nextOf inner false isFirst false ((← get).aliases.length + 1)
  modify fun reader => { reader with last := token }
  pure token

/-- Keeps a token for the next time. -/
def hold (token : Token) : Parse Unit :=
  modify fun reader => { reader with held := some token }

/-- Gives up because of the last token. -/
def unexpected : Parse α := do
  Parse.fail ("Syntax error: ".toList ++ (← get).last.describe ++ " unexpected".toList)

/-- Gives up because of the last token, in place of which another one should be. -/
def expecting (token : Token) : Parse α := do
  Parse.fail ("Syntax error: ".toList ++ (← get).last.describe ++
    " unexpected (expecting ".toList ++ token.describe ++ [')'])

/-- The lines of a document and the lines after the one that ends it. -/
def documentLines (dropTabs : Bool) (delimiter : Text) : List Text → List Text × List Text
  | [] => ([], [])
  | line :: lines =>
    let shown := if dropTabs then line.dropWhile (· == '\t') else line
    if shown = delimiter then ([], lines)
    else if lines = [] then ([shown], [])
    else
      let (inside, after) := documentLines dropTabs delimiter lines
      (shown :: inside, after)

/-- Takes the document out that follows the present line. -/
def takeDocument (inner : Bool → Parse (Option Command)) (dropTabs : Bool) (delimiter : Word) :
    Parse Word := do
  let reader ← get
  match Text.cut? '\n' reader.text with
  | none => pure []
  | some (before, after) =>
    let lines := Text.splitOn '\n' after
    let (inside, left) := documentLines dropTabs delimiter.bareText lines
    let ended := inside.length < lines.length
    let body :=
      if ended then Text.unlines inside
      else if inside.getLast? = some [] then Text.unlines inside.dropLast
      else List.intercalate ['\n'] inside
    set { reader with
      text := before ++ '\n' :: List.intercalate ['\n'] left
      hidden := reader.hidden + (lines.length - left.length) }
    if (Word.plain? delimiter).isNone then pure (body.map .kept)
    else readApart body (reader.line + 1) (parts inner (2 * body.length + 4) true .text)

end Marginalia.Shell
