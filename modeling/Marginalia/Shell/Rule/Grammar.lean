import Marginalia.Shell.Rule.Token

/-!
# The grammar of rules

Programs from their words and signs. Binary operators are held in a table of levels,
the weakest first; a level takes its operands from the next one. Texts that stand
side by side are joined, which binds stronger than a comparison and weaker than a sum.
The reading lowers an amount of fuel at each step down, and a program has enough of it.
A fault in a statement is kept in mind, and the reading goes on after that statement.
-/

namespace Marginalia.Shell.Rule

/-- Where a statement stands. -/
inductive Site where
  | border | rule | function
  deriving DecidableEq, Repr

/-- Where the reading of a program stands. -/
structure Reading where
  rest : List Item
  /-- How many parentheses and braces are open. -/
  parentheses : Nat := 0
  braces : Nat := 0
  /-- How many loops are open. -/
  loops : Nat := 0
  site : Site := .rule
  /-- How many rules so far apply from one record to another. -/
  spans : Nat := 0
  /-- The functions that are called, with the number of arguments and the line. -/
  calls : List (Text × Nat × Nat) := []
  /-- What was wrong so far, the last thing first. -/
  faults : List Text := []

/-- What reads a part of a program, or stops with a message about what is wrong. -/
abbrev Reads (α : Type) := ExceptT Text (StateM Reading) α

namespace Reads

/-- The next word or sign. -/
def peek : Reads Token := do return ((← get).rest.head?.map (·.1)).getD .finish

/-- The line of the next word or sign. -/
def line : Reads Nat := do return ((← get).rest.head?.map (·.2)).getD 0

/-- Goes on after the next word or sign. -/
def advance : Reads Unit :=
  modify fun r =>
    let r := match r.rest with
      | (.sign "(", _) :: _ => { r with parentheses := r.parentheses + 1 }
      | (.sign ")", _) :: _ => { r with parentheses := r.parentheses - 1 }
      | (.sign "\x7b", _) :: _ => { r with braces := r.braces + 1 }
      | (.sign "\x7d", _) :: _ => { r with braces := r.braces - 1 }
      | _ => r
    { r with rest := r.rest.tail }

/-- A message about the line of the next word or sign. -/
def onLine (message : Text) : Reads Text := do
  return "line ".toList ++ Text.ofNat (← line) ++ ": ".toList ++ message

/-- Keeps in mind that something is wrong in the line of the next word or sign. -/
def blame (message : Text) : Reads Unit := do
  let message ← onLine message
  modify fun r => { r with faults := message :: r.faults }

/-- Whether a missing parenthesis shows at a word or sign. -/
def endsGroup : Token → Bool
  | .finish | .newline | .sign ";" | .sign "\x7d" => true
  | _ => false

/-- Whether a missing brace shows at a word or sign. -/
def endsBlock : Token → Bool
  | .finish | .keyword "BEGIN" | .keyword "END" => true
  | _ => false

/-- Fails at the next word or sign. -/
def stuck : Reads α := do
  let reading ← get
  let token ← peek
  match token with
  | .wrong message => throw message
  | token =>
    if reading.parentheses ≠ 0 && endsGroup token then
      set { reading with parentheses := 0 }
      throw (← onLine ("missing ) near ".toList ++ token.shown))
    else if reading.braces ≠ 0 && endsBlock token then
      throw (← onLine ("missing \x7d near ".toList ++ token.shown))
    else throw (← onLine ("syntax error at or near ".toList ++ token.shown))

/-- Whether the next sign is this one. -/
def sees (written : String) : Reads Bool := do
  match ← peek with
  | .sign other => return other == written
  | _ => return false

/-- Whether the next word is this one. -/
def seesWord (written : String) : Reads Bool := do
  match ← peek with
  | .keyword other => return other == written
  | _ => return false

/-- Goes on after a sign, if it is the next one. -/
def accept (written : String) : Reads Bool := do
  if ← sees written then
    advance
    return true
  else return false

/-- Goes on after a sign, which has to be the next one. -/
def expect (written : String) : Reads Unit := do
  if !(← accept written) then stuck

/-- Goes on after newlines. -/
def skipNewlines : Nat → Reads Unit
  | 0 => pure ()
  | fuel + 1 => do
    match ← peek with
    | .newline => do
      advance
      skipNewlines fuel
    | _ => pure ()

/-- Takes a name. -/
def aName : Reads Text := do
  match ← peek with
  | .name name => do
    advance
    return name
  | _ => stuck

/-- The expression that a text writes. -/
def aPattern (source : Text) : Reads Regex := do
  match Pattern.parse source with
  | .ok regex => return regex
  | .error fault => do
    blame ("regular expression compile failed (".toList ++ fault.message ++ ")\n".toList ++ source)
    return .empty

/-- A term that stands for an expression; a constant text is one. -/
def patternTerm (t : Term) : Reads Term := do
  match t with
  | .text source => return .pattern (← aPattern source)
  | t => return t

/-- The arguments of a function, where some are expressions. -/
def patternArguments (builtin : Builtin) (arguments : List Term) : Reads (List Term) := do
  match builtin, arguments with
  | .replaceAll, first :: others | .replaceFirst, first :: others =>
    return (← patternTerm first) :: others
  | .find, [first, second] => return [first, ← patternTerm second]
  | .split, [first, second, .text (c :: d :: source)] =>
    return [first, second, ← patternTerm (.text (c :: d :: source))]
  | _, arguments => return arguments

end Reads

open Reads

/-! ## Terms -/

/-- How many levels of binary operators there are. -/
def levels : Nat := 8

/-- The level of the operators that ask whether an expression matches. -/
def matchLevel : Nat := 3

/-- The level at which terms are joined that stand side by side. -/
def joinLevel : Nat := 5

/-- What an operator of a level makes of two terms; without `outputs`, it may be the sign for
greater values. -/
def combine? (level : Nat) (outputs : Bool) (written : String) : Option (Term → Term → Term) :=
  match level, written with
  | 0, "||" => some .either
  | 1, "&&" => some .both
  | 3, "~" => some (.matching false)
  | 3, "!~" => some (.matching true)
  | 4, "<" => some (.relation .less)
  | 4, "<=" => some (.relation .atMost)
  | 4, "==" => some (.relation .equal)
  | 4, "!=" => some (.relation .unequal)
  | 4, ">=" => if outputs then none else some (.relation .atLeast)
  | 4, ">" => if outputs then none else some (.relation .greater)
  | 6, "+" => some (.arithmetic .plus)
  | 6, "-" => some (.arithmetic .minus)
  | 7, "*" => some (.arithmetic .times)
  | 7, "/" => some (.arithmetic .over)
  | 7, "%" => some (.arithmetic .modulo)
  | _, _ => none

/-- The operator in a sign that assigns. -/
def assignment? : String → Option (Option Operator)
  | "=" => some none
  | "+=" => some (some .plus)
  | "-=" => some (some .minus)
  | "*=" => some (some .times)
  | "/=" => some (some .over)
  | "%=" => some (some .modulo)
  | "^=" => some (some .power)
  | _ => none

/-- Whether a term that stands beside another one can start with this. -/
def Token.startsOperand : Token → Bool
  | .sign written => ["(", "$", "!", "++", "--"].contains written
  | .builtin _ | .name _ | .function _ | .number .. | .text _ | .pattern _ => true
  | _ => false

mutual

/-- Reads a term; with `outputs`, a sign for greater values leads to a file. -/
def term : (fuel : Nat) → (outputs : Bool) → Reads Term
  | 0, _ => stuck
  | fuel + 1, outputs => do
    let condition ← binary fuel 0 outputs
    if ← accept "?" then
      let accepted ← term fuel outputs
      skipNewlines 1
      expect ":"
      return .choice condition accepted (← term fuel outputs)
    else return condition

/-- Reads a term of a level. -/
def binary : (fuel : Nat) → (level : Nat) → (outputs : Bool) → Reads Term
  | 0, _, _ => stuck
  | fuel + 1, level, outputs => do
    if level = levels then unary fuel outputs
    else
      let first ← binary fuel (level + 1) outputs
      binaryFrom fuel level outputs first

/-- Reads the operators of a level and their operands after the first operand. -/
def binaryFrom : (fuel : Nat) → (level : Nat) → (outputs : Bool) → Term → Reads Term
  | 0, _, _, _ => stuck
  | fuel + 1, level, outputs, first => do
    match ← peek with
    | .keyword "in" =>
      if level = 2 then
        advance
        let table ← aName
        binaryFrom fuel level outputs (.member [first] table)
      else return first
    | token =>
      let combine := match token with
        | .sign written => combine? level outputs written
        | _ => none
      match combine with
      | some combine => do
        advance
        let second ← binary fuel (level + 1) outputs
        let second ← if level = matchLevel then patternTerm second else pure second
        binaryFrom fuel level outputs (combine first second)
      | none =>
        if level = joinLevel && token.startsOperand then
          let second ← binary fuel (level + 1) outputs
          binaryFrom fuel level outputs (.join first second)
        else return first

/-- Reads a term with signs before it. -/
def unary : (fuel : Nat) → (outputs : Bool) → Reads Term
  | 0, _ => stuck
  | fuel + 1, outputs => do
    if ← accept "!" then return .not (← unary fuel outputs)
    else if ← accept "-" then return .sign true (← unary fuel outputs)
    else if ← accept "+" then return .sign false (← unary fuel outputs)
    else
      let first ← power fuel outputs
      pipedFrom fuel first

/-- Reads what takes a line from the output of a command. -/
def pipedFrom : (fuel : Nat) → Term → Reads Term
  | 0, _ => stuck
  | fuel + 1, command => do
    match (← get).rest with
    | (.sign "|", _) :: (.keyword "getline", _) :: _ => do
      advance
      advance
      let target ← inputTarget fuel
      pipedFrom fuel (.readCommand command target)
    | _ => return command

/-- Reads a power. -/
def power : (fuel : Nat) → (outputs : Bool) → Reads Term
  | 0, _ => stuck
  | fuel + 1, outputs => do
    let base ← stepped fuel outputs
    if ← accept "^" then
      let isSigned := (← sees "-") || (← sees "+") || (← sees "!")
      let exponent ← if isSigned then unary fuel outputs else power fuel outputs
      return .arithmetic .power base exponent
    else return base

/-- Reads a simple term, and what is assigned to it. -/
def stepped : (fuel : Nat) → (outputs : Bool) → Reads Term
  | 0, _ => stuck
  | fuel + 1, outputs => do
    let first ← simple fuel
    if !first.isTarget then return first
    else if ← accept "++" then return .step false true first
    else if ← accept "--" then return .step false false first
    else
      match ← peek with
      | .sign written =>
        match assignment? written with
        | some operator => do
          advance
          return .assign operator first (← term fuel outputs)
        | none => return first
      | _ => return first

/-- Reads the place that an input line goes to, if one is given. -/
def inputTarget : (fuel : Nat) → Reads (Option Term)
  | 0 => stuck
  | fuel + 1 => do
    match ← peek with
    | .name _ | .sign "$" => return some (← simple fuel)
    | _ => return none

/-- Reads a constant, a place, a call or a term in parentheses. -/
def simple : (fuel : Nat) → Reads Term
  | 0 => stuck
  | fuel + 1 => do
    match ← peek with
    | .number _ x => do
      advance
      return .number x
    | .text t => do
      advance
      return .text t
    | .pattern source => do
      let regex ← aPattern source
      advance
      return .pattern regex
    | .name name => do
      advance
      if ← accept "[" then
        let subscripts ← terms fuel
        expect "]"
        return .element name subscripts
      else return .name name
    | .function name => do
      let line ← line
      advance
      let arguments ← inParentheses fuel
      modify fun r => { r with calls := (name, arguments.length, line) :: r.calls }
      return .call name arguments
    | .builtin entry => do
      advance
      let isBare := entry.least = 0 && !(← sees "(")
      let arguments ← if isBare then pure [] else inParentheses fuel
      if arguments.length < entry.least || entry.most < arguments.length then
        blame ("wrong number of arguments in call to ".toList ++ entry.name.toList)
      return .builtin entry.builtin (← patternArguments entry.builtin arguments)
    | .sign "$" => do
      advance
      return .field (← index fuel)
    | .sign "++" => do
      advance
      return .step true true (← place fuel)
    | .sign "--" => do
      advance
      return .step true false (← place fuel)
    | .sign "(" => do
      advance
      let first ← term fuel false
      if ← accept "," then
        let others ← terms fuel
        expect ")"
        if ← seesWord "in" then
          advance
          return .member (first :: others) (← aName)
        else stuck
      else
        expect ")"
        return .group first
    | .keyword "getline" => do
      advance
      let target ← inputTarget fuel
      if ← accept "<" then return .readFile (← stepped fuel true) target
      else return .readInput target
    | _ => stuck

/-- Reads the number of a field. -/
def index : (fuel : Nat) → Reads Term
  | 0 => stuck
  | fuel + 1 => do
    if (← sees "-") || (← sees "+") || (← sees "!") then unary fuel true
    else simple fuel

/-- Reads something that can be given a value. -/
def place : (fuel : Nat) → Reads Term
  | 0 => stuck
  | fuel + 1 => do
    let found ← simple fuel
    if found.isTarget then return found else stuck

/-- Reads terms with commas between them. -/
def terms : (fuel : Nat) → Reads (List Term)
  | 0 => stuck
  | fuel + 1 => do
    let first ← term fuel false
    if ← accept "," then return first :: (← terms fuel)
    else return [first]

/-- Reads arguments in parentheses. -/
def inParentheses : (fuel : Nat) → Reads (List Term)
  | 0 => stuck
  | fuel + 1 => do
    expect "("
    if ← accept ")" then return []
    else
      let arguments ← terms fuel
      expect ")"
      return arguments

end

/-! ## Statements -/

/-- Whether a statement can end before this. -/
def Token.endsStatement : Token → Bool
  | .newline | .finish | .sign ";" | .sign "\x7d" => true
  | _ => false

/-- What follows the parenthesis that closes an open one. -/
def afterClosing : (depth : Nat) → List Item → List Item
  | _, [] => []
  | depth, (.sign "(", _) :: items => afterClosing (depth + 1) items
  | 0, (.sign ")", _) :: items => items
  | depth + 1, (.sign ")", _) :: items => afterClosing depth items
  | depth, _ :: items => afterClosing depth items

/-- Whether all that is printed stands in parentheses that begin here. -/
def isInParentheses : List Item → Bool
  | (.sign "(", _) :: items =>
    match afterClosing 0 items with
    | [] => true
    | (.sign written, _) :: _ => [">", ">>", "|", ";", "\x7d"].contains written
    | (token, _) :: _ => token.endsStatement
  | _ => false

/-- Reads terms with commas between them, before what leads to a file. -/
def outputTerms : (fuel : Nat) → Reads (List Term)
  | 0 => stuck
  | fuel + 1 => do
    let first ← term fuel true
    if ← accept "," then return first :: (← outputTerms fuel)
    else return [first]

/-- Reads what is printed and where it goes. -/
def printed (fuel : Nat) (formatted : Bool) : Reads Statement := do
  let terms ← if isInParentheses (← get).rest then inParentheses fuel else do
    match ← peek with
    | .sign ">" | .sign ">>" | .sign "|" => pure []
    | token => if token.endsStatement then pure [] else outputTerms fuel
  if formatted && terms.isEmpty then blame "no arguments in call to printf".toList
  let route := match ← peek with
    | .sign ">" => some Route.file
    | .sign ">>" => some .append
    | .sign "|" => some .command
    | _ => none
  match route with
  | none => return .print formatted terms none
  | some route => do
    advance
    return .print formatted terms (some (route, ← term fuel true))

/-- Reads the end of a statement. -/
def endStatement : Reads Unit := do
  match ← peek with
  | .newline | .sign ";" => advance
  | .sign "\x7d" => pure ()
  | _ => stuck

/-- Reads a statement that holds no other one. -/
def plainStatement (fuel : Nat) : Reads Statement := do
  let reading ← get
  let word := match ← peek with
    | .keyword written => written
    | _ => ""
  let optional : Reads (Option Term) := do
    if (← peek).endsStatement then return none else return some (← term fuel false)
  let jump := fun (isAllowed : Bool) (message : String) (statement : Statement) => do
    if !isAllowed then blame message.toList
    advance
    return statement
  match word with
  | "print" => do
    advance
    printed fuel false
  | "printf" => do
    advance
    printed fuel true
  | "next" => jump (reading.site ≠ .border) "improper use of next" .skipRecord
  | "nextfile" => jump (reading.site ≠ .border) "improper use of nextfile" .skipFile
  | "break" => jump (reading.loops ≠ 0) "break statement outside of loop" .breakLoop
  | "continue" => jump (reading.loops ≠ 0) "continue statement outside of loop" .continueLoop
  | "exit" => do
    advance
    return .finish (← optional)
  | "return" => do
    if reading.site ≠ .function then blame "return outside function body".toList
    advance
    return .answer (← optional)
  | "delete" => do
    advance
    let table ← aName
    if ← accept "[" then
      let subscripts ← terms fuel
      expect "]"
      return .delete table (some subscripts)
    else return .delete table none
  | _ => return .value (← term fuel false)

/-- Reads a part of a loop as one loop deeper. -/
def inLoop (read : Reads Statement) : Reads Statement := do
  modify fun r => { r with loops := r.loops + 1 }
  let body ← read
  modify fun r => { r with loops := r.loops - 1 }
  return body

/-- Goes on to where a statement ends. -/
def skipStatement : (fuel : Nat) → Reads Unit
  | 0 => pure ()
  | fuel + 1 => do
    match ← peek with
    | .newline | .sign ";" => advance
    | .sign "\x7d" | .finish => pure ()
    | .wrong message => throw message
    | _ => do
      advance
      skipStatement fuel

/-- Reads a statement, or goes on after it if something is wrong with it. -/
def recovering (fuel : Nat) (read : Reads Statement) : Reads Statement := do
  let loops := (← get).loops
  tryCatch read fun message => do
    match ← peek with
    | .wrong _ | .finish => throw message
    | _ => do
      modify fun r => { r with loops, parentheses := 0, faults := message :: r.faults }
      skipStatement fuel
      return .nothing

/-- Reads a condition in parentheses, and newlines after it. -/
def conditionBefore (fuel : Nat) : Reads Term := do
  expect "("
  let condition ← term fuel false
  expect ")"
  skipNewlines fuel
  return condition

mutual

/-- Reads a statement. -/
def statement : (fuel : Nat) → Reads Statement
  | 0 => stuck
  | fuel + 1 => do
    match ← peek with
    | .sign "\x7b" => block fuel
    | .sign ";" | .newline => do
      advance
      return .nothing
    | .sign "\x7d" => return .nothing
    | .keyword "if" => do
      advance
      let condition ← conditionBefore fuel
      let accepted ← statement fuel
      if ← seesWord "else" then
        advance
        return .choice condition accepted (some (← statement fuel))
      else return .choice condition accepted none
    | .keyword "while" => do
      advance
      let condition ← conditionBefore fuel
      return .loop true condition (← inLoop (statement fuel))
    | .keyword "do" => do
      advance
      let body ← inLoop (statement fuel)
      skipNewlines fuel
      if !(← seesWord "while") then stuck
      advance
      expect "("
      let condition ← term fuel false
      expect ")"
      endStatement
      return .loop false condition body
    | .keyword "for" => do
      advance
      expect "("
      match (← get).rest with
      | (.name name, _) :: (.keyword "in", _) :: (.name table, _) :: (.sign ")", _) :: _ => do
        advance
        advance
        advance
        advance
        skipNewlines fuel
        return .iteration name table (← inLoop (statement fuel))
      | _ => do
        let start ← if ← sees ";" then pure none else some <$> term fuel false
        expect ";"
        let condition ← if ← sees ";" then pure none else some <$> term fuel false
        expect ";"
        let next ← if ← sees ")" then pure none else some <$> term fuel false
        expect ")"
        skipNewlines fuel
        return .steps start condition next (← inLoop (statement fuel))
    | _ => do
      let found ← plainStatement fuel
      endStatement
      return found

/-- Reads statements in braces. -/
def block : (fuel : Nat) → Reads Statement
  | 0 => stuck
  | fuel + 1 => do
    expect "\x7b"
    return .sequence (← statements fuel)

/-- Reads statements up to a closing brace. -/
def statements : (fuel : Nat) → Reads (List Statement)
  | 0 => stuck
  | fuel + 1 => do
    if ← accept "\x7d" then return []
    else
      let first ← recovering fuel (statement fuel)
      return first :: (← statements fuel)

end

/-! ## Programs -/

/-- Reads a statement in braces where it may stand. -/
def blockAt (fuel : Nat) (site : Site) : Reads Statement := do
  modify fun r => { r with site }
  let body ← block fuel
  modify fun r => { r with site := .rule }
  return body

/-- Reads the names of the parameters of a function. -/
def parameters : (fuel : Nat) → Reads (List Text)
  | 0 => stuck
  | fuel + 1 => do
    if ← accept ")" then return []
    else
      let name ← aName
      if ← accept "," then return name :: (← parameters fuel)
      else
        expect ")"
        return [name]

/-- Reads what a rule does; without a statement it prints the record. -/
def ruleBody (fuel : Nat) : Reads Statement := do
  if ← sees "\x7b" then blockAt fuel .rule else return .print false [] none

/-- Reads rules and functions to the end. -/
def program : (fuel : Nat) → Program → Reads Program
  | 0, found => pure found
  | fuel + 1, found => do
    match ← peek with
    | .finish => return found
    | .newline | .sign ";" => do
      advance
      program fuel found
    | .keyword "BEGIN" => do
      advance
      let body ← blockAt fuel .border
      program fuel { found with before := found.before ++ [body] }
    | .keyword "END" => do
      advance
      let body ← blockAt fuel .border
      program fuel { found with after := found.after ++ [body] }
    | .keyword "function" | .keyword "func" => do
      advance
      let name ← match ← peek with
        | .function name => do
          advance
          pure name
        | _ => aName
      expect "("
      let parameters ← parameters fuel
      skipNewlines fuel
      let body ← blockAt fuel .function
      program fuel { found with functions := found.functions ++ [(name, ⟨parameters, body⟩)] }
    | .sign "\x7b" => do
      let body ← ruleBody fuel
      program fuel { found with rules := found.rules ++ [(.always, body)] }
    | _ => do
      let first ← term fuel false
      let condition ← if ← accept "," then do
          let last ← term fuel false
          let spans := (← get).spans
          modify fun r => { r with spans := spans + 1 }
          pure (Condition.between spans first last)
        else pure (Condition.when first)
      if !(← sees "\x7b") then endStatement
      let body ← ruleBody fuel
      program fuel { found with rules := found.rules ++ [(condition, body)] }

/-- What is wrong with the calls of a program. -/
def badCall? (found : Program) (lastLine : Nat) (calls : List (Text × Nat × Nat)) :
    Option Text :=
  calls.reverse.findSome? fun (name, count, line) =>
    let about := fun (line : Nat) (message : Text) =>
      some ("line ".toList ++ Text.ofNat line ++ ": ".toList ++ message)
    match found.functions.lookup name with
    | none => about lastLine ("function ".toList ++ name ++ " never defined".toList)
    | some function =>
      if function.parameters.length < count then
        about line ("too many arguments in call to ".toList ++ name)
      else none

/-- Takes out what closes nothing, with a message for each. -/
def balanced : (parentheses braces : Nat) → List Item → List Item × List Text
  | _, _, [] => ([], [])
  | parentheses, braces, (token, line) :: items =>
    let keep := fun (rest : List Item × List Text) => ((token, line) :: rest.1, rest.2)
    let extra := fun (sign : Char) =>
      "line ".toList ++ Text.ofNat line ++ ": extra '".toList ++ [sign, '\'']
    match token with
    | .sign "(" => keep (balanced (parentheses + 1) braces items)
    | .sign "\x7b" => keep (balanced parentheses (braces + 1) items)
    | .sign ")" =>
      if parentheses = 0 then
        let (rest, messages) := balanced 0 braces items
        (rest, extra ')' :: messages)
      else keep (balanced (parentheses - 1) braces items)
    | .sign "\x7d" =>
      if braces = 0 then
        let (rest, messages) := balanced parentheses 0 items
        let isLast := items.all fun (_, other) => line < other
        let more := if isLast then
            ["line ".toList ++ Text.ofNat line ++ ": syntax error at or near end of line".toList]
          else []
        (rest, extra '\x7d' :: more ++ messages)
      else keep (balanced parentheses (braces - 1) items)
    | _ => keep (balanced parentheses braces items)

/-- How many faults are told. -/
def faultLimit : Nat := 5

/-- The program that a text writes, or what is wrong with it. -/
def parse (source : Text) : Except (List Text) Program :=
  let (items, extra) := balanced 0 0 (itemsOf source)
  let fuel := 16 * items.length + 64
  let (result, reading) := (program fuel {}).run.run { rest := items }
  let lastLine := (items.getLast?.map (·.2)).getD 1
  let faults := extra ++ reading.faults.reverse
  match result with
  | .error message => .error ((faults ++ [message]).take faultLimit)
  | .ok found =>
    if faults ≠ [] then .error (faults.take faultLimit)
    else
      match badCall? found lastLine reading.calls with
      | some message => .error [message]
      | none => .ok found

end Marginalia.Shell.Rule
