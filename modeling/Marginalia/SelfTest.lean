import Marginalia.Highlighter.Basic

/-!
# The self-test

Checks for each language that its divider survives the highlighter. Languages of
one name share a lexer and are tried once. A failure of the generator's own kind
is an outcome; any other ends the test.
-/

namespace Marginalia

/-- How the test of one language came out. -/
structure Outcome where
  language : Language
  failure : Option Failure := none

/-- The line that reports an outcome. -/
def Outcome.line (outcome : Outcome) : Text :=
  match outcome.failure with
  | none => "[ok] ".toList ++ outcome.language.name
  | some failure =>
    "[ERR] ".toList ++ outcome.language.name ++ ": ".toList ++ failure.message

namespace SelfTest

/-- The first language of each name, in order. -/
def firstOfName (seen : List Text) : List Language → List Language
  | [] => []
  | language :: languages =>
    if seen.contains language.name then firstOfName seen languages
    else language :: firstOfName (language.name :: seen) languages

/-- The outcome of a check, unless it failed in a way that is not the generator's own. -/
def outcomeOf (language : Language) : Except Failure Unit → Except Failure Outcome
  | .ok _ => .ok { language }
  | .error failure =>
    if failure.isOwn then .ok { language, failure := some failure } else .error failure

/-- Tries languages one after the other. -/
def tryEach (highlighter : Highlighter) (disk : Disk) : List Language → Traced (List Outcome)
  | [] => { result := .ok [], disk }
  | language :: languages =>
    let verdict := highlighter.verifyDivider disk language
    match outcomeOf language verdict.result with
    | .error failure => { verdict with result := .error failure }
    | .ok outcome =>
      let others := tryEach highlighter verdict.disk languages
      { result := others.result.map (outcome :: ·)
        disk := others.disk
        calls := verdict.calls ++ others.calls
        notices := verdict.notices ++ others.notices }

/-- The outcomes for the given languages, each name once. -/
def run (highlighter : Highlighter) (disk : Disk) (languages : List Language) :
    Traced (List Outcome) :=
  tryEach highlighter disk (firstOfName [] languages)

end SelfTest
end Marginalia
