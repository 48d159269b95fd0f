import Marginalia.Shell.Regex

/-!
# Rules over records

The programs of rules that go through a text record by record. A rule has a
condition and a statement; what holds before the first record and after the last
one stands apart. Terms and statements are trees, and a name is a variable, a
table or a function by the place it stands in.
-/

namespace Marginalia.Shell.Rule

/-- What is done with two numbers. -/
inductive Operator where
  | plus | minus | times | over | modulo | power
  deriving DecidableEq, Repr

/-- How two values are compared. -/
inductive Relation where
  | less | atMost | equal | unequal | atLeast | greater
  deriving DecidableEq, Repr

/-- The functions that every program can call. -/
inductive Builtin where
  | arctangent | close | cosine | exponential | flush | replaceAll | position | integral
  | length | logarithm | find | random | sine | split | formatted | root | seed | replaceFirst
  | part | system | lower | upper
  deriving DecidableEq, Repr

/-- The name of such a function, and the least and the largest number of its arguments. -/
structure Builtin.Entry where
  name : String
  builtin : Builtin
  least : Nat
  most : Nat

/-- The functions that every program can call, by name. -/
def Builtin.entries : List Builtin.Entry :=
  [⟨"atan2", arctangent, 2, 2⟩, ⟨"close", close, 1, 1⟩, ⟨"cos", cosine, 1, 1⟩,
    ⟨"exp", exponential, 1, 1⟩, ⟨"fflush", flush, 0, 1⟩, ⟨"gsub", replaceAll, 2, 3⟩,
    ⟨"index", position, 2, 2⟩, ⟨"int", integral, 1, 1⟩, ⟨"length", length, 0, 1⟩,
    ⟨"log", logarithm, 1, 1⟩, ⟨"match", find, 2, 2⟩, ⟨"rand", random, 0, 0⟩,
    ⟨"sin", sine, 1, 1⟩, ⟨"split", split, 2, 3⟩, ⟨"sprintf", formatted, 1, 255⟩,
    ⟨"sqrt", root, 1, 1⟩, ⟨"srand", seed, 0, 1⟩, ⟨"sub", replaceFirst, 2, 3⟩,
    ⟨"substr", part, 2, 3⟩, ⟨"system", system, 1, 1⟩, ⟨"tolower", lower, 1, 1⟩,
    ⟨"toupper", upper, 1, 1⟩]

/-- What has a value. -/
inductive Term where
  | number (x : Float)
  | text (t : Text)
  /-- A regular expression; by itself it asks whether the record matches. -/
  | pattern (regex : Regex)
  | name (name : Text)
  | element (table : Text) (subscripts : List Term)
  | field (index : Term)
  /-- A term in parentheses, which is no place. -/
  | group (t : Term)
  | not (t : Term)
  | sign (isNegative : Bool) (t : Term)
  | arithmetic (operator : Operator) (a b : Term)
  | relation (relation : Relation) (a b : Term)
  | join (a b : Term)
  | matching (isNegated : Bool) (text regex : Term)
  | both (a b : Term)
  | either (a b : Term)
  | choice (condition accepted rejected : Term)
  | member (subscripts : List Term) (table : Text)
  | assign (operator : Option Operator) (target value : Term)
  /-- Adds one to a number or takes one off, before or after its value is taken. -/
  | step (isBefore isUp : Bool) (target : Term)
  | call (function : Text) (arguments : List Term)
  | builtin (builtin : Builtin) (arguments : List Term)
  | readInput (target : Option Term)
  | readFile (file : Term) (target : Option Term)
  | readCommand (command : Term) (target : Option Term)

/-- Whether a term names something that can be given a value. -/
def Term.isTarget : Term → Bool
  | .name _ | .element .. | .field _ => true
  | _ => false

/-- Where printed texts go. -/
inductive Route where
  | file | append | command
  deriving DecidableEq, Repr

/-- What is done. -/
inductive Statement where
  | nothing
  | value (t : Term)
  /-- Prints values; if it is `formatted`, the first one is a format. -/
  | print (formatted : Bool) (terms : List Term) (goal : Option (Route × Term))
  | sequence (statements : List Statement)
  | choice (condition : Term) (accepted : Statement) (rejected : Option Statement)
  /-- A loop with its condition before or after the body. -/
  | loop (isBefore : Bool) (condition : Term) (body : Statement)
  | steps (start : Option Term) (condition : Option Term) (next : Option Term) (body : Statement)
  | iteration (name table : Text) (body : Statement)
  /-- Takes out an element of a table, or all of them. -/
  | delete (table : Text) (subscripts : Option (List Term))
  | skipRecord
  | skipFile
  | finish (status : Option Term)
  | answer (value : Option Term)
  | breakLoop
  | continueLoop

/-- When a rule applies. -/
inductive Condition where
  | always
  | when (t : Term)
  /-- From a record that satisfies the first term to one that satisfies the last. -/
  | between (index : Nat) (first last : Term)

/-- A function of a program. -/
structure Function where
  parameters : List Text
  body : Statement

/-- A program. -/
structure Program where
  before : List Statement := []
  rules : List (Condition × Statement) := []
  after : List Statement := []
  functions : List (Text × Function) := []

end Marginalia.Shell.Rule
