import Marginalia.Dict
import Marginalia.Shell.Regex

/-!
# The stream editor

Instructions that are carried out on every line of an input. A script is a flat list
of instructions; blocks and branches are jumps in that list. An instruction names the
lines it is about by addresses. A pattern may be left empty; then the one that was
looked for last is meant.
-/

namespace Marginalia.Shell.Editor

/-- How the letters of a replacement are written. -/
inductive Case where
  | plain
  | upper
  | lower
  deriving DecidableEq, Repr

/-- A piece of a replacement. -/
inductive Filler where
  | char (c : Char)
  /-- What a group matched; the number zero is the whole match. -/
  | group (index : Nat)
  /-- From here on letters are written in a case. -/
  | cased (case : Case)
  /-- The next letter is written in a case. -/
  | casedNext (case : Case)
  deriving DecidableEq, Repr

/-- The last group that a replacement asks for. -/
def lastGroup (fillers : List Filler) : Nat :=
  fillers.foldl (fun last filler => match filler with
    | .group index => max last index
    | _ => last) 0

/-- A pattern that lines are searched for. -/
structure Search where
  pattern : Regex
  anyCase : Bool := false
  /-- How many groups the pattern has. -/
  groups : Nat := 0

/-- A substitution. -/
structure Substitution where
  /-- What is searched for; none stands for the last search. -/
  search : Option Search
  replacement : List Filler
  /-- Whether all matches are replaced, from the first that counts. -/
  everywhere : Bool := false
  /-- Which match is the first that counts, if that is said. -/
  first : Option Nat := none
  /-- Whether the line is printed after a replacement. -/
  prints : Bool := false
  /-- The file that the line is written to after a replacement. -/
  target : Option Text := none

/-- Which lines an instruction is about. -/
inductive Address where
  | line (number : Nat)
  | last
  /-- The lines in which a search finds something; none stands for the last search. -/
  | matching (search : Option Search)
  /-- Every so many lines. -/
  | every (first step : Nat)

/-- Where a range of lines ends. -/
inductive Limit where
  | address (address : Address)
  | further (count : Nat)
  /-- The next line, after the first one, whose number is a multiple. -/
  | multiple (factor : Nat)

/-- The conditions of a jump. -/
inductive Condition where
  | always
  | replaced
  | notReplaced
  deriving DecidableEq, Repr

/-- What an instruction does. -/
inductive Action where
  | substitute (substitution : Substitution)
  | replaceEach (pairs : List (Char × Char))
  | print
  | printFirst
  | delete
  | deleteFirst
  | quit (prints : Bool) (status : Nat)
  | number
  | append (text : Text)
  | insert (text : Text)
  | change (text : Text)
  /-- Prints a file at the end of the cycle. -/
  | copy (path : Text)
  /-- Prints the next line of a file at the end of the cycle. -/
  | copyLine (path : Text)
  /-- Writes the line, or its first line, to a file. -/
  | write (isFirst : Bool) (path : Text)
  /-- Prints the line with escapes, folded at a width. -/
  | reveal (width : Option Nat)
  /-- Prints the name of the input. -/
  | inputName
  | advance
  | join
  | hold
  | holdMore
  | recall
  | recallMore
  | exchange
  | clear
  | label (name : Text)
  | branch (condition : Condition) (name : Text)
  | opening
  | closing

/-- An instruction and the lines it is about. -/
structure Instruction where
  start : Option Address := none
  limit : Option Limit := none
  negated : Bool := false
  action : Action

/-- Why a script of the editor makes no sense. -/
inductive Fault where
  | unknown (command : Char)
  | missing
  | unterminatedAddress
  | unterminated (command : Char)
  | unknownFlag
  | repeatedFlag (letter : Char)
  | repeatedNumber
  | zeroNumber
  | extra
  | differentLengths
  | unexpectedClosing
  | unmatchedOpening
  | unexpectedComma
  | badFirst
  | lineZero
  | repeatedNegation
  | needlessAddress (command : Char)
  | needlessComment
  | needlessLimit
  | noText
  | noLabelName
  | modifiedEmpty
  | newerVersion
  | regex (fault : Regex.Fault)
  /-- A set that looks like the name of a class. -/
  | confusingSet
  | noLabel (name : Text)
  /-- A replacement that asks for a group that the pattern lacks. -/
  | noGroup (index : Nat)
  | noFile
  | noSearch
  | forbidden
  | recursiveEscape
  deriving DecidableEq, Repr

/-- A fault in words. -/
def Fault.message : Fault → Text
  | .unknown c => "unknown command: `".toList ++ [c, '\'']
  | .missing => "missing command".toList
  | .unterminatedAddress => "unterminated address regex".toList
  | .unterminated c => "unterminated `".toList ++ c :: "' command".toList
  | .unknownFlag => "unknown option to `s'".toList
  | .repeatedFlag c => "multiple `".toList ++ c :: "' options to `s' command".toList
  | .repeatedNumber => "multiple number options to `s' command".toList
  | .zeroNumber => "number option to `s' command may not be zero".toList
  | .extra => "extra characters after command".toList
  | .differentLengths => "strings for `y' command are different lengths".toList
  | .unexpectedClosing => "unexpected `\x7d'".toList
  | .unmatchedOpening => "unmatched `\x7b'".toList
  | .unexpectedComma => "unexpected `,'".toList
  | .badFirst => "invalid usage of +N or ~N as first address".toList
  | .lineZero => "invalid usage of line address 0".toList
  | .repeatedNegation => "multiple `!'s".toList
  | .needlessAddress '\x7d' => "`\x7d' doesn't want any addresses".toList
  | .needlessAddress c => c :: " doesn't want any addresses".toList
  | .needlessComment => "comments don't accept any addresses".toList
  | .needlessLimit => "command only uses one address".toList
  | .noText => "expected \\ after `a', `c' or `i'".toList
  | .noLabelName => "\":\" lacks a label".toList
  | .modifiedEmpty => "cannot specify modifiers on empty regexp".toList
  | .newerVersion => "expected newer version of sed".toList
  | .regex fault => fault.message
  | .confusingSet => "character class syntax is [[:space:]], not [:space:]".toList
  | .noLabel name => "can't find label for jump to `".toList ++ name ++ ['\'']
  | .noGroup index =>
    "invalid reference \\".toList ++ Text.ofNat index ++ " on `s' command's RHS".toList
  | .noFile => "missing filename in r/R/w/W commands".toList
  | .noSearch => "no previous regular expression".toList
  | .forbidden => "e/r/w commands disabled in sandbox mode".toList
  | .recursiveEscape => "recursive escaping after \\c not allowed".toList

/-- Where a script stands: an expression among the arguments, or a file. -/
inductive Origin where
  | expression (number : Nat)
  | file (name : Text)
  deriving DecidableEq, Repr

/-- What the editor says about a fault that shows after so many characters or in a line. -/
def Origin.complaint (origin : Origin) (position line : Nat) (fault : Fault) : Text :=
  let place := match fault, origin with
    | .confusingSet, _ | .noLabel _, _ => []
    | _, .expression number =>
      "-e expression #".toList ++ Text.ofNat number ++ ", char ".toList ++ Text.ofNat position ++
        ": ".toList
    | _, .file name =>
      "file ".toList ++ name ++ " line ".toList ++ Text.ofNat line ++ ": ".toList
  "sed: ".toList ++ place ++ fault.message ++ ['\n']

/-- The status with which the editor gives up because of a fault. -/
def Fault.status : Fault → Nat
  | .confusingSet | .noLabel _ => 4
  | _ => 1

end Marginalia.Shell.Editor
