import Marginalia.Shell.Request

/-!
# Programs that cut and join lines

Lines are made of characters, or of fields with a separator between them. One
program picks out some of them by their positions, one puts lines side by side, and
one joins the lines of two files that agree in a field.
-/

namespace Marginalia.Shell.Utility

/-! ## Positions -/

/-- Positions from one to another, counted from one; no last one is no limit. -/
structure Positions where
  first : Nat
  last : Option Nat
  deriving DecidableEq, Repr

/-- What is wrong with a list of positions. -/
inductive PositionFault where
  | zero
  | decreasing
  | endless
  | twice
  | unknown (text : Text)
  deriving DecidableEq, Repr

/-- A fault in words, for fields or for characters. -/
def PositionFault.message (ofFields : Bool) : PositionFault → Text
  | .zero =>
    (if ofFields then "fields are numbered from 1".toList
      else "byte/character positions are numbered from 1".toList)
  | .decreasing => "invalid decreasing range".toList
  | .endless => "invalid range with no endpoint: -".toList
  | .twice =>
    (if ofFields then "invalid field range".toList
      else "invalid byte or character range".toList)
  | .unknown text =>
    (if ofFields then "invalid field value ".toList
      else "invalid byte/character position ".toList) ++ quoted text

/-- The positions that one part of a list writes. -/
def positionsOf (piece : Text) : Except PositionFault Positions := do
  let low := piece.takeWhile Char.isDigit
  let start := if low = [] then none else some (ofDigits low)
  match piece.drop low.length with
  | [] => if ofDigits low = 0 then throw .zero else return { first := ofDigits low, last := start }
  | '-' :: rest =>
    if start = some 0 then throw .zero
    let high := rest.takeWhile Char.isDigit
    match rest.drop high.length with
    | '-' :: _ => throw .twice
    | [] =>
      match start, high with
      | none, [] => throw .endless
      | some n, [] => return { first := n, last := none }
      | start, high =>
        let first := start.getD 1
        if ofDigits high < first then throw .decreasing
        return { first, last := some (ofDigits high) }
    | rest => throw (.unknown rest)
  | rest => throw (.unknown rest)

/-- Positions in order, each list of which starts behind the one before. -/
def mergePositions : List Positions → List Positions
  | [] => []
  | a :: rest =>
    match mergePositions rest with
    | [] => [a]
    | b :: others =>
      if a.last.all (b.first ≤ ·) then
        let last := match a.last, b.last with
          | some m, some n => some (max m n)
          | _, _ => none
        { first := a.first, last } :: others
      else a :: b :: others

/-- The positions that a list writes, in order. -/
def positions (text : Text) : Except PositionFault (List Positions) := do
  let pieces := (Text.splitOn ',' text).flatMap fun piece =>
    (Text.splitOn ' ' piece).flatMap (Text.splitOn '\t')
  let all ← pieces.mapM positionsOf
  return mergePositions (all.mergeSort fun a b => decide (a.first ≤ b.first))

/-- All other positions. -/
def otherPositions (start : Nat) : List Positions → List Positions
  | [] => [{ first := start, last := none }]
  | a :: rest =>
    let before := if start < a.first then [{ first := start, last := some (a.first - 1) }] else []
    match a.last with
    | none => before
    | some last => before ++ otherPositions (last + 1) rest

/-- The pieces at positions. -/
def Positions.of (positions : Positions) (pieces : List α) : List α :=
  (match positions.last with
    | some last => pieces.take last
    | none => pieces).drop (positions.first - 1)

/-! ## Cutting -/

/-- What is wrong with the options for cutting, before their values are read. -/
def cutFault? (found : List (Char × Text)) : Option Text :=
  let lists := found.filter fun (letter, _) => "bcf".toList.contains letter
  let isBytes := !has found 'f'
  if found.any fun (letter, value) => letter == 'd' && 1 < value.length then
    some "the delimiter must be a single character".toList
  else if lists.isEmpty then
    some "you must specify a list of bytes, characters, or fields".toList
  else if 1 < lists.length then some "only one list may be specified".toList
  else if isBytes && has found 'd' then
    some "an input delimiter may be specified only when operating on fields".toList
  else if isBytes && has found 's' then
    some ("suppressing non-delimited lines makes sense\n".toList ++
      "\tonly when operating on fields".toList)
  else none

/-- Cuts characters or fields out of lines. -/
def cut (request : Request) : Effect :=
  withOptions request "b:c:d:f:nsz"
    [("bytes=", 'b'), ("characters=", 'c'), ("delimiter=", 'd'), ("fields=", 'f'),
      ("only-delimited", 's'), ("output-delimiter=", 'O'), ("complement", 'C'),
      ("zero-terminated", 'z')]
    fun found operands =>
      let list := ((found.find? fun (letter, _) => "bcf".toList.contains letter).map (·.2)).getD []
      match cutFault? found, positions list with
      | some message, _ => refuseUsage request message 1
      | none, .error fault => refuseUsage request (fault.message (has found 'f')) 1
      | none, .ok given =>
        let chosen := if has found 'C' then otherPositions 1 given else given
        let mark := lineMark found
        let onLines := fun (make : Text → List Text) =>
          each request operands fun text => endedBy mark ((linesAt mark text).flatMap make)
        if has found 'f' then
          let separator := match valueOf? found 'd' with
            | some (c :: _) => c
            | some [] => '\x00'
            | none => '\t'
          let joint := (valueOf? found 'O').getD [separator]
          onLines fun line =>
            if line.contains separator then
              let fields := Text.splitOn separator line
              [List.intercalate joint (chosen.flatMap (·.of fields))]
            else if has found 's' then []
            else [line]
        else
          let joint := (valueOf? found 'O').getD []
          onLines fun line =>
            [List.intercalate joint ((chosen.map (·.of line)).filter (· ≠ []))]

/-! ## Putting lines side by side -/

/-- The characters of a list of separators. -/
def separators (text : Text) : List Text :=
  match text with
  | [] => []
  | '\\' :: 'n' :: rest => ['\n'] :: separators rest
  | '\\' :: 't' :: rest => ['\t'] :: separators rest
  | '\\' :: '\\' :: rest => ['\\'] :: separators rest
  | '\\' :: '0' :: rest => [] :: separators rest
  | c :: rest => [c] :: separators rest

/-- Texts with separators between them, which are used in turn. -/
def joinWith (separators : List Text) (texts : List Text) : Text :=
  (texts.zipIdx).flatMap fun (text, k) =>
    if k = 0 then text
    else (separators[(k - 1) % max 1 separators.length]?).getD [] ++ text

/-- The lines of each operand; several that read the input take its lines in turn. -/
def linesOfEach (request : Request) (mark : Char) (operands : List Text) :
    List (Except Text (List Text)) :=
  let readers := operands.filter (· = ['-'])
  (operands.zipIdx).map fun (operand, k) =>
    match content request operand with
    | .error cause => .error (unreadable request operand cause)
    | .ok text =>
      if operand = ['-'] then
        let turn := ((operands.take k).filter (· = ['-'])).length
        .ok ((linesAt mark text).zipIdx.filterMap fun (line, n) =>
          if n % readers.length = turn then some line else none)
      else .ok (linesAt mark text)

/-- Puts lines side by side, or those of each file in a row. -/
def paste (request : Request) : Effect :=
  withOptions request "d:sz"
    [("delimiters=", 'd'), ("serial", 's'), ("zero-terminated", 'z')]
    fun found operands =>
      let operands := sources operands
      let marks := separators ((valueOf? found 'd').getD ['\t'])
      let mark := lineMark found
      let files := linesOfEach request mark operands
      match files.findSome? fun file => match file with
        | .error message => some message
        | .ok _ => none with
      | some message => { written := [(2, message)], status := 1 }
      | none =>
        let files := files.filterMap Except.toOption
        let rows :=
          if has found 's' then files.map (joinWith marks)
          else
            (List.range (files.foldl (fun n file => max n file.length) 0)).map fun k =>
              joinWith marks (files.map fun file => (file[k]?).getD [])
        { written := [(1, endedBy mark rows)], reads := readsInput operands }

/-! ## Joining lines that agree -/

/-- How lines of two files are joined. -/
structure Joining where
  separator : Option Char := none
  /-- The fields that have to agree, counted from one. -/
  keys : Nat × Nat := (1, 1)
  /-- Whether the lines of a file are shown that agree with none. -/
  showsAlone : Bool × Bool := (false, false)
  showsPairs : Bool := true
  /-- What stands for a field that is not there. -/
  filler : Text := []
  /-- The fields that are shown; the field that agrees has the file number zero. -/
  shown : Option (List (Nat × Nat)) := none
  anyCase : Bool := false
  deriving Repr

/-- The fields of a line. -/
def Joining.fields (joining : Joining) (line : Text) : List Text :=
  match joining.separator with
  | some c => Text.splitOn c line
  | none =>
    ((line.map fun c => if c = '\t' then ' ' else c) |> Text.splitOn ' ').filter (· ≠ [])

/-- The field of a line that has to agree. -/
def Joining.key (joining : Joining) (second : Bool) (fields : List Text) : Text :=
  let n := if second then joining.keys.2 else joining.keys.1
  let key := (fields[n - 1]?).getD []
  if joining.anyCase then key.map Char.toLower else key

/-- Two lines as one; one of them may be missing. -/
def Joining.row (joining : Joining) (first second : Option (List Text)) : Text :=
  let fill := fun (field : Option Text) => match field with
    | some (c :: rest) => c :: rest
    | _ => joining.filler
  let keyOf := fun (n : Nat) (fields : List Text) => (fields[n - 1]?).getD []
  let key := (first.map (keyOf joining.keys.1)).or (second.map (keyOf joining.keys.2))
  let others := fun (n : Nat) (fields : Option (List Text)) =>
    (fields.getD []).eraseIdx (n - 1)
  let cells := match joining.shown with
    | some shown => shown.map fun (file, n) =>
      match file with
      | 0 => fill key
      | 1 => fill (first.bind (·[n - 1]?))
      | _ => fill (second.bind (·[n - 1]?))
    | none =>
      (fill key :: others joining.keys.1 first ++ others joining.keys.2 second).map
        fun cell => fill (some cell)
  List.intercalate [joining.separator.getD ' '] cells

/-- The rows for the lines of two sorted files. -/
def Joining.rows (joining : Joining) : (fuel : Nat) → (first second : List (List Text)) → List Text
  | 0, _, _ => []
  | fuel + 1, first, second =>
    let alone := fun (isSecond : Bool) (fields : List Text) =>
      if isSecond then
        if joining.showsAlone.2 then [joining.row none (some fields)] else []
      else if joining.showsAlone.1 then [joining.row (some fields) none] else []
    match first, second with
    | [], rest => rest.flatMap (alone true)
    | rest, [] => rest.flatMap (alone false)
    | a :: as, b :: bs =>
      let key := joining.key false a
      let other := joining.key true b
      if key = other then
        let isSame := fun (isSecond : Bool) (fields : List Text) =>
          joining.key isSecond fields == key
        let firsts := (a :: as).takeWhile (isSame false)
        let seconds := (b :: bs).takeWhile (isSame true)
        (if joining.showsPairs then
            firsts.flatMap fun x => seconds.map fun y => joining.row (some x) (some y)
          else []) ++
          joining.rows fuel ((a :: as).drop firsts.length) ((b :: bs).drop seconds.length)
      else if Text.isLe key other then alone false a ++ joining.rows fuel as (b :: bs)
      else alone true b ++ joining.rows fuel (a :: as) bs

/-- The fields that a list names. -/
def shownFields (text : Text) : List (Nat × Nat) :=
  ((text.map fun c => if c = ' ' then ',' else c) |> Text.splitOn ',').filterMap fun piece =>
    match Text.cut? '.' piece with
    | some (file, field) => some (ofDigits file, ofDigits field)
    | none => if piece = ['0'] then some (0, 0) else none

/-- Joins the lines of two sorted files that agree in a field. -/
def join (request : Request) : Effect :=
  withOptions request "a:e:i1:2:j:o:t:v:z"
    [("ignore-case", 'i'), ("check-order", 'k'), ("nocheck-order", 'k'), ("header", 'h'),
      ("zero-terminated", 'z')]
    fun found operands =>
      let field := fun (letter : Char) =>
        (((valueOf? found letter).or (valueOf? found 'j')).bind natural?).getD 1
      let isGiven := fun (letter : Char) (value : String) =>
        found.contains (letter, value.toList)
      let joining : Joining :=
        { separator := (valueOf? found 't').bind List.head?
          keys := (field '1', field '2')
          showsAlone :=
            (isGiven 'a' "1" || isGiven 'v' "1", isGiven 'a' "2" || isGiven 'v' "2")
          showsPairs := !has found 'v'
          filler := (valueOf? found 'e').getD []
          shown := (valueOf? found 'o').map shownFields
          anyCase := has found 'i' }
      match operands with
      | [first, second] =>
        match content request first, content request second with
        | .error cause, _ => { written := [(2, unreadable request first cause)], status := 1 }
        | _, .error cause => { written := [(2, unreadable request second cause)], status := 1 }
        | .ok a, .ok b =>
          let fieldsOf := fun (text : Text) => (lines text).map joining.fields
          { written := [(1, Text.unlines
              (joining.rows (a.length + b.length + 1) (fieldsOf a) (fieldsOf b)))]
            reads := readsInput operands }
      | [] => refuseUsage request "missing operand".toList 1
      | [one] => refuseUsage request ("missing operand after ".toList ++ quoted one) 1
      | _ :: _ :: extra :: _ =>
        refuseUsage request ("extra operand ".toList ++ quoted extra) 1

end Marginalia.Shell.Utility
