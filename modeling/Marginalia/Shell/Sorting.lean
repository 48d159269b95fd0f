import Marginalia.Shell.Decimal
import Marginalia.Shell.Request

/-!
# Programs that compare lines

Lines are put in order, merged, counted as often as they stand in a row, or looked
up in another file. What is compared is a part of each line, in one of several ways;
lines that agree in that are told apart by all of their text.
-/

namespace Marginalia.Shell.Utility

/-! ## Ways to compare -/

/-- A blank that separates fields. -/
def isGap (c : Char) : Bool := c == ' ' || c == '\t' || c == '\n'

/-- The order of two texts by their characters. -/
def compareTexts (a b : Text) : Ordering :=
  if a = b then .eq else if Text.isLe a b then .lt else .gt

/-- The number at the start of a text, without an exponent: its digits around the point. -/
structure PlainNumber where
  isNegative : Bool
  whole : Text
  fraction : Text
  rest : Text

/-- The number at the start of a text. -/
def plainNumber (text : Text) : PlainNumber :=
  let text := text.dropWhile isGap
  let (isNegative, text) := match text with
    | '-' :: rest => (true, rest)
    | text => (false, text)
  let whole := text.takeWhile Char.isDigit
  let rest := text.drop whole.length
  match rest with
  | '.' :: after =>
    let fraction := after.takeWhile Char.isDigit
    { isNegative, whole, fraction, rest := after.drop fraction.length }
  | rest => { isNegative, whole, fraction := [], rest }

/-- The value of a number in units of a decimal place. -/
def PlainNumber.scaled (number : PlainNumber) (places : Nat) : Int :=
  let digits := number.whole ++ number.fraction ++
    List.replicate (places - number.fraction.length) '0'
  let value := Int.ofNat (ofDigits digits)
  if number.isNegative then -value else value

/-- The order of two numbers. -/
def PlainNumber.compare (a b : PlainNumber) : Ordering :=
  let places := max a.fraction.length b.fraction.length
  Ord.compare (a.scaled places) (b.scaled places)

/-- The rank of a number by the unit after it, below zero for a negative one. -/
def PlainNumber.rank (number : PlainNumber) : Int :=
  let letters : Text := ['K', 'M', 'G', 'T', 'P', 'E', 'Z', 'Y']
  let rank := match number.rest with
    | 'k' :: _ => 1
    | c :: _ => ((letters.findIdx? (· == c)).map (· + 1)).getD 0
    | [] => 0
  if number.scaled number.fraction.length = 0 then 0
  else if number.isNegative then -Int.ofNat rank
  else Int.ofNat rank

/-- The order of two numbers with units. -/
def compareSizes (a b : Text) : Ordering :=
  let a := plainNumber a
  let b := plainNumber b
  match Ord.compare a.rank b.rank with
  | .eq => a.compare b
  | order => order

/-- The order of two numbers that may have exponents; what is no number comes first. -/
def compareGeneral (a b : Text) : Ordering :=
  let number := fun (text : Text) => (Decimal.read? (text.dropWhile isGap)).map (·.1)
  match number a, number b with
  | none, none => .eq
  | none, some _ => .lt
  | some _, none => .gt
  | some x, some y =>
    if x < y then .lt else if y < x then .gt
    else if x == y then .eq
    else if x == x then .gt
    else if y == y then .lt
    else .eq

/-- The number of the month that a text starts with, or zero. -/
def month (text : Text) : Nat :=
  let name := ((text.dropWhile isGap).take 3).map Char.toUpper
  let names := ["JAN", "FEB", "MAR", "APR", "MAY", "JUN", "JUL", "AUG", "SEP", "OCT", "NOV", "DEC"]
  ((names.findIdx? fun other => other.toList == name).map (· + 1)).getD 0

/-! ## Versions -/

/-- The rank of a character that is no digit, in the order of versions; zero is the end. -/
def versionRank (c : Option Char) : Int :=
  match c with
  | none => 0
  | some '~' => -1
  | some c =>
    if c.isDigit then 0 else if c.isAlpha then Int.ofNat c.toNat else Int.ofNat (c.toNat + 256)

/-- The order of two texts as parts of versions: texts and numbers in turn. -/
def compareVersionParts : (fuel : Nat) → Text → Text → Ordering
  | 0, _, _ => .eq
  | _ + 1, [], [] => .eq
  | fuel + 1, a, b =>
    let digit := fun (text : Text) => text.head?.any Char.isDigit
    if (a ≠ [] && !digit a) || (b ≠ [] && !digit b) then
      match compare (versionRank a.head?) (versionRank b.head?) with
      | .eq => compareVersionParts fuel a.tail b.tail
      | order => order
    else
      let numberOf := fun (text : Text) => ofDigits (text.takeWhile Char.isDigit)
      match compare (numberOf a) (numberOf b) with
      | .eq => compareVersionParts fuel (a.dropWhile Char.isDigit) (b.dropWhile Char.isDigit)
      | order => order

/-- The parts between points at the end of a name that look like endings, last first. -/
def withoutEndings : List Text → List Text
  | [] => []
  | [first] => [first]
  | part :: rest =>
    match part with
    | c :: others =>
      if (c.isAlpha || c = '~') && others.all (fun d => d.isAlphanum || d = '~') then
        withoutEndings rest
      else part :: rest
    | [] => part :: rest

/-- A name without its endings. -/
def versionStem (text : Text) : Text :=
  List.intercalate ['.'] (withoutEndings (Text.splitOn '.' text).reverse).reverse

/-- The order of two versions. -/
def compareVersions (a b : Text) : Ordering :=
  let fuel := a.length + b.length + 1
  let isHidden := fun (text : Text) => text.head? = some '.'
  match a, b with
  | [], [] => .eq
  | [], _ => .lt
  | _, [] => .gt
  | a, b =>
    if isHidden a && !isHidden b then .lt
    else if isHidden b && !isHidden a then .gt
    else
      match compareVersionParts fuel (versionStem a) (versionStem b) with
      | .eq => compareVersionParts fuel a b
      | order => order

/-! ## Keys -/

/-- How lines are compared: by a part of them, with the options of that part. -/
structure SortKey where
  /-- The fields and characters before the part. -/
  start : Nat × Nat := (0, 0)
  /-- The field that the part ends in and its last character there; zero is the whole field. -/
  stop : Option (Nat × Nat) := none
  /-- Whether blanks before the start and the end do not count. -/
  skipsBlanks : Bool × Bool := (false, false)
  options : List Char := []
  deriving Repr

/-- The letters of the ways to compare. -/
def sortLetters : List Char := "bdfghiMnRrV".toList

/-- A number at the start of a text, and what follows it. -/
def keyNumber (place text : Text) : Except Text (Nat × Text) :=
  let digits := text.takeWhile Char.isDigit
  if digits = [] then .error (place ++ ": invalid count at start of ".toList ++ quoted text)
  else .ok (ofDigits digits, text.drop digits.length)

/-- What is wrong with a key. -/
def badKey (text : Text) (message : String) : Text :=
  message.toList ++ ": invalid field specification ".toList ++ quoted text

/-- The key that an option writes. -/
def sortKey (text : Text) : Except Text SortKey := do
  let (field, rest) ← keyNumber "invalid number at field start".toList text
  if field = 0 then throw (badKey text "field number is zero")
  let (character, rest) ← match rest with
    | '.' :: rest => keyNumber "invalid number after '.'".toList rest
    | rest => pure (1, rest)
  if character = 0 then throw (badKey text "character offset is zero")
  let options := rest.takeWhile sortLetters.contains
  let key : SortKey :=
    { start := (field - 1, character - 1), skipsBlanks := (options.contains 'b', false), options }
  match rest.drop options.length with
  | [] => return key
  | ',' :: rest =>
    let (field, rest) ← keyNumber "invalid number after ','".toList rest
    if field = 0 then throw (badKey text "field number is zero")
    let (character, rest) ← match rest with
      | '.' :: rest => keyNumber "invalid number after '.'".toList rest
      | rest => pure (0, rest)
    let more := rest.takeWhile sortLetters.contains
    if more.length < rest.length then throw (badKey text "stray character in field spec")
    return { key with
      stop := some (field - 1, character)
      skipsBlanks := (options.contains 'b', more.contains 'b')
      options := options ++ more }
  | _ => throw (badKey text "stray character in field spec")

/-- A line after some fields. -/
def afterFields (separator : Option Char) : Nat → Text → Text
  | 0, text => text
  | n + 1, text =>
    afterFields separator n
      (match separator with
      | some c => (text.dropWhile (· != c)).drop 1
      | none => (text.dropWhile isGap).dropWhile fun c => !isGap c)

/-- The part of a line that a key is about. -/
def SortKey.part (key : SortKey) (separator : Option Char) (line : Text) : Text :=
  let skip := fun (skips : Bool) (text : Text) => if skips then text.dropWhile isGap else text
  let start := (skip key.skipsBlanks.1 (afterFields separator key.start.1 line)).drop key.start.2
  match key.stop with
  | none => start
  | some (field, 0) =>
    let before := afterFields separator field line
    let after := match separator with
      | some c => before.dropWhile (· != c)
      | none => (before.dropWhile isGap).dropWhile fun c => !isGap c
    start.take (start.length - after.length)
  | some (field, character) =>
    let after := (skip key.skipsBlanks.2 (afterFields separator field line)).drop character
    start.take (start.length - after.length)

/-- How two parts compare under options. -/
def compareParts (options : List Char) (a b : Text) : Ordering :=
  let has := options.contains
  let kept := fun (c : Char) =>
    (!has 'd' || c.isAlphanum || isGap c) && (!has 'i' || (' ' ≤ c && c ≤ '~'))
  let prepared := fun (text : Text) =>
    let text := text.filter kept
    if has 'f' then text.map Char.toUpper else text
  let order :=
    if has 'n' then (plainNumber a).compare (plainNumber b)
    else if has 'g' then compareGeneral a b
    else if has 'h' then compareSizes a b
    else if has 'M' then compare (month a) (month b)
    else if has 'V' then compareVersions (prepared a) (prepared b)
    else compareTexts (prepared a) (prepared b)
  if has 'r' then order.swap else order

/-- How two lines compare by keys, one after the other. -/
def compareByKeys (separator : Option Char) (a b : Text) : List SortKey → Ordering
  | [] => .eq
  | key :: keys =>
    match compareParts key.options (key.part separator a) (key.part separator b) with
    | .eq => compareByKeys separator a b keys
    | order => order

/-! ## Order -/

/-- How lines are put in order. -/
structure Sorter where
  separator : Option Char := none
  keys : List SortKey := []
  isReverse : Bool := false
  /-- Whether lines whose keys agree keep their order. -/
  isStable : Bool := false
  isUnique : Bool := false

/-- How two lines compare. -/
def Sorter.compare (sorter : Sorter) (a b : Text) : Ordering :=
  match compareByKeys sorter.separator a b sorter.keys with
  | .eq =>
    if !sorter.keys.isEmpty && (sorter.isStable || sorter.isUnique) then .eq
    else if sorter.isReverse then compareTexts b a
    else compareTexts a b
  | order => order

/-- Whether a line may stand before another one. -/
def Sorter.isLe (sorter : Sorter) (a b : Text) : Bool := sorter.compare a b != .gt

/-- Lines in order of which only the first is kept of those that agree. -/
def Sorter.firsts (sorter : Sorter) (rows : List Text) : List Text :=
  (rows.splitBy fun a b => sorter.compare a b == .eq).filterMap List.head?

/-- Several lists of lines as one: the least of the first lines comes next. -/
def Sorter.mergeAll (sorter : Sorter) : List (List Text) → List Text
  | [] => []
  | rows :: others => rows.merge (sorter.mergeAll others) sorter.isLe

/-- The first line that is not in order, and its number. -/
def Sorter.disorder? (sorter : Sorter) (number : Nat) : List Text → Option (Nat × Text)
  | a :: b :: rest =>
    let order := sorter.compare a b
    if order = .gt || (sorter.isUnique && order = .eq) then some (number + 1, b)
    else sorter.disorder? (number + 1) (b :: rest)
  | _ => none

/-- The sorter that options ask for, or what is wrong with them. -/
def sorterOf (found : List (Char × Text)) : Except Text Sorter := do
  let separator ← match valueOf? found 't' with
    | none => pure none
    | some [] => throw "empty tab".toList
    | some [c] => pure (some c)
    | some ['\\', '0'] => pure (some '\x00')
    | some text => throw ("multi-character tab ".toList ++ quoted text)
  let whole := (found.map (·.1)).filter sortLetters.contains
  let given ← (found.filter (·.1 == 'k')).mapM fun (_, value) => sortKey value
  let keys := given.map fun key =>
    if key.options.isEmpty then
      { key with options := whole, skipsBlanks := (whole.contains 'b', whole.contains 'b') }
    else key
  let isReverse := whole.contains 'r'
  let keys :=
    if keys.isEmpty && whole.any (· != 'r') then
      [{ options := whole, skipsBlanks := (whole.contains 'b', whole.contains 'b') }]
    else keys
  return { separator, keys, isReverse, isStable := has found 's', isUnique := has found 'u' }

/-- Says whether a file is in order. -/
def checkOrder (request : Request) (found : List (Char × Text)) (sorter : Sorter)
    (operands : List Text) : Effect :=
  match operands with
  | _ :: extra :: _ =>
    refuse request ("extra operand ".toList ++ quoted extra ++ " not allowed with -".toList ++
      (if has found 'C' then ['C'] else ['c'])) 2
  | operands =>
    let operand := operands.headD ['-']
    match content request operand with
    | .error cause => { written := [(2, unreadable request operand cause)], status := 2 }
    | .ok text =>
      let reads := readsInput operands
      match sorter.disorder? 1 (linesAt (lineMark found) text) with
      | none => { reads }
      | some (number, line) =>
        let message := "sort: ".toList ++ operand ++ ':' :: Text.ofNat number ++
          ": disorder: ".toList ++ line ++ ['\n']
        { written := if has found 'C' then [] else [(2, message)], status := 1, reads }

/-- The lines of files in order. -/
def sort (request : Request) : Effect :=
  withOptions request "bcCdfghik:mMno:rRsS:t:T:uVy:z"
    [("ignore-leading-blanks", 'b'), ("check[=", 'c'), ("dictionary-order", 'd'),
      ("ignore-case", 'f'), ("general-numeric-sort", 'g'), ("human-numeric-sort", 'h'),
      ("ignore-nonprinting", 'i'), ("key=", 'k'), ("merge", 'm'), ("month-sort", 'M'),
      ("numeric-sort", 'n'), ("output=", 'o'), ("random-sort", 'R'), ("reverse", 'r'),
      ("stable", 's'), ("buffer-size=", 'S'), ("field-separator=", 't'),
      ("temporary-directory=", 'T'), ("unique", 'u'), ("version-sort", 'V'),
      ("zero-terminated", 'z'), ("batch-size=", 'B'), ("parallel=", 'P')]
    fun found operands =>
      let found := found.map fun (letter, value) =>
        if letter = 'c' && ["quiet", "silent"].contains (String.ofList value) then ('C', value)
        else (letter, value)
      match sorterOf found with
      | .error message => refuse request message 2
      | .ok sorter =>
        if has found 'c' || has found 'C' then checkOrder request found sorter operands
        else
          let mark := lineMark found
          let (complaints, texts) := gathered request operands
          if !complaints.isEmpty then { written := complaints.take 1, status := 2 }
          else
            let all := texts.map (linesAt mark)
            let rows :=
              if has found 'm' then sorter.mergeAll all
              else all.flatten.mergeSort sorter.isLe
            let text := endedBy mark (if sorter.isUnique then sorter.firsts rows else rows)
            let reads := readsInput operands
            match valueOf? found 'o' with
            | none => { written := [(1, text)], reads }
            | some path =>
              match request.disk.writeFile (decodeText path) (streamBytes text) with
              | (.ok (), disk) => { disk := some disk, reads }
              | (.error (.refused cause _), _) =>
                { refuse request ("open failed: ".toList ++ path ++ ": ".toList ++ cause.text) 2
                  with reads }
              | (.error _, _) => { status := 2, reads }

/-! ## Repetitions -/

/-- Lines that agree in a row, as lists of them. -/
def inRuns (key : Text → Text) : List Text → List (List Text)
  | [] => []
  | line :: rest =>
    match inRuns key rest with
    | (other :: others) :: runs =>
      if key other = key line then (line :: other :: others) :: runs
      else [line] :: (other :: others) :: runs
    | runs => [line] :: runs

/-- Options of an older form: a number of fields or characters that do not count. -/
def olderSkips : List Text → List Text
  | [] => []
  | argument :: rest =>
    let digits := argument.drop 1
    match argument with
    | '-' :: c :: _ =>
      if c.isDigit then ['-', 'f'] :: digits :: olderSkips rest
      else argument :: olderSkips rest
    | '+' :: c :: _ =>
      if c.isDigit then ['-', 's'] :: digits :: olderSkips rest
      else argument :: olderSkips rest
    | _ => argument :: olderSkips rest

/-- What is compared of a line: without some fields and characters, and up to a width. -/
def comparedPart (found : List (Char × Text)) (line : Text) : Text :=
  let number := fun (letter : Char) => (valueOf? found letter).bind natural?
  let text := (afterFields none ((number 'f').getD 0) line).drop ((number 's').getD 0)
  let text := match number 'w' with
    | some width => text.take width
    | none => text
  if has found 'i' then text.map Char.toUpper else text

/-- Runs of lines with empty lines between them, or before or after them, as asked for. -/
def groupedRuns (method : String) (runs : List (List Text)) : List Text :=
  match method with
  | "prepend" => runs.flatMap fun run => [] :: run
  | "append" => runs.flatMap fun run => run ++ [[]]
  | "both" => (runs.flatMap fun run => [] :: run) ++ (if runs.isEmpty then [] else [[]])
  | _ => List.intercalate [[]] runs

/-- The rows that lines are printed as without repetitions. -/
def uniqRows (found : List (Char × Text)) (rows : List Text) : List Text :=
  let runs := inRuns (comparedPart found) rows
  match valueOf? found 'G', valueOf? found 'D' with
  | some method, _ =>
    groupedRuns (if method = [] then "separate" else String.ofList method) runs
  | none, some method =>
    let runs := runs.filter fun run => 1 < run.length
    match String.ofList method with
    | "prepend" => groupedRuns "prepend" runs
    | "separate" => groupedRuns "separate" runs
    | _ => runs.flatten
  | none, none =>
    (runs.filter fun run =>
      (!has found 'd' || 1 < run.length) && (!has found 'u' || run.length = 1)).map fun run =>
        let line := run.headD []
        if has found 'c' then toRight 7 (Text.ofNat run.length) ++ ' ' :: line else line

/-- The number of an option that is none, with what it counts. -/
def badSkip? (found : List (Char × Text)) : Option Text :=
  found.findSome? fun (letter, value) =>
    let kind := match letter with
      | 'f' => some "fields to skip"
      | 's' => some "bytes to skip"
      | 'w' => some "bytes to compare"
      | _ => none
    kind.bind fun kind =>
      if (natural? value).isSome then none
      else some (value ++ ": invalid number of ".toList ++ kind.toList)

/-- Lines without repetitions. -/
def uniq (request : Request) : Effect :=
  withOptions { request with arguments := olderSkips request.arguments } "Dcdf:is:uw:z"
    [("count", 'c'), ("repeated", 'd'), ("all-repeated[=", 'D'), ("group[=", 'G'),
      ("ignore-case", 'i'), ("unique", 'u'), ("skip-fields=", 'f'), ("skip-chars=", 's'),
      ("check-chars=", 'w'), ("zero-terminated", 'z')]
    fun found operands =>
      match badSkip? found, operands with
      | some message, _ => refuse request message 1
      | none, _ :: _ :: extra :: _ =>
        refuseUsage request ("extra operand ".toList ++ quoted extra) 1
      | none, operands =>
        if has found 'D' && has found 'c' then
          refuseUsage request
            "printing all duplicated lines and repeat counts is meaningless".toList 1
        else
          let mark := lineMark found
          let effect := each request (operands.take 1) fun text =>
            endedBy mark (uniqRows found (linesAt mark text))
          match operands with
          | _ :: goal :: _ =>
            if goal = ['-'] || effect.status ≠ 0 then effect
            else
              let text := effect.written.flatMap (·.2)
              match request.disk.writeFile (decodeText goal) (streamBytes text) with
              | (.ok (), disk) => { effect with written := [], disk := some disk }
              | (.error (.refused cause _), _) => refuse request (goal ++ ": ".toList ++ cause.text) 1
              | (.error _, _) => { effect with written := [], status := 1 }
          | _ => effect

/-! ## Comparing two files -/

/-- Lines of two files in order, each with the column it belongs to. -/
def mergeLines : Nat → List Text → List Text → List (Nat × Text)
  | 0, _, _ => []
  | _, [], rest => rest.map fun line => (2, line)
  | _, rest, [] => rest.map fun line => (1, line)
  | fuel + 1, a :: as, b :: bs =>
    if a = b then (3, a) :: mergeLines fuel as bs
    else if Text.isLe a b then (1, a) :: mergeLines fuel as (b :: bs)
    else (2, b) :: mergeLines fuel (a :: as) bs

/-- What is known of a file of lines that should be in order. -/
structure Sorting where
  /-- The line before the present one. -/
  before : Option Text := none
  lines : List Text

/-- Whether the file turns out not to be in order when its present line is done with. -/
def Sorting.isBroken (s : Sorting) : Bool :=
  match s.lines with
  | a :: b :: _ => !Text.isLe a b
  | [a] => s.before.any fun before => !Text.isLe before a
  | [] => false

/-- The file after its present line. -/
def Sorting.advance (s : Sorting) : Sorting := { before := s.lines.head?, lines := s.lines.tail }

/-- The numbers of the files that turn out not to be in order, by the time when that shows: it
counts only after a line that the files do not have in common. -/
def disorders : (fuel : Nat) → (seen : Bool) → Sorting → Sorting → List Nat
  | 0, _, _, _ => []
  | fuel + 1, seen, first, second =>
    let (takesFirst, takesSecond) := match first.lines, second.lines with
      | [], [] => (false, false)
      | [], _ => (false, true)
      | _, [] => (true, false)
      | a :: _, b :: _ => (Text.isLe a b, Text.isLe b a)
    if !takesFirst && !takesSecond then []
    else
      let seen := seen || takesFirst != takesSecond
      (if seen && takesFirst && first.isBroken then [1] else []) ++
        (if seen && takesSecond && second.isBroken then [2] else []) ++
        disorders fuel seen (if takesFirst then first.advance else first)
          (if takesSecond then second.advance else second)

/-- Shows which lines two sorted files have in common. -/
def comm (request : Request) : Effect :=
  withOptions request "123z"
    [("check-order", 'o'), ("nocheck-order", 'n'), ("output-delimiter=", 'D'), ("total", 't'),
      ("zero-terminated", 'z')]
    fun found operands =>
      match operands with
      | [first, second] =>
        match content request first, content request second with
        | .ok a, .ok b =>
          let mark := lineMark found
          let delimiter := (valueOf? found 'D').getD ['\t']
          let isShown := fun (column : Nat) => !has found (Char.ofNat ('0'.toNat + column))
          let merged := mergeLines (a.length + b.length + 1) (linesAt mark a) (linesAt mark b)
          let rows := merged.filterMap fun (column, line) =>
            if isShown column then
              let before := ([1, 2].filter fun other => other < column && isShown other).length
              some ((List.replicate before delimiter).flatten ++ line)
            else none
          let total :=
            if has found 't' then
              [List.intercalate delimiter ([1, 2, 3].map (fun column =>
                Text.ofNat (merged.filter (·.1 = column)).length) ++ ["total".toList])]
            else []
          let broken :=
            if has found 'n' then []
            else (disorders (a.length + b.length + 1) false { lines := linesAt mark a }
              { lines := linesAt mark b }).eraseDups
          let complaints := broken.map fun n =>
            "comm: file ".toList ++ Text.ofNat n ++ " is not in sorted order\n".toList
          let last := if broken.isEmpty then []
            else [(2, "comm: input is not in sorted order\n".toList)]
          { written := complaints.map (2, ·) ++ [(1, endedBy mark (rows ++ total))] ++ last
            status := if broken.isEmpty then 0 else 1
            reads := readsInput operands }
        | .error cause, _ => { written := [(2, unreadable request first cause)], status := 1 }
        | _, .error cause => { written := [(2, unreadable request second cause)], status := 1 }
      | [] => refuseUsage request "missing operand".toList 1
      | [one] => refuseUsage request ("missing operand after ".toList ++ quoted one) 1
      | _ :: _ :: extra :: _ => refuseUsage request ("extra operand ".toList ++ quoted extra) 1

end Marginalia.Shell.Utility
