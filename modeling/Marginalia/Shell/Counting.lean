import Marginalia.Shell.Decimal
import Marginalia.Shell.Request

/-!
# Programs that count

One program counts lines, words and bytes; another one prints the numbers from one
to another. Numbers are kept as whole numbers of the smallest decimal place that is
written, so that counting in steps is exact.
-/

namespace Marginalia.Shell.Utility

/-! ## Lines, words and bytes -/

/-- What is counted in a text. -/
inductive Measure where
  | lines
  | words
  | bytes
  /-- The widest line. -/
  | width
  deriving DecidableEq, Repr

/-- Where the counting of words and widths stands. -/
structure Counting where
  words : Nat := 0
  inWord : Bool := false
  column : Nat := 0
  widest : Nat := 0

/-- Counts one more character. -/
def Counting.add (state : Counting) (c : Char) : Counting :=
  let moved := fun (column : Nat) => { state with column, widest := max state.widest column }
  if c = '\n' || c = '\r' || c = '\x0c' then
    { state with inWord := false, column := 0 }
  else if c = '\t' then
    { moved (state.column + 8 - state.column % 8) with inWord := false }
  else if c = ' ' then { moved (state.column + 1) with inWord := false }
  else if c = '\x0b' then { state with inWord := false }
  else if c.toNat < 32 || 126 < c.toNat then state
  else
    { moved (state.column + 1) with
      inWord := true
      words := if state.inWord then state.words else state.words + 1 }

/-- The counts of a text. -/
def counts (measures : List Measure) (text : Text) : List Nat :=
  let counted := text.foldl Counting.add {}
  measures.map fun measure =>
    match measure with
    | .lines => text.count '\n'
    | .words => counted.words
    | .bytes => text.length
    | .width => counted.widest

/-- What options ask to be counted, in the order in which it is printed. -/
def measures (found : List (Char × Text)) : List Measure :=
  let asked := fun (letters : List Char) (measure : Measure) =>
    if letters.any (has found) then [measure] else []
  let all := asked ['l'] .lines ++ asked ['w'] .words ++ asked ['m'] .bytes ++
    asked ['c'] .bytes ++ asked ['L'] .width
  if all.isEmpty then [.lines, .words, .bytes] else all

/-- Counts of one text in a row. -/
def countRow (width : Nat) (numbers : List Nat) (name : Text) : Text :=
  let cells := numbers.map fun n => toRight width (Text.ofNat n)
  List.intercalate [' '] cells ++ (if name = [] then [] else ' ' :: name) ++ ['\n']

/-- How wide the counts are printed: as the size of all files, and wider if one has no size. -/
def countWidth (request : Request) (isSingle : Bool)
    (results : List (Text × Except Disk.Cause Text)) : Nat :=
  if isSingle then 1
  else
    let size := results.foldl (fun sum (_, result) =>
      sum + (result.toOption.map List.length).getD 0) 0
    let isUnsized := fun (result : Text × Except Disk.Cause Text) =>
      (isInput result.1 && !request.fromFile) || result.1 = "/dev/null".toList ||
        result.2 matches .error .isDirectory
    let digits := (Text.ofNat size).length
    if results.any isUnsized then max 7 digits else digits

/-- Counts lines, words and characters. -/
def wc (request : Request) : Effect :=
  withOptions request "clLmw"
    [("bytes", 'c'), ("chars", 'm'), ("lines", 'l'), ("words", 'w'), ("max-line-length", 'L'),
      ("total=", 't')]
    fun found operands =>
      let measures := measures found
      let results := contents request (sources operands)
      let width := countWidth request (results.length = 1 && measures.length = 1) results
      let name := fun (operand : Text) => if operands.isEmpty then [] else operand
      let whenTotal := String.ofList ((valueOf? found 't').getD "auto".toList)
      let rows := results.flatMap fun (operand, result) =>
        match result with
        | .ok text => [(1, countRow width (counts measures text) (name operand))]
        | .error .isDirectory =>
          [(2, unreadable request operand .isDirectory),
            (1, countRow width (counts measures []) (name operand))]
        | .error cause => [(2, unreadable request operand cause)]
      let rows := if whenTotal = "only" then rows.filter (·.1 = 2) else rows
      let texts := results.filterMap fun (_, result) => result.toOption
      let totals := (measures.zipIdx).map fun (measure, k) =>
        let numbers := texts.map fun text => ((counts measures text)[k]?).getD 0
        if measure = .width then numbers.foldl max 0 else numbers.foldl (· + ·) 0
      let hasTotal := match whenTotal with
        | "always" | "only" => true
        | "never" => false
        | _ => 1 < results.length
      let totalRow :=
        if whenTotal = "only" then (1, countRow 1 totals [])
        else (1, countRow width totals "total".toList)
      { written := rows ++ (if hasTotal then [totalRow] else [])
        status := if results.all (·.2.isOk) then 0 else 1
        reads := readsInput operands }

/-! ## Numbers in a row -/

/-- A decimal number: a whole number of the last decimal place that is written. -/
structure Figure where
  value : Int
  places : Nat := 0
  deriving DecidableEq, Repr

/-- A number in units of a smaller decimal place. -/
def Figure.scaled (figure : Figure) (places : Nat) : Int :=
  figure.value * Int.ofNat (Nat.pow 10 (places - figure.places))

/-- The number that a text writes. -/
def figure? (text : Text) : Option Figure :=
  let (isNegative, text) := match text with
    | '-' :: rest => (true, rest)
    | '+' :: rest => (false, rest)
    | text => (false, text)
  let whole := text.takeWhile Char.isDigit
  let rest := text.drop whole.length
  let (fraction, rest) := match rest with
    | '.' :: rest => (rest.takeWhile Char.isDigit, rest.dropWhile Char.isDigit)
    | rest => ([], rest)
  let (exponent, rest) := Decimal.exponent rest
  if (whole = [] && fraction = []) || rest ≠ [] || 400 < exponent.natAbs then none
  else
    let digits := Int.ofNat (ofDigits (whole ++ fraction))
    let digits := if isNegative then -digits else digits
    let places := Int.ofNat fraction.length - exponent
    some
      (if places < 0 then { value := digits * Int.ofNat (Nat.pow 10 places.natAbs) }
        else { value := digits, places := places.toNat })

/-- A format with one number in it. -/
structure NumberFormat where
  start : Text := []
  flags : Text := []
  width : Nat := 0
  precision : Option Nat := none
  letter : Char := 'f'
  stop : Text := []
  deriving Repr

/-- The text up to the first percent sign that is not written twice, and what follows it. -/
def upToPercent : Text → Text × Option Text
  | [] => ([], none)
  | '%' :: '%' :: rest =>
    let (text, after) := upToPercent rest
    ('%' :: text, after)
  | '%' :: rest => ([], some rest)
  | c :: rest =>
    let (text, after) := upToPercent rest
    (c :: text, after)

/-- The format that a text writes, or what is wrong with it. -/
def numberFormat (text : Text) : Except Text NumberFormat :=
  let fault := fun (message : String) =>
    .error ("format ".toList ++ quoted text ++ message.toList)
  let (start, after) := upToPercent text
  match after with
  | none => fault " has no % directive"
  | some rest =>
    let flags := rest.takeWhile "-+#0 '".toList.contains
    let rest := rest.drop flags.length
    let width := rest.takeWhile Char.isDigit
    let rest := rest.drop width.length
    let (precision, rest) := match rest with
      | '.' :: rest =>
        (some (ofDigits (rest.takeWhile Char.isDigit)), rest.dropWhile Char.isDigit)
      | rest => (none, rest)
    match if rest.head? = some 'L' then rest.tail else rest with
    | [] => fault " ends in %"
    | letter :: rest =>
      if !"efgEFG".toList.contains letter then
        .error ("format ".toList ++ quoted text ++ " has unknown %".toList ++ letter ::
          " directive".toList)
      else
        let (stop, more) := upToPercent rest
        if more.isSome then fault " has too many % directives"
        else .ok { start, flags, width := ofDigits width, precision, letter, stop }

/-- A number in a format. -/
def NumberFormat.show (format : NumberFormat) (figure : Figure) : Text :=
  let numerator := figure.value.natAbs
  let denominator := Nat.pow 10 figure.places
  let places := format.precision.getD 6
  let isAlternate := format.flags.contains '#'
  let digits := match format.letter.toLower with
    | 'f' => Decimal.fixed places isAlternate numerator denominator
    | 'e' => Decimal.scientific 'e' places isAlternate numerator denominator
    | _ => Decimal.general 'e' places isAlternate numerator denominator
  let digits := if format.letter.isUpper then digits.map Char.toUpper else digits
  let sign :=
    if figure.value < 0 then ['-']
    else if format.flags.contains '+' then ['+']
    else if format.flags.contains ' ' then [' ']
    else []
  let size := sign.length + digits.length
  let body :=
    if format.flags.contains '-' then sign ++ digits ++ List.replicate (format.width - size) ' '
    else if format.flags.contains '0' then
      sign ++ List.replicate (format.width - size) '0' ++ digits
    else toRight format.width (sign ++ digits)
  format.start ++ body ++ format.stop

/-- The numbers from one to another in steps. -/
def steps (first step last : Int) : List Int :=
  let size := if 0 < step then (last - first) / step + 1 else (first - last) / (-step) + 1
  (List.range size.toNat).map fun k => first + step * Int.ofNat k

/-- Arguments of which a negative number ends the options. -/
def withNegatives : List Text → List Text
  | argument :: value :: rest =>
    if ["-f", "-s", "--format", "--separator"].contains (String.ofList argument) then
      argument :: value :: withNegatives rest
    else guarded argument (value :: rest)
  | [argument] => guarded argument []
  | [] => []
where
  /-- The same, where the first argument is no option that waits for a value. -/
  guarded (argument : Text) (rest : List Text) : List Text :=
    match argument with
    | '-' :: c :: _ =>
      if c.isDigit || c = '.' then ['-', '-'] :: argument :: rest
      else argument :: withNegatives rest
    | _ => argument :: rest

/-- The numbers that operands write, or what is wrong with them. -/
def figures (request : Request) (operands : List Text) : Except Text (List Figure) :=
  match operands with
  | [] => .error ("missing operand".toList ++ hint request)
  | _ :: _ :: _ :: extra :: _ =>
    .error ("extra operand ".toList ++ quoted extra ++ hint request)
  | operands =>
    operands.mapM fun operand =>
      match figure? operand with
      | some figure => .ok figure
      | none =>
        let kind := if operand.map Char.toLower = "nan".toList then
            "invalid 'not-a-number' argument: "
          else "invalid floating point argument: "
        .error (kind.toList ++ quoted operand ++ hint request)

/-- Prints numbers in a row. -/
def seq (request : Request) : Effect :=
  withOptions { request with arguments := withNegatives request.arguments } "+f:s:w"
    [("format=", 'f'), ("separator=", 's'), ("equal-width", 'w')]
    fun found operands =>
      match figures request operands, (valueOf? found 'f').mapM numberFormat with
      | .error message, _ => refuse request message 1
      | _, .error message => refuse request message 1
      | .ok given, .ok format =>
        let one : Figure := { value := 1 }
        let (first, step, last) := match given with
          | [last] => (one, one, last)
          | [first, last] => (first, one, last)
          | first :: step :: last :: _ => (first, step, last)
          | [] => (one, one, one)
        if step.value = 0 then
          refuseUsage request
            ("invalid Zero increment value: ".toList ++ quoted ((operands[1]?).getD [])) 1
        else if format.isSome && has found 'w' then
          refuseUsage request
            "format string may not be specified when printing equal width strings".toList 1
        else
          let places := max (max first.places step.places) last.places
          let precision := max first.places step.places
          let plain : NumberFormat := { precision := some precision }
          let width := max (plain.show first).length (plain.show last).length
          let format := format.getD
            (if has found 'w' then { plain with width, flags := ['0'] } else plain)
          let numbers := steps (first.scaled places) (step.scaled places) (last.scaled places)
          let texts := numbers.map fun value => format.show { value, places }
          let separator := (valueOf? found 's').getD ['\n']
          { written :=
              if texts.isEmpty then [] else [(1, List.intercalate separator texts ++ ['\n'])] }

end Marginalia.Shell.Utility
