import Marginalia.Shell.Arithmetic
import Marginalia.Shell.Copying

/-!
# Programs that show bytes

A dump shows the bytes of files row by row, each row in one or several formats, with
the address of its first byte before it. A comparison of two files says where their
bytes differ.
-/

namespace Marginalia.Shell.Utility

/-! ## Formats -/

/-- How the units of a dump are shown: how many bytes they have, how wide they are, their text. -/
structure DumpFormat where
  size : Nat
  width : Nat
  shown : Nat → Text
  /-- Whether the characters of a row stand at its end. -/
  hasText : Bool := false

/-- A number in a base, with zeros before it. -/
def zeroPadded (base width n : Nat) : Text :=
  let digits := Nat.toDigits base n
  List.replicate (width - digits.length) '0' ++ digits

/-- A byte as a character or its escape. -/
def byteName (n : Nat) : Text :=
  match n with
  | 0 => "\\0".toList
  | 7 => "\\a".toList
  | 8 => "\\b".toList
  | 9 => "\\t".toList
  | 10 => "\\n".toList
  | 11 => "\\v".toList
  | 12 => "\\f".toList
  | 13 => "\\r".toList
  | n => if 32 ≤ n && n < 127 then [.ofNat n] else zeroPadded 8 3 n

/-- The names of the control characters and of the blank. -/
def controlNames : List String :=
  ["nul", "soh", "stx", "etx", "eot", "enq", "ack", "bel", "bs", "ht", "nl", "vt", "ff", "cr",
    "so", "si", "dle", "dc1", "dc2", "dc3", "dc4", "nak", "syn", "etb", "can", "em", "sub", "esc",
    "fs", "gs", "rs", "us", "sp"]

/-- A byte as the name of a character; its highest bit does not count. -/
def characterName (n : Nat) : Text :=
  let n := n % 128
  match controlNames[n]? with
  | some name => name.toList
  | none => if n = 127 then "del".toList else [.ofNat n]

/-- A number of so many bytes that has a sign. -/
def withSign (size n : Nat) : Text :=
  let limit := Nat.pow 256 size
  Text.ofInt (if 2 * n < limit then Int.ofNat n else Int.ofNat n - Int.ofNat limit)

/-- The format of numbers of a size that a letter names. -/
def numberFormat? (letter : Char) (size : Nat) : Option DumpFormat :=
  match letter with
  | 'x' => some { size, width := 2 * size, shown := zeroPadded 16 (2 * size) }
  | 'o' =>
    let width := (8 * size + 2) / 3
    some { size, width, shown := zeroPadded 8 width }
  | 'u' => some { size, width := [3, 5, 10, 20][size.log2]?.getD 3, shown := Text.ofNat }
  | 'd' => some { size, width := [4, 6, 11, 20][size.log2]?.getD 4, shown := withSign size }
  | _ => none

/-- The size that starts a text, and what follows it; without one it is four bytes. -/
def unitSize (text : Text) : Nat × Text :=
  match text with
  | 'C' :: rest => (1, rest)
  | 'S' :: rest => (2, rest)
  | 'I' :: rest => (4, rest)
  | 'L' :: rest => (8, rest)
  | text =>
    let digits := text.takeWhile Char.isDigit
    if digits = [] then (4, text) else (ofDigits digits, text.drop digits.length)

/-- The formats that a text names one after the other, or what is wrong with it. -/
def dumpFormats (whole : Text) : (fuel : Nat) → Text → Except Text (List DumpFormat)
  | 0, _ | _, [] => .ok []
  | fuel + 1, letter :: rest => do
    let (format, rest) ← match letter with
      | 'a' => .ok ({ size := 1, width := 3, shown := characterName : DumpFormat }, rest)
      | 'c' => .ok ({ size := 1, width := 3, shown := byteName : DumpFormat }, rest)
      | letter =>
        let (size, rest) := unitSize rest
        match numberFormat? letter size with
        | none =>
          .error ("invalid character '".toList ++ letter :: "' in type string ".toList ++
            quoted whole)
        | some format =>
          if [1, 2, 4, 8].contains size then .ok (format, rest)
          else
            .error ("invalid type string ".toList ++ quoted whole ++
              ";\nthis system doesn't provide a ".toList ++ Text.ofNat size ++
              "-byte integral type".toList)
    match rest with
    | 'z' :: rest => return { format with hasText := true } :: (← dumpFormats whole fuel rest)
    | rest => return format :: (← dumpFormats whole fuel rest)

/-! ## Rows -/

/-- How a dump looks. -/
structure DumpLayout where
  formats : List DumpFormat
  rowSize : Nat := 16
  /-- The base of addresses and how many digits they have. -/
  address : Option (Nat × Nat) := some (8, 7)
  isBigEndian : Bool := false

/-- How wide the units of a whole row are in the format that needs most. -/
def DumpLayout.width (layout : DumpLayout) : Nat :=
  layout.formats.foldl (fun width format =>
    max width ((format.width + 1) * (layout.rowSize / format.size))) 0

/-- An address as it stands before a row. -/
def DumpLayout.shownAddress (layout : DumpLayout) (offset : Nat) : Text :=
  match layout.address with
  | some (base, width) => zeroPadded base width offset
  | none => []

/-- Cuts a list into pieces of a size. -/
def piecesOf (size : Nat) : (fuel : Nat) → List α → List (List α)
  | 0, _ => []
  | fuel + 1, items =>
    if items.isEmpty then [] else items.take size :: piecesOf size fuel (items.drop size)

/-- The number that the bytes of a unit write; bytes that a unit lacks are zero. -/
def DumpLayout.value (layout : DumpLayout) (size : Nat) (unit : Text) : Nat :=
  let bytes := unit ++ List.replicate (size - unit.length) '\x00'
  let lowestFirst := if layout.isBigEndian then bytes.reverse else bytes
  lowestFirst.foldr (fun c n => n * 256 + c.toNat) 0

/-- A character as it stands at the end of a row. -/
def shownCharacter (c : Char) : Char := if 32 ≤ c.toNat && c.toNat < 127 then c else '.'

/--
One row in a format. What the format leaves of the width of a row is spread over the gaps
before its units, so that the units of several formats stand below each other.
-/
def DumpLayout.row (layout : DumpLayout) (format : DumpFormat) (bytes : Text) : Text :=
  let fields := layout.rowSize / format.size
  let spare := layout.width - format.width * fields
  let gap := fun k => spare * (fields - k) / fields - spare * (fields - (k + 1)) / fields
  let units := (piecesOf format.size bytes.length bytes).zipIdx.flatMap fun (unit, k) =>
    toRight (format.width + gap k) (format.shown (layout.value format.size unit))
  if !format.hasText then units
  else
    let missing := (layout.rowSize - bytes.length) / format.size
    let blanks := missing * format.width + spare * missing / fields
    units ++ List.replicate blanks ' ' ++ "  >".toList ++ bytes.map shownCharacter ++ ['<']

/-- Rows with those left out that repeat the one before; `none` stands for each run of them. -/
def withoutRepeatedRows (size : Nat) (last : Option Text) (isOpen : Bool) :
    List (Nat × Text) → List (Option (Nat × Text))
  | [] => []
  | (offset, row) :: rows =>
    if some row = last && row.length = size then
      (if isOpen then [] else [none]) ++ withoutRepeatedRows size last true rows
    else some (offset, row) :: withoutRepeatedRows size (some row) false rows

/-- The lines of a dump of bytes, the first of which has an address. -/
def DumpLayout.dump (layout : DumpLayout) (all : Bool) (start : Nat) (bytes : Text) : List Text :=
  let rows := (piecesOf layout.rowSize bytes.length bytes).zipIdx.map fun (row, k) =>
    (start + layout.rowSize * k, row)
  let rows := if all then rows.map some else withoutRepeatedRows layout.rowSize none false rows
  let shown := rows.flatMap fun row =>
    match row with
    | none => [['*']]
    | some (offset, bytes) => layout.formats.zipIdx.map fun (format, k) =>
      let address := layout.shownAddress offset
      (if k = 0 then address else List.replicate address.length ' ') ++ layout.row format bytes
  shown ++ if layout.address.isSome then [layout.shownAddress (start + bytes.length)] else []

/-! ## Dumps -/

/-- A number of bytes; it is octal or hexadecimal with what stands for that before it. -/
def byteCount? (text : Text) : Option Nat :=
  let read := fun (base : Nat) (text : Text) =>
    let digits := text.takeWhile fun c => Arithmetic.digitValue c < base
    (unit? (text.drop digits.length)).map (Arithmetic.ofDigits base digits * ·)
  match text with
  | '0' :: 'x' :: rest | '0' :: 'X' :: rest => read 16 rest
  | '0' :: rest => read 8 rest
  | text => size? text

/-- The formats that options ask for, or what is wrong with them. -/
def formatsOf (found : List (Char × Text)) : Except Text (List DumpFormat) := do
  let types ← found.mapM fun (letter, value) =>
    let type := match letter with
      | 'a' => ['a']
      | 'c' => ['c']
      | 'b' => "o1".toList
      | 'x' | 'h' => "x2".toList
      | 'd' => "u2".toList
      | 'o' | 'B' => "o2".toList
      | 's' => "d2".toList
      | 'i' => "d4".toList
      | 'l' | 'I' | 'L' => "d8".toList
      | 'D' => "u4".toList
      | 'O' => "o4".toList
      | 'H' | 'X' => "x4".toList
      | 't' => value
      | _ => []
    dumpFormats type type.length type
  let formats := types.flatten
  return if formats.isEmpty then (numberFormat? 'o' 2).toList else formats

/-- The base and the size of addresses that an option asks for. -/
def addressOf (found : List (Char × Text)) : Except Text (Option (Nat × Nat)) :=
  match (valueOf? found 'A').getD ['o'] with
  | 'o' :: _ => .ok (some (8, 7))
  | 'd' :: _ => .ok (some (10, 7))
  | 'x' :: _ => .ok (some (16, 6))
  | 'n' :: _ => .ok none
  | value =>
    .error ("invalid output address radix '".toList ++ value.take 1 ++
      "'; it must be one character from [doxn]".toList)

/-- The number of bytes that an option gives. -/
def byteOption (found : List (Char × Text)) (letter : Char) : Except Text (Option Nat) :=
  match valueOf? found letter with
  | none => .ok none
  | some value =>
    match byteCount? value with
    | some n => .ok (some n)
    | none =>
      let fault := if value.head?.any Char.isDigit then "invalid suffix in -" else "invalid -"
      .error (fault.toList ++ letter :: " argument ".toList ++ quoted value)

/-- What options ask of a dump: its layout, how many bytes it skips and how many it shows. -/
def dumpOptions (found : List (Char × Text)) :
    Except Text (DumpLayout × Nat × Option Nat × Option Text) := do
  let address ← addressOf found
  let skipped ← byteOption found 'j'
  let size ← byteOption found 'N'
  let formats ← formatsOf found
  let least := formats.foldl (fun n format => Nat.lcm n format.size) 1
  let wanted? := (valueOf? found 'w').map fun value =>
    if value = [] then 32 else (natural? value).getD 0
  let (rowSize, warning) := match wanted? with
    | none => (16, none)
    | some wanted =>
      if wanted ≠ 0 && wanted % least = 0 then (wanted, none)
      else
        (least, some ("warning: invalid width ".toList ++ Text.ofNat wanted ++ "; using ".toList ++
          Text.ofNat least ++ " instead".toList))
  let isBigEndian := (valueOf? found 'E').any fun value => value.head? = some 'b'
  return ({ formats, rowSize, address, isBigEndian }, skipped.getD 0, size, warning)

/-- Shows the bytes of files. -/
def od (request : Request) : Effect :=
  withOptions request "A:aBbcDdeFfHhIij:LlN:OosS:t:vw::Xx"
    [("skip-bytes=", 'j'), ("address-radix=", 'A'), ("read-bytes=", 'N'), ("format=", 't'),
      ("output-duplicates", 'v'), ("width[=", 'w'), ("endian=", 'E')]
    fun found operands =>
      match dumpOptions found with
      | .error message => refuse request message 1
      | .ok (layout, skipped, size, warning) =>
        let (complaints, texts) := gathered request operands
        let bytes := texts.flatten
        let warnings := warning.toList.map fun text => (2, "od: ".toList ++ text ++ ['\n'])
        let reads := readsInput operands
        let status := if complaints.isEmpty then 0 else 1
        if texts.isEmpty then { written := complaints ++ warnings, status, reads }
        else if bytes.length < skipped then
          let message := "od: cannot skip past end of combined input\n".toList
          { written := complaints ++ [(2, message)], status := 1, reads }
        else
          let rest := bytes.drop skipped
          let shown := match size with
            | some size => rest.take size
            | none => rest
          { written := complaints ++ warnings ++
              [(1, Text.unlines (layout.dump (has found 'v') skipped shown))]
            status, reads, taken := size.map (· + skipped) }

/-! ## Comparison -/

/-- A place where two files differ: the byte and the line, from one on, and the two bytes. -/
structure Difference where
  byte : Nat
  line : Nat
  first : Nat
  second : Nat

/-- The places where two texts differ, up to the end of the shorter one. -/
def differences (byte line : Nat) : Text → Text → List Difference
  | a :: as, b :: bs =>
    let rest := differences (byte + 1) (if a = '\n' then line + 1 else line) as bs
    if a = b then rest else { byte, line, first := a.toNat, second := b.toNat } :: rest
  | _, _ => []

/-- A byte as a number in base eight that is three digits wide. -/
def octalByte (n : Nat) : Text := toRight 3 (Nat.toDigits 8 n)

/-- A byte as it is shown if every byte is made visible. -/
def visibleByte (n : Nat) : Text :=
  if n < 128 then caret n else 'M' :: '-' :: caret (n - 128)

/-- What is said of files of which one ends where they do not differ yet. -/
def endMessage (isBrief : Bool) (name text : Text) : Text :=
  "cmp: EOF on ".toList ++ name ++
    if text = [] then " which is empty".toList
    else
      let lines := text.count '\n'
      " after byte ".toList ++ Text.ofNat text.length ++
        if isBrief then []
        else if text.getLast? = some '\n' then ", line ".toList ++ Text.ofNat lines
        else ", in line ".toList ++ Text.ofNat (lines + 1)

/-- How two files are compared. -/
structure Comparison where
  showsAll : Bool := false
  showsBytes : Bool := false
  isSilent : Bool := false
  /-- How many bytes of each file are left out. -/
  skipped : Nat × Nat := (0, 0)
  limit : Option Nat := none

/-- The part of a text that is compared. -/
def Comparison.part (comparison : Comparison) (skipped : Nat) (text : Text) : Text :=
  match comparison.limit with
  | some limit => (text.drop skipped).take limit
  | none => text.drop skipped

/-- What is said of two files with contents, and whether they are alike. -/
def Comparison.report (comparison : Comparison) (names : Text × Text) (first second : Text) :
    List (Nat × Text) × Bool :=
  let found := differences 1 1 first second
  let ends :=
    if first.length = second.length then []
    else if first.length < second.length then
      [(2, endMessage comparison.showsAll names.1 first)]
    else [(2, endMessage comparison.showsAll names.2 second)]
  let written :=
    if comparison.showsAll then
      let width := (Text.ofNat (min first.length second.length)).length
      (found.map fun d =>
        let row := toRight width (Text.ofNat d.byte) ++ ' ' :: octalByte d.first
        if comparison.showsBytes then
          let name := visibleByte d.first
          (1, row ++ ' ' :: name ++ List.replicate (5 - name.length) ' ' ++ octalByte d.second ++
            ' ' :: visibleByte d.second)
        else (1, row ++ ' ' :: octalByte d.second)) ++ ends
    else
      match found with
      | [] => ends
      | d :: _ =>
        let place := fun (unit : String) =>
          names.1 ++ ' ' :: names.2 ++ " differ: ".toList ++ unit.toList ++ ' ' :: Text.ofNat d.byte ++
            ", line ".toList ++ Text.ofNat d.line
        if comparison.showsBytes then
          [(1, place "byte" ++ " is ".toList ++ octalByte d.first ++ ' ' :: visibleByte d.first ++
            ' ' :: octalByte d.second ++ ' ' :: visibleByte d.second)]
        else [(1, place "char")]
  (if comparison.isSilent then [] else written.map fun (stream, text) => (stream, text ++ ['\n']),
    found.isEmpty && ends.isEmpty)

/-- The comparison that options and further operands ask for, or what is wrong with them. -/
def comparisonOf (found : List (Char × Text)) (operands : List Text) : Except Text Comparison := do
  let skip := fun (text : Text) =>
    match byteCount? text with
    | some n => Except.ok n
    | none => .error ("invalid --ignore-initial value ".toList ++ quoted text)
  let skipped ← match valueOf? found 'i' with
    | none => pure (0, 0)
    | some value =>
      match Text.cut? ':' value with
      | some (first, second) => do pure (← skip first, ← skip second)
      | none => do
        let n ← skip value
        pure (n, n)
  let limit ← match valueOf? found 'n' with
    | none => pure none
    | some value =>
      match byteCount? value with
      | some n => pure (some n)
      | none => throw ("invalid --bytes value ".toList ++ quoted value)
  if has found 'l' && has found 's' then throw "options -l and -s are incompatible".toList
  let further ← (operands.take 2).mapM skip
  match operands[2]? with
  | some operand => throw ("extra operand ".toList ++ quoted operand)
  | none => pure ()
  return {
    showsAll := has found 'l', showsBytes := has found 'b', isSilent := has found 's', limit
    skipped := (max skipped.1 (further[0]?.getD 0), max skipped.2 (further[1]?.getD 0)) }

/-- Compares two files byte by byte. -/
def cmp (request : Request) : Effect :=
  withOptions request "bci:ln:s"
    [("print-bytes", 'b'), ("print-chars", 'b'), ("ignore-initial=", 'i'), ("verbose", 'l'),
      ("bytes=", 'n'), ("silent", 's'), ("quiet", 's')]
    fun found operands =>
      match operands with
      | [] => refuseUsage request "missing operand after 'cmp'".toList 2
      | first :: rest =>
        let second := rest.headD ['-']
        match comparisonOf found rest.tail with
        | .error message => refuseUsage request message 2
        | .ok comparison =>
          let reads := readsInput [first, second]
          let refused := fun (name : Text) (cause : Disk.Cause) =>
            ({ written := if comparison.isSilent then [] else [(2, unreadable request name cause)]
               status := 2, reads } : Effect)
          match content request first, content request second with
          | .ok a, .ok b =>
            let (written, isAlike) := comparison.report (first, second)
              (comparison.part comparison.skipped.1 a) (comparison.part comparison.skipped.2 b)
            { written, status := if isAlike then 0 else 1, reads }
          | .error cause, _ => refused first cause
          | _, .error cause => refused second cause

end Marginalia.Shell.Utility
