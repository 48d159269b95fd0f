import Marginalia.Encoding.Utf8
import Marginalia.Text.Lowercase
import Marginalia.Text.Quoted

/-!
# Encodings

The encodings in which sources are read and the highlighter is spoken to, the
names by which settings ask for them, and the two ways to decode: strictly,
stopping at the first undecodable bytes, or lossily, with replacement
characters.
-/

namespace Marginalia

/-- An encoding of text as bytes. -/
inductive Encoding where
  | utf8
  /-- UTF-8 that writes a byte order mark first and drops one when reading. -/
  | utf8Marked
  | latin1
  | ascii
  deriving DecidableEq, Repr

/-- A run of characters that an encoding has no bytes for, with the code point of the first
one, its place and the reason. -/
structure Unencodable where
  codec : Text
  first : Nat
  position : Nat
  size : Nat
  reason : Text
  deriving DecidableEq, Repr

/-- Bytes that are no text: a run of them, with the first one, its place and the reason. -/
structure Undecodable where
  codec : Text
  first : UInt8
  position : Nat
  size : Nat
  reason : Text
  deriving DecidableEq, Repr

/-- Why a character above the last one of an encoding is refused. -/
def outOfRange (limit : Nat) : Text :=
  "ordinal not in range(".toList ++ Text.ofNat limit ++ ")".toList

/-- A place, or the first and last of several places. -/
def placeText (position size : Nat) : Text :=
  if size = 1 then Text.ofNat position
  else Text.ofNat position ++ '-' :: Text.ofNat (position + size - 1)

/-- What is said of unencodable characters. -/
def Unencodable.message (e : Unencodable) : Text :=
  let subject :=
    if e.size = 1 then "character '".toList ++ Text.numericEscape e.first ++ "'".toList
    else "characters".toList
  "'".toList ++ e.codec ++ "' codec can't encode ".toList ++ subject ++ " in position ".toList ++
    placeText e.position e.size ++ ": ".toList ++ e.reason

/-- The first run of characters of a text that do not fit, with the code points that they
stand for. -/
def Unencodable.find? (codec reason : Text) (fits : Char → Bool) (codePoint : Char → Nat)
    (text : Text) : Option Unencodable :=
  match text.dropWhile fits with
  | [] => none
  | c :: rest =>
    some ⟨codec, codePoint c, (text.takeWhile fits).length,
      1 + (rest.takeWhile fun c => !fits c).length, reason⟩

theorem Unencodable.find?_eq_none {codec reason : Text} {fits : Char → Bool}
    {codePoint : Char → Nat} {text : Text} :
    find? codec reason fits codePoint text = none ↔ ∀ c ∈ text, fits c = true := by
  have hdrop : text.dropWhile fits = [] ↔ ∀ c ∈ text, fits c = true := by
    induction text with
    | nil => simp
    | cons c text ih => by_cases hc : fits c <;> simp [hc, ih]
  rw [← hdrop, find?]
  cases text.dropWhile fits <;> simp

/-- What is said of undecodable bytes. -/
def Undecodable.message (e : Undecodable) : Text :=
  let subject :=
    if e.size = 1 then "byte 0x".toList ++ Text.ofHex 2 e.first.toNat else "bytes".toList
  "'".toList ++ e.codec ++ "' codec can't decode ".toList ++ subject ++ " in position ".toList ++
    placeText e.position e.size ++ ": ".toList ++ e.reason

/-- The reason given for a broken sequence. -/
def Utf8.Fault.message : Utf8.Fault → Text
  | .start => "invalid start byte".toList
  | .continuation => "invalid continuation byte".toList
  | .ending => "unexpected end of data".toList

/-- The text of scanned bytes that begin at `position`, or the first broken sequence among them. -/
def Utf8.strict (position : Nat) : List Utf8.Piece → Except Undecodable Text
  | [] => .ok []
  | piece :: pieces =>
    match piece with
    | .char c => (strict (position + piece.size) pieces).map (c :: ·)
    | .broken first size fault =>
      .error ⟨"utf-8".toList, first, position, size, fault.message⟩

namespace Encoding

/-- The bytes of the byte order mark. -/
def mark : Bytes := [0xEF, 0xBB, 0xBF]

/-- The bytes without one leading byte order mark. -/
def dropMark : Bytes → Bytes
  | 0xEF :: 0xBB :: 0xBF :: bytes => bytes
  | bytes => bytes

/-- The name of each encoding, in lower case and with underscores for other punctuation. -/
def names : List (Text × Encoding) :=
  [("utf_8".toList, utf8), ("utf_8_sig".toList, utf8Marked), ("latin_1".toList, latin1),
    ("ascii".toList, ascii)]

/-- Other names of the encodings. -/
def aliases : List (Text × Encoding) :=
  (["u8", "utf", "utf8", "utf8_ucs2", "utf8_ucs4", "cp65001"].map
    fun name => (name.toList, utf8)) ++
  (["8859", "cp819", "csisolatin1", "ibm819", "iso8859", "iso8859_1", "iso_8859_1",
    "iso_8859_1_1987", "iso_ir_100", "l1", "latin", "latin1"].map
    fun name => (name.toList, latin1)) ++
  (["646", "ansi_x3.4_1968", "ansi_x3_4_1968", "ansi_x3.4_1986", "cp367", "csascii", "ibm367",
    "iso646_us", "iso_646.irv_1991", "iso_ir_6", "us", "us_ascii"].map
    fun name => (name.toList, ascii))

/-- A letter or digit of ASCII, or a dot: what a name keeps as it is. -/
def isNameChar (c : Char) : Bool :=
  c.isAlphanum || c == '.'

/-- A name with each run of other characters written as one underscore, and none at its ends. -/
def plainName (name : Text) : Text :=
  let spaced := name.map fun c => if isNameChar c then c.toLower else '_'
  List.intercalate ['_'] ((Text.splitOn '_' spaced).filter (· ≠ []))

/--
The encoding that a name stands for; case and kind of punctuation do not matter.
A dot is no punctuation, but in an alias it may stand for an underscore.
-/
def named? (name : Text) : Option Encoding :=
  let plain := plainName name
  let undotted := plain.map fun c => if c = '.' then '_' else c
  (names.lookup plain).or ((aliases.lookup plain).or (aliases.lookup undotted))

/-- The bytes of a text whose characters all lie below `limit`, one each. -/
def encodeBelow (codec : Text) (limit : Nat) (text : Text) : Except Unencodable Bytes :=
  match Unencodable.find? codec (outOfRange limit) (fun c => c.toNat < limit) Char.toNat text with
  | none => .ok (text.map fun c => .ofNat c.toNat)
  | some fault => .error fault

/-- The bytes of a text, or the first run of characters that have none. -/
def encode : Encoding → Text → Except Unencodable Bytes
  | utf8, text => .ok (Utf8.encode text)
  | utf8Marked, text => .ok (mark ++ Utf8.encode text)
  | latin1, text => encodeBelow "latin-1".toList 256 text
  | ascii, text => encodeBelow "ascii".toList 128 text

/-- The text of bytes that are all ASCII, or the first one that is not. -/
def decodeAscii (bytes : Bytes) : Except Undecodable Text :=
  let fits := fun b : UInt8 => decide (b.toNat < 128)
  match bytes.dropWhile fits with
  | [] => .ok (bytes.map fun b => .ofNat b.toNat)
  | b :: _ => .error ⟨"ascii".toList, b, (bytes.takeWhile fits).length, 1, outOfRange 128⟩

/-- The text of bytes, or the first bytes that are none. -/
def decode : Encoding → Bytes → Except Undecodable Text
  | utf8, bytes => Utf8.strict 0 (Utf8.scan bytes)
  | utf8Marked, bytes => Utf8.strict 0 (Utf8.scan (dropMark bytes))
  | latin1, bytes => .ok (bytes.map fun b => .ofNat b.toNat)
  | ascii, bytes => decodeAscii bytes

/-- The text of bytes, with a replacement character for each undecodable sequence. -/
def decodeLossy : Encoding → Bytes → Text
  | utf8, bytes => Utf8.lossy (Utf8.scan bytes)
  | utf8Marked, bytes => Utf8.lossy (Utf8.scan (dropMark bytes))
  | latin1, bytes => bytes.map fun b => .ofNat b.toNat
  | ascii, bytes => bytes.map fun b => if b.toNat < 128 then .ofNat b.toNat else '\uFFFD'

/--
The text of a whole file, with every line ending as one newline. A file that
holds only the beginning of a byte order mark reads as empty where a mark is
expected.
-/
def read (encoding : Encoding) (bytes : Bytes) : Except Undecodable Text :=
  if encoding = utf8Marked && bytes.length < 3 && bytes.isPrefixOf mark then .ok []
  else (encoding.decode bytes).map Text.foldNewlines

end Encoding
end Marginalia
