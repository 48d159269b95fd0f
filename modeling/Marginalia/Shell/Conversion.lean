import Marginalia.Shell.Request

/-!
# Conversion

Texts from one set of characters to another. A character is converted as soon as its
bytes are read, so all that stands before a fault comes out.
-/

namespace Marginalia.Shell.Conversion

/-- A set of characters with its bytes. -/
inductive Charset where
  | utf8
  | latin1
  | ascii
  deriving DecidableEq, Repr

/-- A set of characters by its name. -/
def Charset.named? (name : Text) : Option Charset :=
  let name := name.map Char.toUpper
  let utf8 := ["UTF-8", "UTF8"]
  let latin1 := ["ISO-8859-1", "ISO8859-1", "ISO88591", "ISO_8859-1", "LATIN1", "L1"]
  let ascii := ["ASCII", "US-ASCII", "ANSI_X3.4-1968"]
  if utf8.contains (String.ofList name) then some .utf8
  else if latin1.contains (String.ofList name) then some .latin1
  else if ascii.contains (String.ofList name) then some .ascii
  else none

/-- Why a text cannot be converted. -/
inductive Fault where
  /-- What stands at a place cannot be read, or not be written. -/
  | illegal (position : Nat)
  /-- A character is cut off at the end. -/
  | incomplete
  deriving DecidableEq, Repr

/-- A fault in words. -/
def Fault.message : Fault → Text
  | .illegal position => "illegal input sequence at position ".toList ++ Text.ofNat position
  | .incomplete => "incomplete character or shift sequence at end of buffer".toList

/-- The characters of bytes, each with its place, up to the first fault; with `skips`, what cannot
be read is left out. -/
def read (charset : Charset) (skips : Bool) (bytes : Bytes) : List (Nat × Char) × Option Fault :=
  let pieces := match charset with
    | .utf8 => Utf8.scan bytes
    | .latin1 => bytes.map fun b => .char (.ofNat b.toNat)
    | .ascii => bytes.map fun b =>
      if b.toNat < 128 then .char (.ofNat b.toNat) else .broken b 1 .start
  let size := fun (piece : Utf8.Piece) => if charset = .utf8 then piece.size else 1
  go size skips 0 pieces
where
  /-- The same for pieces from a place on. -/
  go (size : Utf8.Piece → Nat) (skips : Bool) (position : Nat) :
      List Utf8.Piece → List (Nat × Char) × Option Fault
    | [] => ([], none)
    | piece :: pieces =>
      match piece with
      | .char c =>
        let (rest, fault) := go size skips (position + size piece) pieces
        ((position, c) :: rest, fault)
      | .broken _ _ .ending => ([], some .incomplete)
      | .broken .. =>
        if skips then go size skips (position + size piece) pieces
        else ([], some (.illegal position))

/-- The bytes of a character. -/
def written? (charset : Charset) (c : Char) : Option Bytes :=
  match charset with
  | .utf8 => some (Utf8.encodeChar c)
  | .latin1 => if c.toNat < 256 then some [.ofNat c.toNat] else none
  | .ascii => if c.toNat < 128 then some [.ofNat c.toNat] else none

/-- The bytes of characters up to the first one that cannot be written. -/
def write (charset : Charset) (skips : Bool) : List (Nat × Char) → Bytes × Option Fault
  | [] => ([], none)
  | (position, c) :: rest =>
    match written? charset c with
    | none => if skips then write charset skips rest else ([], some (.illegal position))
    | some bytes =>
      let (others, fault) := write charset skips rest
      (bytes ++ others, fault)

/-- Bytes in another set of characters, as far as they can be converted. -/
def convert (source goal : Charset) (skips : Bool) (bytes : Bytes) : Bytes × Option Fault :=
  let (chars, readFault) := read source skips bytes
  let (made, writeFault) := write goal skips chars
  (made, writeFault.or readFault)

end Marginalia.Shell.Conversion

namespace Marginalia.Shell

/-- Converts the characters of files. -/
def Utility.iconv (request : Request) : Effect :=
  let given := options (.ofTable "cf:lo:st:"
    [("from-code=", 'f'), ("to-code=", 't'), ("output=", 'o'), ("silent", 's'), ("list", 'l')])
    none request.arguments
  let more := "\nTry `iconv --help' or `iconv --usage' for more information.".toList
  match given.fault with
  | some fault => refuse request (fault.message ++ more) 64
  | none =>
    let charset := fun (letter : Char) =>
      let name := (valueOf? given.found letter).getD "utf-8".toList
      match Conversion.Charset.named? (name.takeWhile (· != '/')) with
      | some charset => Except.ok charset
      | none => .error name
    match charset 'f', charset 't' with
    | .error name, _ | _, .error name =>
      refuse request ("conversion from `".toList ++ name ++ "' is not supported".toList ++ more) 1
    | .ok source, .ok goal =>
      let step := fun (effect : Effect) (operand : Text) =>
        match content request operand with
        | .error cause =>
          { effect with
            written := effect.written ++
              [(2, "iconv: cannot open input file `".toList ++ operand ++ "': ".toList ++
                cause.text ++ ['\n'])]
            status := 1 }
        | .ok text =>
          let skips := has given.found 'c'
          let (bytes, fault) := Conversion.convert source goal skips (streamBytes text)
          let complaint := fault.toList.map fun fault =>
            (2, "iconv: ".toList ++ fault.message ++ ['\n'])
          { effect with
            written := effect.written ++ (1, streamText bytes) :: complaint
            status := if fault.isSome then 1 else effect.status }
      let effect : Effect := { reads := readsInput given.operands }
      (sources given.operands).foldl step effect

end Marginalia.Shell
