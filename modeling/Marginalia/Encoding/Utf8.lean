import Marginalia.Text.Basic

/-!
# UTF-8

Encoding writes each character in one to four bytes. Decoding is a scan that
never fails: it cuts the bytes into characters and broken sequences, where a
broken sequence is the longest start of a valid one, or a single byte that
starts none. Strict and lossy reading are both readings of that scan.
-/

namespace Marginalia

/-- Bytes as they are stored in a file or passed to a program. -/
abbrev Bytes := List UInt8

namespace Utf8

/-- The bytes of one character. -/
def encodeChar (c : Char) : Bytes :=
  let n := c.toNat
  if n < 0x80 then [.ofNat n]
  else if n < 0x800 then [.ofNat (0xC0 + n / 64), .ofNat (0x80 + n % 64)]
  else if n < 0x10000 then
    [.ofNat (0xE0 + n / 4096), .ofNat (0x80 + n / 64 % 64), .ofNat (0x80 + n % 64)]
  else
    [.ofNat (0xF0 + n / 262144), .ofNat (0x80 + n / 4096 % 64), .ofNat (0x80 + n / 64 % 64),
      .ofNat (0x80 + n % 64)]

/-- The bytes of a text. -/
def encode (text : Text) : Bytes :=
  text.flatMap encodeChar

/-- Why a sequence of bytes is broken. -/
inductive Fault where
  /-- No character begins with this byte. -/
  | start
  /-- The next byte does not continue the character. -/
  | continuation
  /-- The bytes end inside the character. -/
  | ending
  deriving DecidableEq, Repr

/-- A piece of scanned bytes: a character, or a broken sequence with its first byte and its size. -/
inductive Piece where
  | char (c : Char)
  | broken (first : UInt8) (size : Nat) (fault : Fault)

/-- The number of bytes of a piece. -/
def Piece.size : Piece → Nat
  | .char c => (encodeChar c).length
  | .broken _ size _ => size

/-- Whether a byte can stand after the first one of a character. -/
def isContinuation (byte : UInt8) : Bool :=
  0x80 ≤ byte.toNat && byte.toNat < 0xC0

/--
Whether `second` can follow `lead`. Beyond being a continuation byte, it must not
make the sequence longer than needed, a surrogate, or more than the last code point.
-/
def isSecond (lead second : UInt8) : Bool :=
  isContinuation second &&
    !(lead.toNat == 0xE0 && second.toNat < 0xA0) && !(lead.toNat == 0xED && 0xA0 ≤ second.toNat) &&
    !(lead.toNat == 0xF0 && second.toNat < 0x90) && !(lead.toNat == 0xF4 && 0x90 ≤ second.toNat)

/-- The six payload bits of a continuation byte. -/
def payload (byte : UInt8) : Nat :=
  byte.toNat - 0x80

/-- Cuts bytes into characters and broken sequences, in order. -/
def scan : Bytes → List Piece
  | [] => []
  | a :: afterA =>
    let lead := a.toNat
    if lead < 0x80 then .char (.ofNat lead) :: scan afterA
    else if lead < 0xC2 || 0xF4 < lead then .broken a 1 .start :: scan afterA
    else
      match afterA with
      | [] => [.broken a 1 .ending]
      | b :: afterB =>
        if !isSecond a b then .broken a 1 .continuation :: scan (b :: afterB)
        else if lead < 0xE0 then .char (.ofNat ((lead - 0xC0) * 64 + payload b)) :: scan afterB
        else
          match afterB with
          | [] => [.broken a 2 .ending]
          | c :: afterC =>
            if !isContinuation c then .broken a 2 .continuation :: scan (c :: afterC)
            else if lead < 0xF0 then
              .char (.ofNat ((lead - 0xE0) * 4096 + payload b * 64 + payload c)) :: scan afterC
            else
              match afterC with
              | [] => [.broken a 3 .ending]
              | d :: afterD =>
                if !isContinuation d then .broken a 3 .continuation :: scan (d :: afterD)
                else
                  .char (.ofNat ((lead - 0xF0) * 262144 + payload b * 4096 + payload c * 64 +
                    payload d)) :: scan afterD

/-- The text of scanned bytes, with one replacement character for each broken sequence. -/
def lossy : List Piece → Text
  | [] => []
  | .char c :: pieces => c :: lossy pieces
  | .broken .. :: pieces => '\uFFFD' :: lossy pieces

end Utf8
end Marginalia
