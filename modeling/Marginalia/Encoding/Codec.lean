import Marginalia.Encoding.Basic

/-!
# Codecs

A run knows the encoding of its sources by a name only. What a name stands for is
looked up among codecs, which are functions, so that the rest of the library does
not depend on which encodings there are. The encodings of this library are some of
them.
-/

namespace Marginalia

/-- What a codec does not do. -/
inductive CodecFault where
  | unencodable (fault : Unencodable)
  | undecodable (fault : Undecodable)
  /-- It refuses text or bytes in words of its own. -/
  | refused (message : Text)
  deriving DecidableEq, Repr

/-- A way to write text as bytes and to read bytes as text. -/
structure Codec where
  encode : Text → Except CodecFault Bytes
  /-- The text of bytes, with replacement characters for what is no text. -/
  decodeLossy : Bytes → Except CodecFault Text
  /-- The text of a whole file, with every line ending as one newline. -/
  read : Bytes → Except CodecFault Text

/-- A codec can put replacement characters for all that is no text to it. -/
def Codec.Replaces (codec : Codec) : Prop :=
  ∀ bytes, ∃ text, codec.decodeLossy bytes = .ok text

namespace Encoding

/-- An encoding as a codec. -/
def codec (encoding : Encoding) : Codec where
  encode text := (encoding.encode text).mapError .unencodable
  decodeLossy bytes := .ok (encoding.decodeLossy bytes)
  read bytes := (encoding.read bytes).mapError .undecodable

/-- The codec of the encoding that a name stands for. -/
def codec? (name : Text) : Option Codec :=
  (named? name).map codec

theorem replaces_codec (encoding : Encoding) : encoding.codec.Replaces :=
  fun _ => ⟨_, rfl⟩

theorem codec?_of_named? {name : Text} {encoding : Encoding} (h : named? name = some encoding) :
    codec? name = some encoding.codec := by
  rw [codec?, h]
  rfl

theorem codec?_utf8 : codec? "utf-8".toList = some utf8.codec :=
  codec?_of_named? (by decide)

theorem encode_codec_eq_ok {encoding : Encoding} {text : Text} {bytes : Bytes} :
    encoding.codec.encode text = .ok bytes ↔ encoding.encode text = .ok bytes := by
  show (encoding.encode text).mapError CodecFault.unencodable = .ok bytes ↔ _
  cases encoding.encode text with
  | ok sent => exact ⟨fun h => (by cases h; rfl), fun h => (by cases h; rfl)⟩
  | error fault => exact ⟨fun h => (by cases h), fun h => (by cases h)⟩

theorem read_codec_eq_ok {encoding : Encoding} {bytes : Bytes} {text : Text} :
    encoding.codec.read bytes = .ok text ↔ encoding.read bytes = .ok text := by
  show (encoding.read bytes).mapError CodecFault.undecodable = .ok text ↔ _
  cases encoding.read bytes with
  | ok content => exact ⟨fun h => (by cases h; rfl), fun h => (by cases h; rfl)⟩
  | error fault => exact ⟨fun h => (by cases h), fun h => (by cases h)⟩

end Encoding
end Marginalia
