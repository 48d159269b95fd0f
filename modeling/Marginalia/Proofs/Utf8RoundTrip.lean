import Marginalia.Encoding.Basic

/-!
# Scanning what was encoded

The scanner finds in the bytes of a text exactly the characters of the text, no
broken sequence among them. The argument goes one character at a time: after
the bytes of a character the scanner is where it would have started without
them. The four lengths of a character are four cases of the scanner, and in
each of them what remains is arithmetic on the bounds of that length.
-/

namespace Marginalia

namespace Utf8

/-! ## The scanner at the start of a character -/

theorem scan_one {a : UInt8} (ha : a.toNat < 0x80) (rest : Bytes) :
    scan (a :: rest) = .char (.ofNat a.toNat) :: scan rest := by
  rw [scan.eq_def]
  simp only []
  rw [if_pos ha]

theorem scan_two {a b : UInt8} (hlow : 0xC2 ≤ a.toNat) (hhigh : a.toNat < 0xE0)
    (hb : isSecond a b = true) (rest : Bytes) :
    scan (a :: b :: rest) = .char (.ofNat ((a.toNat - 0xC0) * 64 + payload b)) :: scan rest := by
  have hone : ¬ a.toNat < 0x80 := by omega
  have hlead : (decide (a.toNat < 0xC2) || decide (0xF4 < a.toNat)) = false := by
    simp only [Bool.or_eq_false_iff, decide_eq_false_iff_not]
    omega
  rw [scan.eq_def]
  simp only [hlead, hb, if_neg hone, if_pos hhigh, Bool.false_eq_true, if_false, Bool.not_true]

theorem scan_three {a b c : UInt8} (hlow : 0xE0 ≤ a.toNat) (hhigh : a.toNat < 0xF0)
    (hb : isSecond a b = true) (hc : isContinuation c = true) (rest : Bytes) :
    scan (a :: b :: c :: rest) =
      .char (.ofNat ((a.toNat - 0xE0) * 4096 + payload b * 64 + payload c)) :: scan rest := by
  have hone : ¬ a.toNat < 0x80 := by omega
  have htwo : ¬ a.toNat < 0xE0 := by omega
  have hlead : (decide (a.toNat < 0xC2) || decide (0xF4 < a.toNat)) = false := by
    simp only [Bool.or_eq_false_iff, decide_eq_false_iff_not]
    omega
  rw [scan.eq_def]
  simp only [hlead, hb, hc, if_neg hone, if_neg htwo, if_pos hhigh, Bool.false_eq_true,
    if_false, Bool.not_true]

theorem scan_four {a b c d : UInt8} (hlow : 0xF0 ≤ a.toNat) (hhigh : a.toNat ≤ 0xF4)
    (hb : isSecond a b = true) (hc : isContinuation c = true) (hd : isContinuation d = true)
    (rest : Bytes) :
    scan (a :: b :: c :: d :: rest) =
      .char (.ofNat ((a.toNat - 0xF0) * 262144 + payload b * 4096 + payload c * 64 +
        payload d)) :: scan rest := by
  have hone : ¬ a.toNat < 0x80 := by omega
  have htwo : ¬ a.toNat < 0xE0 := by omega
  have hthree : ¬ a.toNat < 0xF0 := by omega
  have hlead : (decide (a.toNat < 0xC2) || decide (0xF4 < a.toNat)) = false := by
    simp only [Bool.or_eq_false_iff, decide_eq_false_iff_not]
    omega
  rw [scan.eq_def]
  simp only [hlead, hb, hc, hd, if_neg hone, if_neg htwo, if_neg hthree, Bool.false_eq_true,
    if_false, Bool.not_true]

/-! ## The bytes of a character -/

/-- A byte that is written for a number below 256 is that number. -/
theorem toNat_byte {n : Nat} (h : n < 256) : (UInt8.ofNat n).toNat = n := by
  rw [UInt8.toNat_ofNat']
  omega

theorem isContinuation_byte {n : Nat} (h : n < 64) :
    isContinuation (UInt8.ofNat (0x80 + n)) = true := by
  rw [isContinuation, toNat_byte (by omega)]
  simp only [Bool.and_eq_true, decide_eq_true_eq]
  omega

theorem payload_byte {n : Nat} (h : n < 64) : payload (UInt8.ofNat (0x80 + n)) = n := by
  have hbyte := toNat_byte (n := 0x80 + n) (by omega)
  unfold payload
  omega

/-- A second byte is refused only beside four of the first bytes. -/
theorem isSecond_byte (lead n : Nat) (hlead : lead < 256) (hn : n < 64)
    (he0 : lead = 0xE0 → 0x20 ≤ n) (hed : lead = 0xED → n < 0x20)
    (hf0 : lead = 0xF0 → 0x10 ≤ n) (hf4 : lead = 0xF4 → n < 0x10) :
    isSecond (UInt8.ofNat lead) (UInt8.ofNat (0x80 + n)) = true := by
  rw [isSecond, isContinuation_byte hn, toNat_byte hlead, toNat_byte (by omega)]
  simp only [Bool.true_and, Bool.and_eq_true, Bool.not_eq_true', Bool.and_eq_false_imp,
    beq_iff_eq, decide_eq_false_iff_not]
  omega

theorem char_bounds (c : Char) :
    c.toNat < 0xD800 ∨ 0xDFFF < c.toNat ∧ c.toNat < 0x110000 := c.valid

/-- After the bytes of a character the scan goes on as if they had not been there. -/
theorem scan_encodeChar_append (c : Char) (rest : Bytes) :
    scan (encodeChar c ++ rest) = .char c :: scan rest := by
  have hbounds := char_bounds c
  unfold encodeChar
  simp only []
  split
  · next hone =>
      have hbyte := toNat_byte (n := c.toNat) (by omega)
      rw [List.cons_append, List.nil_append, scan_one (by omega), hbyte, Char.ofNat_toNat]
  · split
    · next hone htwo =>
        have hbyte := toNat_byte (n := 0xC0 + c.toNat / 64) (by omega)
        have hsecond := isSecond_byte (0xC0 + c.toNat / 64) (c.toNat % 64)
          (by omega) (by omega) (by omega) (by omega) (by omega) (by omega)
        have hvalue : (0xC0 + c.toNat / 64 - 0xC0) * 64 + c.toNat % 64 = c.toNat := by omega
        simp only [List.cons_append, List.nil_append]
        rw [scan_two (by omega) (by omega) hsecond, hbyte, payload_byte (by omega), hvalue,
          Char.ofNat_toNat]
    · split
      · next hone htwo hthree =>
          have hbyte := toNat_byte (n := 0xE0 + c.toNat / 4096) (by omega)
          have hsecond := isSecond_byte (0xE0 + c.toNat / 4096) (c.toNat / 64 % 64)
            (by omega) (by omega) (by omega) (by omega) (by omega) (by omega)
          have hthird := isContinuation_byte (n := c.toNat % 64) (by omega)
          have hvalue : (0xE0 + c.toNat / 4096 - 0xE0) * 4096 + c.toNat / 64 % 64 * 64 +
              c.toNat % 64 = c.toNat := by omega
          simp only [List.cons_append, List.nil_append]
          rw [scan_three (by omega) (by omega) hsecond hthird, hbyte,
            payload_byte (by omega), payload_byte (by omega), hvalue, Char.ofNat_toNat]
      · next hone htwo hthree =>
          have hbyte := toNat_byte (n := 0xF0 + c.toNat / 262144) (by omega)
          have hsecond := isSecond_byte (0xF0 + c.toNat / 262144) (c.toNat / 4096 % 64)
            (by omega) (by omega) (by omega) (by omega) (by omega) (by omega)
          have hthird := isContinuation_byte (n := c.toNat / 64 % 64) (by omega)
          have hfourth := isContinuation_byte (n := c.toNat % 64) (by omega)
          have hvalue : (0xF0 + c.toNat / 262144 - 0xF0) * 262144 +
              c.toNat / 4096 % 64 * 4096 + c.toNat / 64 % 64 * 64 + c.toNat % 64 =
              c.toNat := by omega
          simp only [List.cons_append, List.nil_append]
          rw [scan_four (by omega) (by omega) hsecond hthird hfourth, hbyte,
            payload_byte (by omega), payload_byte (by omega), payload_byte (by omega), hvalue,
            Char.ofNat_toNat]

/-! ## Whole texts -/

theorem scan_encode (text : Text) : scan (encode text) = text.map .char := by
  induction text with
  | nil => rw [encode, List.flatMap_nil, scan.eq_def]; rfl
  | cons c text ih =>
      rw [encode, List.flatMap_cons, ← encode, scan_encodeChar_append, ih]
      rfl

theorem strict_map_char (position : Nat) (text : Text) :
    strict position (text.map .char) = .ok text := by
  induction text generalizing position with
  | nil => rfl
  | cons c text ih =>
      rw [List.map_cons, strict, ih]
      rfl

theorem lossy_map_char (text : Text) : lossy (text.map .char) = text := by
  induction text with
  | nil => rfl
  | cons c text ih => rw [List.map_cons, lossy, ih]

end Utf8

namespace Encoding

theorem decode_encode_utf8 (text : Text) : decode .utf8 (Utf8.encode text) = .ok text := by
  rw [decode, Utf8.scan_encode, Utf8.strict_map_char]

theorem decodeLossy_encode_utf8 (text : Text) :
    decodeLossy .utf8 (Utf8.encode text) = text := by
  rw [decodeLossy, Utf8.scan_encode, Utf8.lossy_map_char]

end Encoding
end Marginalia
