import Marginalia.Encoding.Basic
import Marginalia.Proofs.RegistryRows
import Marginalia.Proofs.SectionPass
import Marginalia.Proofs.TextLines
import Marginalia.Language.Divider

/-!
# What can be read can be sent

A run reads a source in the encoding in which it speaks to the highlighter. So
the code of the source, which has no other characters than the source itself
and newlines, has bytes in this encoding, and so have the dividers between its
fragments, because the comment symbols of the standard table are ASCII. A source
that was read therefore always gets as far as the call of the highlighter.
-/

namespace Marginalia

namespace Encoding

/-- Whether an encoding has bytes for a character. -/
def Covers : Encoding → Char → Prop
  | utf8, _ => True
  | utf8Marked, _ => True
  | latin1, c => c.toNat < 256
  | ascii, c => c.toNat < 128

instance decidableCovers (encoding : Encoding) (c : Char) : Decidable (encoding.Covers c) :=
  match encoding with
  | utf8 => .isTrue trivial
  | utf8Marked => .isTrue trivial
  | latin1 => inferInstanceAs (Decidable (c.toNat < 256))
  | ascii => inferInstanceAs (Decidable (c.toNat < 128))

theorem covers_of_lt {c : Char} (h : c.toNat < 128) (encoding : Encoding) : encoding.Covers c := by
  cases encoding with
  | utf8 => trivial
  | utf8Marked => trivial
  | latin1 => exact Nat.lt_trans h (by decide)
  | ascii => exact h

/-! ## Writing -/

theorem exists_encodeBelow_eq_ok {codec : Text} {limit : Nat} {text : Text}
    (h : ∀ c ∈ text, c.toNat < limit) : ∃ bytes, encodeBelow codec limit text = .ok bytes := by
  rw [encodeBelow, Unencodable.find?_eq_none.2 fun c hmem => decide_eq_true (h c hmem)]
  exact ⟨_, rfl⟩

theorem exists_encode_eq_ok {encoding : Encoding} {text : Text}
    (h : ∀ c ∈ text, encoding.Covers c) : ∃ bytes, encoding.encode text = .ok bytes := by
  cases encoding with
  | utf8 => exact ⟨_, rfl⟩
  | utf8Marked => exact ⟨_, rfl⟩
  | latin1 => exact exists_encodeBelow_eq_ok h
  | ascii => exact exists_encodeBelow_eq_ok h

/-! ## Reading -/

theorem toNat_ofNat_of_lt {n : Nat} (h : n < 256) : (Char.ofNat n).toNat = n := by
  have hvalid : n.isValidChar := Or.inl (Nat.lt_trans h (by decide))
  rw [Char.ofNat, dif_pos hvalid]
  rfl

theorem covers_of_decode {encoding : Encoding} {bytes : Bytes} {text : Text}
    (h : encoding.decode bytes = .ok text) : ∀ c ∈ text, encoding.Covers c := by
  cases encoding with
  | utf8 => exact fun _ _ => trivial
  | utf8Marked => exact fun _ _ => trivial
  | latin1 =>
      cases h
      intro c hmem
      obtain ⟨b, _, rfl⟩ := List.mem_map.1 hmem
      rw [Covers, toNat_ofNat_of_lt b.toNat_lt]
      exact b.toNat_lt
  | ascii =>
      rw [decode, decodeAscii] at h
      split at h
      · next hall =>
          cases h
          intro c hmem
          obtain ⟨b, hb, rfl⟩ := List.mem_map.1 hmem
          rw [Covers, toNat_ofNat_of_lt b.toNat_lt]
          exact of_decide_eq_true (List.dropWhile_eq_nil_iff.1 hall b hb)
      · cases h

end Encoding

namespace Text

theorem mem_foldNewlines {text : Text} {c : Char} (h : c ∈ foldNewlines text) :
    c = '\n' ∨ c ∈ text := by
  fun_induction foldNewlines text with
  | case1 => cases h
  | case2 text ih =>
      rcases List.mem_cons.1 h with rfl | hmem
      · exact Or.inl rfl
      · exact (ih hmem).imp_right fun hrest => List.mem_cons_of_mem _ (List.mem_cons_of_mem _ hrest)
  | case3 first text _ ih =>
      rcases List.mem_cons.1 h with hfirst | hmem
      · split at hfirst
        · exact Or.inl hfirst
        · exact Or.inr (hfirst ▸ List.mem_cons_self ..)
      · exact (ih hmem).imp_right (List.mem_cons_of_mem _)

theorem foldCrLf_sublist (text : Text) : (foldCrLf text).Sublist text := by
  fun_induction foldCrLf text with
  | case1 => exact List.Sublist.refl []
  | case2 text ih => exact (ih.cons_cons '\n').cons '\r'
  | case3 c text _ ih => exact ih.cons_cons c

theorem unlines_sublist {lines others : List Text} (h : lines.Sublist others) :
    (unlines lines).Sublist (unlines others) := by
  induction h with
  | slnil => exact List.Sublist.refl []
  | cons line _ ih => exact (ih.cons '\n').trans (List.sublist_append_right line _)
  | cons_cons line _ ih => exact (ih.cons_cons '\n').append_left line

theorem unlines_splitOn (text : Text) : unlines (splitOn '\n' text) = text ++ ['\n'] := by
  induction text with
  | nil => rfl
  | cons c text ih =>
      obtain ⟨piece, pieces, heq⟩ := List.exists_cons_of_ne_nil (splitOn_ne_nil '\n' text)
      rw [splitOn]
      split
      · next hc => rw [unlines, ih, hc]; rfl
      · rw [heq] at ih ⊢
        exact congrArg (c :: ·) ih

end Text

theorem Encoding.covers_of_read {encoding : Encoding} {bytes : Bytes} {text : Text}
    (h : encoding.read bytes = .ok text) : ∀ c ∈ text, encoding.Covers c := by
  rw [read] at h
  split at h
  · cases h
    exact fun c hmem => by cases hmem
  · cases hdecode : encoding.decode bytes with
    | error fault => rw [hdecode] at h; cases h
    | ok decoded =>
        rw [hdecode] at h
        cases h
        intro c hmem
        rcases Text.mem_foldNewlines hmem with rfl | hmem
        · exact covers_of_lt (by decide) encoding
        · exact covers_of_decode hdecode c hmem

namespace Section

/-- The characters of the code of a list of sections. -/
def codeChars (sections : List Section) : Text :=
  sections.flatMap (·.code)

theorem codeChars_addDocs (line : Text) (sections : List Section) :
    codeChars (addDocs line sections) = codeChars sections := by
  cases sections <;> rfl

theorem codeChars_addCode (line : Text) (sections : List Section) :
    codeChars (addCode line sections) = line ++ '\n' :: codeChars sections := by
  cases sections with
  | nil => simp [codeChars, addCode]
  | cons first rest =>
      rw [addCode]
      split <;> simp [codeChars]

/-- The code of all sections is the code lines of the source. -/
theorem codeChars_ofLines (language : Language) (lines : List Text) :
    codeChars (ofLines language lines) =
      Text.unlines (lines.filter fun line => !language.isComment line) := by
  induction lines with
  | nil => rfl
  | cons line lines ih =>
      rw [ofLines_cons, addLine]
      cases hline : language.isComment line with
      | true =>
          rw [if_pos rfl, codeChars_addDocs, ih, List.filter_cons_of_neg (by simp [hline])]
      | false =>
          rw [if_neg (by simp), codeChars_addCode, ih, List.filter_cons_of_pos (by simp [hline]),
            Text.unlines]

theorem splitLines_sublist (source : Text) :
    (splitLines source).Sublist (Text.splitOn '\n' (Text.foldCrLf source)) := by
  rw [splitLines]
  split
  · exact List.dropLast_sublist _
  · exact List.Sublist.refl _

/-- The code of a source is the source with parts left out, and at most one newline more. -/
theorem codeChars_sublist (language : Language) (source : Text) :
    (codeChars (ofSource language source)).Sublist (source ++ ['\n']) := by
  rw [ofSource, codeChars_ofLines]
  refine (Text.unlines_sublist (List.filter_sublist.trans (splitLines_sublist source))).trans ?_
  rw [Text.unlines_splitOn]
  exact (Text.foldCrLf_sublist source).append_right ['\n']

/-- The code of a source has no other characters than the source. -/
theorem mem_code_ofSource {language : Language} {source : Text} {s : Section} {c : Char}
    (hs : s ∈ ofSource language source) (h : c ∈ s.code) : c = '\n' ∨ c ∈ source := by
  have hmem := (codeChars_sublist language source).subset (List.mem_flatMap.2 ⟨s, hs, h⟩)
  exact (List.mem_append.1 hmem).symm.imp_left List.mem_singleton.1

end Section

namespace Registry

theorem mem_languages_of_forPath {registry : Registry} {path : Text} {language : Language}
    (h : registry.forPath path = some language) : language ∈ registry.languages :=
  List.mem_map_of_mem (f := Prod.snd) (Dict.mem_of_get? h)

/-- The dividers of the registered languages are ASCII. -/
theorem toNat_lt_of_mem_languages {classes : List Text} {language : Language}
    (h : language ∈ (standard classes).languages) : ∀ c ∈ language.dividerText, c.toNat < 128 := by
  obtain ⟨_, hsymbol⟩ := mem_languages_standard h
  have hall : standardSymbols.all (fun symbol =>
      ('\n' :: (symbol ++ "DIVIDER".toList) ++ ['\n']).all fun c => c.toNat < 128) = true := by
    decide
  intro c hc
  rw [Language.dividerText, Language.dividerLine] at hc
  exact of_decide_eq_true
    (List.all_eq_true.1 (List.all_eq_true.1 hall language.symbol hsymbol) c hc)

theorem toNat_lt_of_mem_dividerText {classes : List Text} {path : Text} {language : Language}
    (h : (standard classes).forPath path = some language) :
    ∀ c ∈ language.dividerText, c.toNat < 128 :=
  toNat_lt_of_mem_languages (mem_languages_of_forPath h)

/-- The code of a source that was read has bytes in the encoding that it was read in. -/
theorem exists_encode_codes {classes : List Text} {path text : Text} {language : Language}
    {encoding : Encoding} {bytes : Bytes}
    (hlanguage : (standard classes).forPath path = some language)
    (hread : encoding.read bytes = .ok text) :
    ∃ stdin, encoding.encode (List.intercalate language.dividerText
      ((Section.ofSource language text).map (·.code))) = .ok stdin := by
  refine Encoding.exists_encode_eq_ok fun c hmem => ?_
  rcases Text.mem_intercalate hmem with hdivider | ⟨code, hcode, hc⟩
  · exact Encoding.covers_of_lt (toNat_lt_of_mem_dividerText hlanguage c hdivider) encoding
  · obtain ⟨s, hs, rfl⟩ := List.mem_map.1 hcode
    rcases Section.mem_code_ofSource hs hc with rfl | hsource
    · exact Encoding.covers_of_lt (by decide) encoding
    · exact Encoding.covers_of_read hread c hsource

end Registry
end Marginalia
