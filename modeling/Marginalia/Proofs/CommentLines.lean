import Marginalia.Language.Basic
import Marginalia.Proofs.TextSearch

/-!
# What a comment line is made of

A comment line is indentation, the symbol, at most one blank, and the text that stripping
leaves. Looking for the symbol tries the longest indentation first and then shorter ones.
For a symbol that starts with no blank this makes no difference: where the symbol begins
no blank stands, and so the indentation before it is all the white space that the line
begins with.

So a line is judged by what it is without its indentation, and both questions, whether the
symbol follows and whether the symbol follows with an opening brace, are asked at the same
place. Only an interpreter line is looked for at the very start.
-/

namespace Marginalia

/-- A symbol with its first character, which is no blank, is looked for at one place only. -/
theorem afterSymbol?_eq {symbol : Text} (hne : symbol ≠ [])
    (hblank : ∀ c ∈ symbol.head?, isBlank c = false) (line : Text) :
    afterSymbol? symbol line = Text.dropStart? symbol (Text.trimStart line) := by
  obtain ⟨first, others, rfl⟩ := List.exists_cons_of_ne_nil hne
  have hfirst : isBlank first = false := hblank first rfl
  induction line with
  | nil => rfl
  | cons c line ih =>
      rw [afterSymbol?, Text.trimStart]
      cases hc : isBlank c with
      | true =>
          have hne : first ≠ c := by
            rintro rfl
            rw [hc] at hfirst
            cases hfirst
          rw [if_pos rfl, Text.dropStart?, if_neg hne, Option.or_none, ih,
            List.dropWhile_cons_of_pos hc, ← Text.trimStart]
      | false => rw [if_neg Bool.false_ne_true, List.dropWhile_cons_of_neg (by simp [hc])]

namespace Language

/-- A line with the symbol of a language: indentation, the symbol, a blank if there is one,
and the text. -/
structure IsWritten (language : Language) (line indent gap text : Text) : Prop where
  line_eq : line = indent ++ language.symbol ++ gap ++ text
  indent_isBlank : Text.isBlank indent = true
  gap_isBlank : Text.isBlank gap = true
  length_gap_le : gap.length ≤ 1
  /-- A blank behind the symbol is never left in the text. -/
  head_of_gap_eq_nil : gap = [] → ∀ c ∈ text.head?, isBlank c = false

/-- One blank at most is dropped, and one is if there is any. -/
theorem exists_eq_append_dropBlank (rest : Text) :
    ∃ gap, rest = gap ++ dropBlank rest ∧ Text.isBlank gap = true ∧ gap.length ≤ 1 ∧
      (gap = [] → ∀ c ∈ (dropBlank rest).head?, isBlank c = false) := by
  cases rest with
  | nil => exact ⟨[], rfl, rfl, Nat.zero_le 1, fun _ c hc => by cases hc⟩
  | cons c rest =>
      rw [dropBlank]
      cases hc : isBlank c with
      | true =>
          have hgap : Text.isBlank [c] = true := by simp [Text.isBlank, hc]
          exact ⟨[c], rfl, hgap, Nat.le_refl 1, fun hnil => absurd hnil (List.cons_ne_nil c [])⟩
      | false =>
          refine ⟨[], rfl, rfl, Nat.zero_le 1, fun _ d hd => ?_⟩
          cases hd
          exact hc

variable {language : Language}

theorem isComment_iff (hne : language.symbol ≠ [])
    (hblank : ∀ c ∈ language.symbol.head?, isBlank c = false) (line : Text) :
    language.isComment line = true ↔
      language.symbol <+: Text.trimStart line ∧
        ¬ language.symbol ++ ['\x7b'] <+: Text.trimStart line ∧ ¬ "#!/".toList <+: line := by
  have hbrace : ∀ c ∈ (language.symbol ++ ['\x7b']).head?, isBlank c = false := by
    rwa [List.head?_append_of_ne_nil _ hne]
  rw [isComment, afterSymbol?_eq hne hblank,
    afterSymbol?_eq (List.append_ne_nil_of_left_ne_nil hne _) hbrace, Bool.and_eq_true,
    Bool.and_eq_true, Option.isNone_iff_eq_none, Text.dropStart?_eq_none_iff,
    Text.isSome_dropStart?_iff, isInterpreterLine, Bool.not_eq_true', ← Bool.not_eq_true,
    Text.startsWith_iff]
  tauto

/-- Whether a line is a comment is seen behind its indentation, an interpreter line apart;
and stripping a line that has the symbol there leaves the last of its four parts. -/
theorem isComment_iff_and_isWritten (hne : language.symbol ≠ [])
    (hblank : ∀ c ∈ language.symbol.head?, isBlank c = false) (line : Text) :
    (language.isComment line = true ↔
      language.symbol <+: Text.trimStart line ∧
        ¬ language.symbol ++ ['\x7b'] <+: Text.trimStart line ∧ ¬ "#!/".toList <+: line) ∧
    (¬ language.symbol <+: Text.trimStart line → language.stripComment line = line) ∧
    ∀ rest, Text.trimStart line = language.symbol ++ rest →
      ∃ indent gap, language.IsWritten line indent gap (language.stripComment line) ∧
        rest = gap ++ language.stripComment line := by
  have hafter := afterSymbol?_eq hne hblank line
  refine ⟨isComment_iff hne hblank line, fun hstart => ?_, fun rest hrest => ?_⟩
  · rw [stripComment, hafter, Text.dropStart?_eq_none_iff.2 hstart]
  · have hstrip : language.stripComment line = dropBlank rest := by
      rw [stripComment, hafter, hrest, Text.dropStart?_append]
    obtain ⟨gap, hgap, hblankGap, hlength, hhead⟩ := exists_eq_append_dropBlank rest
    have hline : line = line.takeWhile isBlank ++ Text.trimStart line :=
      List.takeWhile_append_dropWhile.symm
    rw [hstrip]
    refine ⟨line.takeWhile isBlank, gap, ⟨?_, List.all_takeWhile, hblankGap, hlength, hhead⟩, hgap⟩
    rw [hrest, hgap] at hline
    simpa only [List.append_assoc] using hline

/-- Of two blanks behind the symbol one stays; what the symbol is made of makes no difference. -/
theorem isComment_iff_and_isWritten_metacharacters :
    let language : Language :=
      { extension := ".x".toList, name := "x".toList, symbol := ".*+(".toList }
    let line := "\n\u00a0.*+(\u2003\ta".toList
    language.isComment line = true ∧ language.stripComment line = "\ta".toList := by
  intro language line
  have hne : language.symbol ≠ [] := by decide
  have hblank : ∀ c ∈ language.symbol.head?, isBlank c = false := by
    rintro _ ⟨⟩
    decide
  obtain ⟨hcomment, _, hwritten⟩ := isComment_iff_and_isWritten hne hblank line
  refine ⟨hcomment.2 (by decide), ?_⟩
  obtain ⟨indent, gap, hparts, hrest⟩ := hwritten "\u2003\ta".toList (by decide)
  match gap, hparts.length_gap_le with
  | [], _ =>
      have htext : language.stripComment line = "\u2003\ta".toList := hrest.symm
      exact absurd (hparts.head_of_gap_eq_nil rfl '\u2003' (by rw [htext]; rfl)) (by decide)
  | [c], _ => exact (List.cons.inj hrest).2.symm

end Language
end Marginalia
