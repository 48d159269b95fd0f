import Marginalia.Highlighter.Wrapper
import Marginalia.Proofs.DividerSplit
import Mathlib.Data.List.Infix

/-!
# What an output wraps

The body of an output is found by taking things off it one after the other. `Wraps` says
the same without an order: the body is what stands between the tags, with nothing but
white space around them. `body?_eq_some_iff` is for every output, so it also says that
there is never a second body, even where the body holds the closing tag itself.

Two things could be taken off that belong to the body or to a tag. Trimming stops at the
tags, because they begin and end with an angle bracket. And an empty span that is found
behind the opening tag is all of it there: it cannot begin in the body and end in the
closing tag, because the two tags differ after their first characters.
-/

namespace Marginalia

namespace Text

theorem dropEnd?_append (text ending : Text) : dropEnd? ending (text ++ ending) = some text := by
  rw [dropEnd?, List.reverse_append, dropStart?_append, Option.map_some, List.reverse_reverse]

theorem eq_append_of_dropEnd? {text ending rest : Text} (h : dropEnd? ending text = some rest) :
    text = rest ++ ending := by
  obtain ⟨front, hfront, rfl⟩ := Option.map_eq_some_iff.1 h
  rw [← List.reverse_reverse text, eq_append_of_dropStart? hfront, List.reverse_append,
    List.reverse_reverse]

theorem trimStart_append {front : Text} (h : isBlank front = true) (rest : Text) :
    trimStart (front ++ rest) = trimStart rest :=
  List.dropWhile_append_of_pos (List.all_eq_true.1 h)

theorem trimEnd_append {rest : Text} (h : isBlank rest = true) (front : Text) :
    trimEnd (front ++ rest) = trimEnd front := by
  have hblank : ∀ c ∈ rest.reverse, Marginalia.isBlank c = true := by
    intro c hc
    exact List.all_eq_true.1 h c (List.mem_reverse.1 hc)
  rw [trimEnd, trimEnd, dropEndWhile, List.reverse_append, List.dropWhile_append_of_pos hblank,
    dropEndWhile]

theorem exists_eq_append_trimStart (text : Text) :
    ∃ before, isBlank before = true ∧ text = before ++ trimStart text :=
  ⟨text.takeWhile Marginalia.isBlank, List.all_takeWhile, (List.takeWhile_append_dropWhile).symm⟩

theorem exists_eq_trimEnd_append (text : Text) :
    ∃ after, isBlank after = true ∧ text = trimEnd text ++ after := by
  obtain ⟨before, hbefore, htext⟩ := exists_eq_append_trimStart text.reverse
  refine ⟨before.reverse, ?_, ?_⟩
  · rwa [isBlank, List.all_reverse]
  · rw [trimEnd, dropEndWhile, ← List.reverse_append, ← trimStart, ← htext, List.reverse_reverse]

end Text

namespace Wrapper

/-- An output is one block around `body`, which an empty span may precede. -/
def Wraps (output body : Text) : Prop :=
  ∃ before span after : Text, Text.isBlank before = true ∧ Text.isBlank after = true ∧
    (span = "<span></span>".toList ∨ span = [] ∧ ¬ "<span></span>".toList <+: body) ∧
    output = before ++ "<div class=\"highlight\"><pre>".toList ++ span ++ body ++
      "</pre></div>".toList ++ after

theorem wraps_iff {output body : Text} : Wraps output body ↔
    ∃ before span after : Text, Text.isBlank before = true ∧ Text.isBlank after = true ∧
      (span = emptySpan ∨ span = [] ∧ ¬ emptySpan <+: body) ∧
      output = before ++ opening ++ span ++ body ++ closing ++ after := .rfl

theorem wrap_eq (fragment : Text) : wrap fragment =
    "<div class=\"highlight\"><pre>".toList ++ fragment ++ "</pre></div>".toList := rfl

theorem trimStart_opening_append (rest : Text) :
    Text.trimStart (opening ++ rest) = opening ++ rest := by
  have hopening : opening = '<' :: "div class=\"highlight\"><pre>".toList := by decide
  rw [hopening, List.cons_append, Text.trimStart, List.dropWhile_cons_of_neg (by decide)]

theorem trimEnd_append_closing (body : Text) :
    Text.trimEnd (body ++ closing) = body ++ closing := by
  have hclosing : closing = "</pre></div".toList ++ ['>'] := by decide
  rw [hclosing, ← List.append_assoc, Text.trimEnd, Text.dropEndWhile_concat_of_neg rfl]

theorem dropSpan_append (rest : Text) : dropSpan (emptySpan ++ rest) = rest := by
  rw [dropSpan, Text.dropStart?_append, Option.getD_some]

theorem dropSpan_eq_self {text : Text} (h : ¬ emptySpan <+: text) : dropSpan text = text := by
  rw [dropSpan, Text.dropStart?_eq_none_iff.2 h, Option.getD_none]

/-- The closing tag does not complete an empty span. -/
theorem not_prefix_append_closing {body : Text} (h : ¬ emptySpan <+: body) (after : Text) :
    ¬ emptySpan <+: body ++ (closing ++ after) := by
  rintro ⟨rest, heq⟩
  rcases List.append_eq_append_iff.1 heq with ⟨middle, hbody, _⟩ | ⟨middle, hspan, hclosing⟩
  · exact h ⟨middle, hbody.symm⟩
  · have hne : middle ≠ [] := by
      rintro rfl
      exact h ⟨[], by rw [hspan, List.append_nil, List.append_nil]⟩
    -- what the body lacks of the span would have to begin the closing tag
    have hwhole : middle.take 3 <+: closing ++ after := by
      rw [hclosing]
      exact (List.take_prefix 3 middle).trans (List.prefix_append ..)
    have hbegins : middle.take 3 <+: closing :=
      List.prefix_of_prefix_length_le hwhole (List.prefix_append ..)
        ((List.length_take_le 3 middle).trans (by decide))
    have hnone : ∀ rest ∈ emptySpan.tails, rest ≠ [] → ¬ rest.take 3 <+: closing := by decide
    exact hnone middle ((List.mem_tails ..).2 ⟨body, hspan.symm⟩) hne hbegins

/-- The body that is found is the one that is wrapped. -/
theorem body?_eq_some_iff {output body : Text} : body? output = some body ↔ Wraps output body := by
  rw [wraps_iff]
  constructor
  · intro h
    obtain ⟨rest, hopening, hclosing⟩ := Option.bind_eq_some_iff.1 h
    obtain ⟨before, hbefore, houtput⟩ := Text.exists_eq_append_trimStart output
    obtain ⟨after, hafter, hrest⟩ := Text.exists_eq_trimEnd_append (dropSpan rest)
    rw [Text.eq_append_of_dropStart? hopening] at houtput
    rw [Text.eq_append_of_dropEnd? hclosing] at hrest
    by_cases hspan : emptySpan <+: rest
    · obtain ⟨inner, rfl⟩ := hspan
      rw [dropSpan_append] at hrest
      refine ⟨before, emptySpan, after, hbefore, hafter, Or.inl rfl, ?_⟩
      rw [houtput, hrest]
      simp only [List.append_assoc]
    · rw [dropSpan_eq_self hspan] at hrest
      refine ⟨before, [], after, hbefore, hafter, Or.inr ⟨rfl, fun hbody => hspan ?_⟩, ?_⟩
      · rw [hrest, List.append_assoc]
        exact hbody.trans (List.prefix_append ..)
      · rw [houtput, hrest]
        simp only [List.append_assoc, List.nil_append]
  · rintro ⟨before, span, after, hbefore, hafter, hspan, rfl⟩
    have hdrop : dropSpan (span ++ (body ++ (closing ++ after))) = body ++ (closing ++ after) := by
      rcases hspan with rfl | ⟨rfl, hbody⟩
      · exact dropSpan_append _
      · exact dropSpan_eq_self (not_prefix_append_closing hbody after)
    simp only [List.append_assoc]
    rw [body?, Text.trimStart_append hbefore, trimStart_opening_append, Text.dropStart?_append,
      Option.bind_some, hdrop, ← List.append_assoc, Text.trimEnd_append hafter,
      trimEnd_append_closing, Text.dropEnd?_append]

theorem Wraps.subset {output body : Text} (h : Wraps output body) : body ⊆ output := by
  obtain ⟨before, span, after, _, _, _, rfl⟩ := h
  intro c hmem
  simp [hmem]

theorem Wraps.unique {output body other : Text} (h : Wraps output body)
    (hother : Wraps output other) : body = other := by
  have heq := (body?_eq_some_iff.2 h).symm.trans (body?_eq_some_iff.2 hother)
  exact Option.some.inj heq

end Wrapper

end Marginalia
