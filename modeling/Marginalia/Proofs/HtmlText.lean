import Marginalia.Html

/-!
# The text behind HTML

Escaping is one way to write a text so that no character of it can be taken for
markup. This file holds the way back: `plain` drops the tags of a piece of HTML
and reads its entities, and on an escaped text it is the inverse of escaping,
whichever way quotes were written.

Reading entities is a scan, and the scan never looks behind an ampersand that
escaping did not write: in an escaped text each ampersand starts one of the
entities below. So the inverse goes by the characters of the text, and each of
them is read back whole whatever follows it.
-/

namespace Marginalia.Html

/-- A text with the entities that escaping writes read as the characters they stand for. -/
def unescape : Text → Text
  | '&' :: 'a' :: 'm' :: 'p' :: ';' :: text => '&' :: unescape text
  | '&' :: 'l' :: 't' :: ';' :: text => '<' :: unescape text
  | '&' :: 'g' :: 't' :: ';' :: text => '>' :: unescape text
  | '&' :: 'q' :: 'u' :: 'o' :: 't' :: ';' :: text => '"' :: unescape text
  | '&' :: '#' :: 'x' :: '2' :: '7' :: ';' :: text => '\'' :: unescape text
  | '&' :: '#' :: '3' :: '4' :: ';' :: text => '"' :: unescape text
  | '&' :: '#' :: '3' :: '9' :: ';' :: text => '\'' :: unescape text
  | c :: text => c :: unescape text
  | [] => []

/-- What stands outside of tags, when the text starts inside of one or not. -/
def outsideTags : (inside : Bool) → Text → Text
  | _, [] => []
  | true, c :: text => outsideTags (c != '>') text
  | false, c :: text =>
    if c = '<' then outsideTags true text else c :: outsideTags false text

/-- The text that a piece of HTML shows: without tags, its entities read. -/
def plain (html : Text) : Text :=
  unescape (outsideTags false html)

/-- Whether a character opens or closes a tag. -/
def isAngle (c : Char) : Bool :=
  c == '<' || c == '>'

/-- Whether a character can end the attribute that it stands in. -/
def isQuote (c : Char) : Bool :=
  c == '"' || c == '\''

/-! ## Escaping and back -/

theorem unescape_cons {c : Char} (hc : c ≠ '&') (text : Text) :
    unescape (c :: text) = c :: unescape text := by
  rw [unescape.eq_def]
  split <;> simp_all

theorem unescape_escapeChar (quotes : Quotes) (c : Char) (text : Text) :
    unescape (escapeChar quotes c ++ text) = c :: unescape text := by
  unfold escapeChar
  split
  · next hc => subst hc; rfl
  · next hamp =>
      split
      · next hc => subst hc; rfl
      · split
        · next hc => subst hc; rfl
        · split
          · next hc =>
              subst hc
              cases quotes with
              | kept => exact unescape_cons hamp text
              | highlighted | numbered => rfl
          · split
            · next hc =>
                subst hc
                cases quotes with
                | kept => exact unescape_cons hamp text
                | highlighted | numbered => rfl
            · exact unescape_cons hamp text

theorem escape_cons (quotes : Quotes) (c : Char) (text : Text) :
    escape quotes (c :: text) = escapeChar quotes c ++ escape quotes text := rfl

theorem escape_append (quotes : Quotes) (text other : Text) :
    escape quotes (text ++ other) = escape quotes text ++ escape quotes other :=
  List.flatMap_append

/-- What was escaped is read back, whatever follows. -/
theorem unescape_escape_append (quotes : Quotes) (text rest : Text) :
    unescape (escape quotes text ++ rest) = text ++ unescape rest := by
  induction text with
  | nil => rfl
  | cons c text ih =>
      rw [escape_cons, List.append_assoc, unescape_escapeChar, ih]
      rfl

theorem unescape_escape (quotes : Quotes) (text : Text) :
    unescape (escape quotes text) = text := by
  have h := unescape_escape_append quotes text []
  rw [List.append_nil] at h
  rw [h]
  exact List.append_nil text

theorem escape_injective (quotes : Quotes) {text other : Text}
    (h : escape quotes text = escape quotes other) : text = other := by
  rw [← unescape_escape quotes text, h, unescape_escape]

/-! ## What is in an escaped text -/

/-- The entities that escaping writes. -/
def entities : List Text :=
  ["&amp;", "&lt;", "&gt;", "&quot;", "&#x27;", "&#34;", "&#39;"].map String.toList

theorem escapeChar_cases (quotes : Quotes) (c : Char) :
    escapeChar quotes c = [c] ∧ isAngle c = false ∨ escapeChar quotes c ∈ entities := by
  unfold escapeChar
  split
  · exact Or.inr (by decide)
  · split
    · exact Or.inr (by decide)
    · split
      · exact Or.inr (by decide)
      · next hlt hgt =>
          have hangle : isAngle c = false := by simp [isAngle, hlt, hgt]
          split
          · next hc =>
              subst hc
              cases quotes with
              | kept => exact Or.inl ⟨rfl, hangle⟩
              | highlighted | numbered => exact Or.inr (by decide)
          · split
            · next hc =>
                subst hc
                cases quotes with
                | kept => exact Or.inl ⟨rfl, hangle⟩
                | highlighted | numbered => exact Or.inr (by decide)
            · exact Or.inl ⟨rfl, hangle⟩

theorem plain_of_mem_entities :
    ∀ entity ∈ entities, ∀ c ∈ entity, isAngle c = false ∧ c ≠ '\n' ∧ isQuote c = false := by
  have hall : entities.all (fun entity =>
      entity.all fun c => !isAngle c && (c != '\n' && !isQuote c)) = true := by
    decide
  simpa only [List.all_eq_true, Bool.and_eq_true, Bool.not_eq_true', bne_iff_ne] using hall

/-- A character of an escaped text is kept from the text or belongs to an entity. -/
theorem mem_escape_cases {quotes : Quotes} {text : Text} {c : Char} (h : c ∈ escape quotes text) :
    (c ∈ text ∧ escapeChar quotes c = [c] ∧ isAngle c = false) ∨
      isAngle c = false ∧ c ≠ '\n' ∧ isQuote c = false := by
  obtain ⟨d, hd, hmem⟩ := List.mem_flatMap.1 h
  rcases escapeChar_cases quotes d with ⟨hself, hangle⟩ | hentity
  · rw [hself, List.mem_singleton] at hmem
    subst hmem
    exact Or.inl ⟨hd, hself, hangle⟩
  · exact Or.inr (plain_of_mem_entities _ hentity c hmem)

/-- Escaped text has no angle brackets. -/
theorem isAngle_of_mem_escape {quotes : Quotes} {text : Text} {c : Char}
    (h : c ∈ escape quotes text) : isAngle c = false := by
  rcases mem_escape_cases h with ⟨_, _, hangle⟩ | ⟨hangle, _⟩ <;> exact hangle

theorem angle_not_mem_escape (quotes : Quotes) (text : Text) : '<' ∉ escape quotes text :=
  fun hmem => absurd (isAngle_of_mem_escape hmem) (by decide)

theorem newline_not_mem_escape {quotes : Quotes} {text : Text} (h : '\n' ∉ text) :
    '\n' ∉ escape quotes text := by
  intro hmem
  rcases mem_escape_cases hmem with ⟨hkept, _⟩ | ⟨_, hline, _⟩
  · exact h hkept
  · exact hline rfl

theorem isQuote_iff {c : Char} : isQuote c = true ↔ c = '"' ∨ c = '\'' := by
  rw [isQuote, Bool.or_eq_true_iff, beq_iff_eq, beq_iff_eq]

theorem eq_kept_of_escapeChar_eq {quotes : Quotes} {c : Char} (hc : isQuote c = true)
    (h : escapeChar quotes c = [c]) : quotes = .kept := by
  rcases isQuote_iff.1 hc with rfl | rfl <;>
    cases quotes with
    | kept => rfl
    | highlighted | numbered => exact absurd h (by decide)

/-- Escaped text has no quotes, unless they are kept. -/
theorem isQuote_of_mem_escape {quotes : Quotes} (hquotes : quotes ≠ .kept) {text : Text} {c : Char}
    (h : c ∈ escape quotes text) : isQuote c = false := by
  rcases mem_escape_cases h with ⟨_, hself, _⟩ | ⟨_, _, hquote⟩
  · exact Bool.eq_false_iff.2 fun hc => hquotes (eq_kept_of_escapeChar_eq hc hself)
  · exact hquote

theorem escapeChar_of_not_quote {quotes : Quotes} {c : Char} (hc : isQuote c = false) :
    escapeChar quotes c = escapeChar .kept c := by
  have hdouble : c ≠ '"' := fun h => absurd (isQuote_iff.2 (Or.inl h)) (by simp [hc])
  have hsingle : c ≠ '\'' := fun h => absurd (isQuote_iff.2 (Or.inr h)) (by simp [hc])
  simp only [escapeChar, if_neg hdouble, if_neg hsingle]

/-- Where there are no quotes, it does not matter how they are written. -/
theorem escape_of_no_quotes {quotes : Quotes} {text : Text}
    (h : ∀ c ∈ text, isQuote c = false) : escape quotes text = escape .kept text := by
  rw [escape, escape, List.flatMap_def, List.flatMap_def,
    List.map_congr_left fun c hc => escapeChar_of_not_quote (h c hc)]

/-- A text that is escaped for a page does not end the attribute that it stands in. -/
theorem quote_not_mem_escape (text : Text) : '"' ∉ escape .numbered text := fun hmem =>
  absurd (isQuote_of_mem_escape (by decide) hmem) (by decide)

theorem escape_eq_nil {quotes : Quotes} {text : Text} : escape quotes text = [] ↔ text = [] := by
  constructor
  · intro h
    rw [← unescape_escape quotes text, h]
    rfl
  · rintro rfl
    rfl

/-! ## Tags and what stands between them -/

theorem outsideTags_append {text : Text} (h : ∀ c ∈ text, isAngle c = false) (rest : Text) :
    outsideTags false (text ++ rest) = text ++ outsideTags false rest := by
  induction text with
  | nil => rfl
  | cons c text ih =>
      have hc : c ≠ '<' := by
        rintro rfl
        exact absurd (h '<' (List.mem_cons_self ..)) (by decide)
      rw [List.cons_append, outsideTags, if_neg hc,
        ih fun d hmem => h d (List.mem_cons_of_mem _ hmem)]
      rfl

theorem outsideTags_tag {name : Text} (h : '>' ∉ name) (rest : Text) :
    outsideTags true (name ++ '>' :: rest) = outsideTags false rest := by
  induction name with
  | nil => rfl
  | cons c name ih =>
      obtain ⟨hc, hname⟩ := not_or.1 (mt List.mem_cons.2 h)
      have hinside : (c != '>') = true := bne_iff_ne.2 (Ne.symm hc)
      rw [List.cons_append, outsideTags, hinside, ih hname]

/-- What stands outside of tags is read part by part, each part in the state that the parts
before it leave. -/
theorem exists_outsideTags_append (inside : Bool) (front : Text) :
    ∃ now, ∀ rest,
      outsideTags inside (front ++ rest) = outsideTags inside front ++ outsideTags now rest := by
  induction front generalizing inside with
  | nil => exact ⟨inside, fun rest => by rw [outsideTags]; rfl⟩
  | cons c front ih =>
      cases inside with
      | true => exact ih (c != '>')
      | false =>
          by_cases hc : c = '<'
          · obtain ⟨now, hnow⟩ := ih true
            refine ⟨now, fun rest => ?_⟩
            rw [List.cons_append, outsideTags, outsideTags, if_pos hc, if_pos hc, hnow]
          · obtain ⟨now, hnow⟩ := ih false
            refine ⟨now, fun rest => ?_⟩
            rw [List.cons_append, outsideTags, outsideTags, if_neg hc, if_neg hc, hnow,
              List.cons_append]

theorem outsideTags_sublist (inside : Bool) (text : Text) :
    (outsideTags inside text).Sublist text := by
  fun_induction outsideTags inside text with
  | case1 => exact List.nil_sublist _
  | case2 c text ih => exact ih.cons c
  | case3 text ih => exact ih.cons _
  | case4 c text _ ih => exact ih.cons_cons c

/-- Nothing was read as an entity if nothing of what was read would be written as one. -/
theorem unescape_eq_self {text : Text}
    (h : ∀ c ∈ unescape text, escapeChar .highlighted c = [c]) : unescape text = text := by
  fun_induction unescape text with
  | case8 c text _ _ _ _ _ _ _ ih =>
      rw [ih fun d hmem => h d (List.mem_cons_of_mem _ hmem)]
  | case9 => rfl
  | _ => exact absurd (h _ (List.mem_cons_self ..)) (by decide)

end Marginalia.Html
