import Marginalia.Section.Basic
import Marginalia.Language.Divider
import Mathlib.Data.List.DropRight

/-!
# Lines of a text, and the newlines around it

Highlighting goes back and forth between a text and its lines, and on the way
newlines at the two ends are dropped more than once. The facts below are about
that alone: how cutting at newlines meets appending, and what is left when the
newlines at the ends are gone.

Most of them compare two texts of the form `front ++ mark ++ rest`, where the
mark does not start or end with a newline; then stripping the whole strips the
outer ends of `front` and `rest` and nothing else.
-/

namespace Marginalia

open Marginalia.Language (isNewline)

theorem isNewline_iff {c : Char} : isNewline c = true ↔ c = '\n' := beq_iff_eq

namespace Text

/-! ## Cutting at a character -/

theorem splitOn_ne_nil (separator : Char) (text : Text) : splitOn separator text ≠ [] := by
  cases text with
  | nil => exact List.cons_ne_nil _ _
  | cons c text =>
      rw [splitOn]
      split
      · exact List.cons_ne_nil _ _
      · cases splitOn separator text <;> exact List.cons_ne_nil _ _

theorem splitOn_cons_self (separator : Char) (text : Text) :
    splitOn separator (separator :: text) = [] :: splitOn separator text := by
  rw [splitOn, if_pos rfl]

theorem splitOn_append_cons (separator : Char) (front rest : Text) :
    splitOn separator (front ++ separator :: rest) =
      splitOn separator front ++ splitOn separator rest := by
  induction front with
  | nil => exact splitOn_cons_self separator rest
  | cons c front ih =>
      rw [List.cons_append, splitOn, splitOn, ih]
      split
      · rfl
      · obtain ⟨piece, pieces, heq⟩ :=
          List.exists_cons_of_ne_nil (splitOn_ne_nil separator front)
        rw [heq]
        rfl

theorem splitOn_of_not_mem {separator : Char} {text : Text} (h : separator ∉ text) :
    splitOn separator text = [text] := by
  induction text with
  | nil => rfl
  | cons c text ih =>
      obtain ⟨hc, htext⟩ := not_or.1 (mt List.mem_cons.2 h)
      rw [splitOn, if_neg (Ne.symm hc), ih htext]
      rfl

theorem not_mem_of_mem_splitOn {separator : Char} {text piece : Text}
    (h : piece ∈ splitOn separator text) : separator ∉ piece := by
  induction text generalizing piece with
  | nil => rw [List.mem_singleton.1 h]; exact List.not_mem_nil
  | cons c text ih =>
      rw [splitOn] at h
      split at h
      · rcases List.mem_cons.1 h with rfl | hmem
        · exact List.not_mem_nil
        · exact ih hmem
      · next hc =>
          obtain ⟨first, others, heq⟩ :=
            List.exists_cons_of_ne_nil (splitOn_ne_nil separator text)
          rw [heq] at h ih
          rcases List.mem_cons.1 h with rfl | hmem
          · exact fun hmem => (List.mem_cons.1 hmem).elim (Ne.symm hc) (ih (List.mem_cons_self ..))
          · exact ih (List.mem_cons_of_mem _ hmem)

/-- The pieces of a text are made of its characters. -/
theorem subset_of_mem_splitOn {separator : Char} {text piece : Text}
    (h : piece ∈ splitOn separator text) : piece ⊆ text := by
  induction text generalizing piece with
  | nil => rw [List.mem_singleton.1 h]; exact List.Subset.refl _
  | cons c text ih =>
      rw [splitOn] at h
      split at h
      · rcases List.mem_cons.1 h with rfl | hmem
        · exact List.nil_subset _
        · exact List.subset_cons_of_subset c (ih hmem)
      · obtain ⟨first, others, heq⟩ :=
          List.exists_cons_of_ne_nil (splitOn_ne_nil separator text)
        rw [heq] at h ih
        rcases List.mem_cons.1 h with rfl | hmem
        · exact List.cons_subset_cons c (ih (List.mem_cons_self ..))
        · exact List.subset_cons_of_subset c (ih (List.mem_cons_of_mem _ hmem))

/-- Terminated lines are cut off one by one. -/
theorem splitOn_unlines_append {lines : List Text} (h : ∀ line ∈ lines, '\n' ∉ line)
    (rest : Text) : splitOn '\n' (unlines lines ++ rest) = lines ++ splitOn '\n' rest := by
  induction lines with
  | nil => rfl
  | cons line lines ih =>
      have hline : '\n' ∉ line := h line (List.mem_cons_self ..)
      rw [unlines, List.append_assoc, List.cons_append, splitOn_append_cons,
        splitOn_of_not_mem hline, ih fun other hmem => h other (List.mem_cons_of_mem _ hmem)]
      rfl

/-- The lines of terminated lines are these lines and an empty one. -/
theorem splitOn_unlines {lines : List Text} (h : ∀ line ∈ lines, '\n' ∉ line) :
    splitOn '\n' (unlines lines) = lines ++ [[]] := by
  rw [← List.append_nil (unlines lines), splitOn_unlines_append h, splitOn]

theorem intercalate_append {separator : Text} {pieces others : List Text} (hpieces : pieces ≠ [])
    (hothers : others ≠ []) :
    separator.intercalate (pieces ++ others) =
      separator.intercalate pieces ++ (separator ++ separator.intercalate others) := by
  induction pieces with
  | nil => exact absurd rfl hpieces
  | cons piece pieces ih =>
      cases pieces with
      | nil =>
          rw [List.singleton_append, List.intercalate_cons_of_ne_nil hothers,
            List.intercalate_singleton, List.append_assoc]
      | cons next pieces =>
          rw [List.cons_append, List.intercalate_cons_of_ne_nil (by simp),
            ih (List.cons_ne_nil _ _), List.intercalate_cons_cons]
          simp only [List.append_assoc]

theorem mem_intercalate {separator : Text} {pieces : List Text} {c : Char}
    (h : c ∈ separator.intercalate pieces) : c ∈ separator ∨ ∃ piece ∈ pieces, c ∈ piece := by
  induction pieces with
  | nil => cases h
  | cons piece pieces ih =>
      cases pieces with
      | nil =>
          rw [List.intercalate_singleton] at h
          exact Or.inr ⟨piece, List.mem_cons_self .., h⟩
      | cons next pieces =>
          rw [List.intercalate_cons_cons, List.append_assoc] at h
          rcases List.mem_append.1 h with hmem | hmem
          · exact Or.inr ⟨piece, List.mem_cons_self .., hmem⟩
          · rcases List.mem_append.1 hmem with hmem | hmem
            · exact Or.inl hmem
            · refine (ih hmem).imp_right fun ⟨other, hother, hc⟩ => ?_
              exact ⟨other, List.mem_cons_of_mem _ hother, hc⟩

theorem intercalate_splitOn (separator : Char) (text : Text) :
    List.intercalate [separator] (splitOn separator text) = text := by
  induction text with
  | nil => rfl
  | cons c text ih =>
      obtain ⟨piece, pieces, heq⟩ := List.exists_cons_of_ne_nil (splitOn_ne_nil separator text)
      rw [splitOn]
      split
      · next hc => rw [List.intercalate_cons_of_ne_nil (splitOn_ne_nil _ _), ih, hc]; rfl
      · rw [heq] at ih ⊢
        cases pieces with
        | nil =>
            rw [List.intercalate_singleton] at ih
            rw [consPiece, List.intercalate_singleton, ih]
        | cons next pieces =>
            rw [List.intercalate_cons_cons] at ih
            rw [consPiece, List.intercalate_cons_cons, ← ih]
            rfl

theorem splitOn_intercalate {separator : Char} {pieces : List Text} (hne : pieces ≠ [])
    (h : ∀ piece ∈ pieces, separator ∉ piece) :
    splitOn separator (List.intercalate [separator] pieces) = pieces := by
  induction pieces with
  | nil => exact absurd rfl hne
  | cons piece pieces ih =>
      have hpiece := h piece (List.mem_cons_self ..)
      cases pieces with
      | nil => rw [List.intercalate_singleton, splitOn_of_not_mem hpiece]
      | cons next pieces =>
          rw [List.intercalate_cons_cons, List.append_assoc, List.singleton_append,
            splitOn_append_cons, splitOn_of_not_mem hpiece,
            ih (List.cons_ne_nil _ _) fun other hmem => h other (List.mem_cons_of_mem _ hmem)]
          rfl

/-! ## Newlines at the ends -/

/-- A text without the newlines at its two ends. -/
def stripNewlines (text : Text) : Text :=
  dropEndWhile isNewline (text.dropWhile isNewline)

theorem dropEndWhile_eq_rdropWhile (p : Char → Bool) (text : Text) :
    dropEndWhile p text = text.rdropWhile p := rfl

/-- Trailing characters are dropped from the back, but seen from the front they
are those after which nothing else stands. -/
theorem dropEndWhile_cons (p : Char → Bool) (c : Char) (text : Text) :
    dropEndWhile p (c :: text) =
      if p c = true ∧ dropEndWhile p text = [] then [] else c :: dropEndWhile p text := by
  rw [dropEndWhile_eq_rdropWhile, dropEndWhile_eq_rdropWhile]
  induction text using List.reverseRecOn with
  | nil => by_cases hc : p c = true <;> simp [hc]
  | append_singleton text d ih =>
      rw [← List.cons_append]
      by_cases hd : p d = true
      · rw [List.rdropWhile_concat_pos p _ d hd, List.rdropWhile_concat_pos p _ d hd, ih]
      · rw [List.rdropWhile_concat_neg p _ d hd, List.rdropWhile_concat_neg p _ d hd]
        simp

theorem dropEndWhile_eq_nil {p : Char → Bool} {text : Text} :
    dropEndWhile p text = [] ↔ ∀ c ∈ text, p c = true :=
  List.rdropWhile_eq_nil_iff

theorem dropEndWhile_concat_of_pos {p : Char → Bool} {text : Text} {c : Char}
    (hc : p c = true) : dropEndWhile p (text ++ [c]) = dropEndWhile p text :=
  List.rdropWhile_concat_pos p text c hc

theorem dropEndWhile_concat_of_neg {p : Char → Bool} {text : Text} {c : Char}
    (hc : p c = false) : dropEndWhile p (text ++ [c]) = text ++ [c] :=
  List.rdropWhile_concat_neg p text c (by simp [hc])

/-- What stands before something that stays is not touched. -/
theorem dropEndWhile_append {p : Char → Bool} {front rest : Text}
    (h : ∃ c ∈ rest, p c = false) :
    dropEndWhile p (front ++ rest) = front ++ dropEndWhile p rest := by
  have hrest : dropEndWhile p rest ≠ [] := by
    obtain ⟨c, hmem, hc⟩ := h
    intro hnil
    have := dropEndWhile_eq_nil.1 hnil c hmem
    simp [hc] at this
  induction front with
  | nil => rfl
  | cons d front ih =>
      rw [List.cons_append, dropEndWhile_cons, ih, if_neg]
      · rfl
      · simp [hrest]

theorem dropEndWhile_of_last {p : Char → Bool} {text : Text} {c : Char} (rest : Text)
    (hc : p c = false) :
    dropEndWhile p (text ++ c :: rest) = text ++ c :: dropEndWhile p rest := by
  rw [dropEndWhile_append ⟨c, List.mem_cons_self .., hc⟩, dropEndWhile_cons,
    if_neg (by simp [hc])]

theorem dropEndWhile_dropWhile (p : Char → Bool) (text : Text) :
    dropEndWhile p (text.dropWhile p) = (dropEndWhile p text).dropWhile p := by
  induction text with
  | nil => rfl
  | cons c text ih =>
      rw [dropEndWhile_cons]
      by_cases hc : p c = true
      · rw [List.dropWhile_cons_of_pos hc, ih]
        by_cases hnil : dropEndWhile p text = []
        · rw [if_pos ⟨hc, hnil⟩, hnil]
        · rw [if_neg (fun h => hnil h.2), List.dropWhile_cons_of_pos hc]
      · rw [List.dropWhile_cons_of_neg hc, if_neg (fun h => hc h.1),
          List.dropWhile_cons_of_neg hc, dropEndWhile_cons, if_neg (fun h => hc h.1)]

theorem dropEndWhile_dropWhile_eq_nil {p : Char → Bool} {text : Text} :
    dropEndWhile p (text.dropWhile p) = [] ↔ ∀ c ∈ text, p c = true := by
  rw [dropEndWhile_eq_nil]
  constructor
  · intro h c hmem
    rw [← List.takeWhile_append_dropWhile (p := p) (l := text)] at hmem
    rcases List.mem_append.1 hmem with htake | hdrop
    · exact List.mem_takeWhile_imp htake
    · exact h c hdrop
  · intro h c hmem
    exact h c ((List.dropWhile_sublist p).subset hmem)

theorem dropEndWhile_dropWhile_idempotent (p : Char → Bool) (text : Text) :
    dropEndWhile p ((dropEndWhile p (text.dropWhile p)).dropWhile p) =
      dropEndWhile p (text.dropWhile p) := by
  rw [← dropEndWhile_dropWhile p (text.dropWhile p), List.dropWhile_idempotent,
    dropEndWhile_eq_rdropWhile, dropEndWhile_eq_rdropWhile, List.rdropWhile_idempotent]

theorem dropEndWhile_dropWhile_sublist (p : Char → Bool) (text : Text) :
    (dropEndWhile p (text.dropWhile p)).Sublist text :=
  (List.rdropWhile_prefix _ _).sublist.trans (List.dropWhile_sublist _)

@[simp] theorem stripNewlines_cons (text : Text) :
    stripNewlines ('\n' :: text) = stripNewlines text := rfl

@[simp] theorem stripNewlines_concat (text : Text) :
    stripNewlines (text ++ ['\n']) = stripNewlines text := by
  rw [stripNewlines, stripNewlines, dropEndWhile_dropWhile, dropEndWhile_dropWhile,
    dropEndWhile_concat_of_pos rfl]

theorem stripNewlines_eq_nil {text : Text} :
    stripNewlines text = [] ↔ ∀ c ∈ text, c = '\n' := by
  simp only [stripNewlines, dropEndWhile_dropWhile_eq_nil, isNewline_iff]

theorem stripNewlines_stripNewlines (text : Text) :
    stripNewlines (stripNewlines text) = stripNewlines text :=
  dropEndWhile_dropWhile_idempotent isNewline text

theorem stripNewlines_sublist (text : Text) : (stripNewlines text).Sublist text :=
  dropEndWhile_dropWhile_sublist isNewline text

end Text
end Marginalia
