import Marginalia.Text.Basic
import Mathlib.Data.List.Infix

/-!
# Finding a text in a text

A mark is found at the first place where it begins. On a text that is put together from
known parts this place is found part by part, if no mark begins in a part and ends behind
it. `FreeOf` says that of a part without a word about what follows: each ending of the
part differs from the mark in some character that both have. So parts that are free of a
mark can be put next to each other, and a part that lacks the first character of the mark
is always free of it.
-/

namespace Marginalia.Text

/-! ## Starts -/

theorem dropStart?_append (start rest : Text) : dropStart? start (start ++ rest) = some rest := by
  induction start with
  | nil => rfl
  | cons c start ih => rw [List.cons_append, dropStart?, if_pos rfl, ih]

theorem eq_append_of_dropStart? {start text rest : Text} (h : dropStart? start text = some rest) :
    text = start ++ rest := by
  induction start generalizing text with
  | nil =>
      rw [dropStart?, Option.some.injEq] at h
      exact h
  | cons c start ih =>
      cases text with
      | nil => cases h
      | cons d text =>
          rw [dropStart?] at h
          split at h
          · next hcd => rw [hcd, ih h, List.cons_append]
          · cases h

theorem dropStart?_eq_some_iff {start text rest : Text} :
    dropStart? start text = some rest ↔ text = start ++ rest := by
  constructor
  · exact eq_append_of_dropStart?
  · rintro rfl
    exact dropStart?_append start rest

theorem dropStart?_eq_none_iff {start text : Text} :
    dropStart? start text = none ↔ ¬ start <+: text := by
  constructor
  · rintro h ⟨rest, rfl⟩
    simp [dropStart?_append] at h
  · intro h
    rw [Option.eq_none_iff_forall_ne_some]
    intro rest hrest
    exact h ⟨rest, (dropStart?_eq_some_iff.1 hrest).symm⟩

theorem isSome_dropStart?_iff {start text : Text} :
    (dropStart? start text).isSome = true ↔ start <+: text := by
  rw [← not_iff_not, Bool.not_eq_true, Option.isSome_eq_false_iff, Option.isNone_iff_eq_none,
    dropStart?_eq_none_iff]

theorem startsWith_iff {start text : Text} : startsWith start text = true ↔ start <+: text :=
  isSome_dropStart?_iff

/-! ## Places in a text -/

/-- The text before the first occurrence of a mark, and the text behind it. -/
def cutAt? (mark : Text) : Text → Option (Text × Text)
  | [] => (dropStart? mark []).map fun rest => ([], rest)
  | c :: text =>
    match dropStart? mark (c :: text) with
    | some rest => some ([], rest)
    | none => (cutAt? mark text).map fun (before, after) => (c :: before, after)

/-- The texts behind all occurrences of a mark, in order. -/
def behindEach (mark text : Text) : List Text :=
  text.tails.filterMap (dropStart? mark)

/-- Two texts have different characters at some place that both have. -/
def Differ (text other : Text) : Prop :=
  ¬ text <+: other ∧ ¬ other <+: text

instance decidableDiffer (text other : Text) : Decidable (Differ text other) :=
  inferInstanceAs (Decidable (_ ∧ _))

/-- No mark begins in a text, whatever follows it. -/
def FreeOf (mark text : Text) : Prop :=
  ∀ ending ∈ text.tails, ending ≠ [] → Differ ending mark

instance decidableFreeOf (mark text : Text) : Decidable (FreeOf mark text) :=
  inferInstanceAs (Decidable (∀ ending ∈ text.tails, ending ≠ [] → _))

variable {mark text other : Text}

theorem Differ.append (h : Differ text other) (rest : Text) : Differ (text ++ rest) other := by
  refine ⟨fun hwhole => h.1 ((List.prefix_append text rest).trans hwhole), fun hother => ?_⟩
  rcases List.prefix_or_prefix_of_prefix hother (List.prefix_append text rest) with hle | hle
  · exact h.2 hle
  · exact h.1 hle

theorem FreeOf.differ {c : Char} (h : FreeOf mark (c :: text)) : Differ (c :: text) mark :=
  h (c :: text) (List.mem_cons_self ..) (List.cons_ne_nil _ _)

theorem FreeOf.tail {c : Char} (h : FreeOf mark (c :: text)) : FreeOf mark text :=
  fun ending hmem => h ending (List.mem_cons_of_mem _ hmem)

theorem FreeOf.dropStart?_eq_none {c : Char} (h : FreeOf mark (c :: text)) (rest : Text) :
    dropStart? mark (c :: (text ++ rest)) = none :=
  dropStart?_eq_none_iff.2 (h.differ.append rest).2

theorem freeOf_nil (mark : Text) : FreeOf mark [] :=
  fun _ hmem hne => absurd (List.mem_singleton.1 hmem) hne

theorem FreeOf.append (htext : FreeOf mark text) (hother : FreeOf mark other) :
    FreeOf mark (text ++ other) := by
  induction text with
  | nil => exact hother
  | cons c text ih =>
      intro ending hmem hne
      rw [List.cons_append, List.tails_cons] at hmem
      rcases List.mem_cons.1 hmem with rfl | hmem
      · exact htext.differ.append other
      · exact ih htext.tail ending hmem hne

theorem FreeOf.flatMap {α : Type} {f : α → Text} {xs : List α} (h : ∀ x ∈ xs, FreeOf mark (f x)) :
    FreeOf mark (xs.flatMap f) := by
  induction xs with
  | nil => exact freeOf_nil mark
  | cons x xs ih =>
      rw [List.flatMap_cons]
      exact (h x (List.mem_cons_self ..)).append
        (ih fun y hmem => h y (List.mem_cons_of_mem _ hmem))

/-- A text without the character that a mark begins with is free of the mark. -/
theorem freeOf_of_not_mem {c : Char} (h : c ∉ text) (mark : Text) : FreeOf (c :: mark) text := by
  intro ending hmem hne
  obtain ⟨d, ending, rfl⟩ := List.exists_cons_of_ne_nil hne
  have hd : d ≠ c := by
    rintro rfl
    exact h (((List.mem_tails ..).1 hmem).subset (List.mem_cons_self ..))
  exact ⟨fun hprefix => hd (List.cons_prefix_cons.1 hprefix).1,
    fun hprefix => hd (List.cons_prefix_cons.1 hprefix).1.symm⟩

/-- The first mark is the one that follows a part without any. -/
theorem cutAt?_append (h : FreeOf mark text) (rest : Text) :
    cutAt? mark (text ++ (mark ++ rest)) = some (text, rest) := by
  induction text with
  | nil =>
      rw [List.nil_append]
      cases hwhole : mark ++ rest with
      | nil =>
          obtain ⟨rfl, rfl⟩ := List.append_eq_nil_iff.1 hwhole
          rfl
      | cons c whole => rw [cutAt?, ← hwhole, dropStart?_append]
  | cons c text ih => rw [List.cons_append, cutAt?, h.dropStart?_eq_none, ih h.tail, Option.map_some]

theorem behindEach_append (h : FreeOf mark text) (rest : Text) :
    behindEach mark (text ++ rest) = behindEach mark rest := by
  induction text with
  | nil => rfl
  | cons c text ih =>
      rw [List.cons_append, behindEach, List.tails_cons,
        List.filterMap_cons_none (h.dropStart?_eq_none rest), ← behindEach, ih h.tail]

theorem behindEach_of_freeOf (hne : mark ≠ []) (h : FreeOf mark text) :
    behindEach mark text = [] := by
  obtain ⟨c, mark, rfl⟩ := List.exists_cons_of_ne_nil hne
  rw [← List.append_nil text, behindEach_append h]
  rfl

/-- A mark that does not begin within itself is found once where it stands. -/
theorem behindEach_mark_append {c : Char} (h : c ∉ mark) (rest : Text) :
    behindEach (c :: mark) (c :: mark ++ rest) = rest :: behindEach (c :: mark) rest := by
  have hfound := dropStart?_append (c :: mark) rest
  rw [List.cons_append] at hfound ⊢
  rw [behindEach, List.tails_cons, List.filterMap_cons_some hfound, ← behindEach,
    behindEach_append (freeOf_of_not_mem h mark)]

end Marginalia.Text
