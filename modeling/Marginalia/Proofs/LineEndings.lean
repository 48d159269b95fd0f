import Marginalia.Proofs.TextLines

/-!
# Line endings

The lines of a source end with a newline, or with a carriage return and a newline, and a
source may use both. Folding the two into one is safe because a line that ends in no
carriage return cannot lend one to the newline behind it, and because no newline stands
inside a line. So the folded source is the lines with a newline behind each, however they
ended before.

The end of the last line may be missing. What is cut off behind the last newline is then
the last line itself, and it counts unless it is empty.
-/

namespace Marginalia

/-- How a line of a source ends. -/
inductive LineEnd where
  | newline
  | returnNewline
  deriving DecidableEq, Repr

/-- The characters that end a line. -/
def LineEnd.text : LineEnd → Text
  | newline => ['\n']
  | returnNewline => ['\r', '\n']

namespace Text

/-- A line that an end can be put behind: a carriage return would be taken for part of the end. -/
def TakesEnd (line : Text) : Prop :=
  '\n' ∉ line ∧ line.getLast? ≠ some '\r'

instance decidableTakesEnd (line : Text) : Decidable line.TakesEnd :=
  inferInstanceAs (Decidable (_ ∧ _))

/-- Lines, each with its own end. -/
def terminate : List (Text × LineEnd) → Text
  | [] => []
  | (line, ending) :: lines => line ++ ending.text ++ terminate lines

/-- A source of the given lines: all of them are ended, or all but the last. -/
inductive Spells (lines : List Text) : Text → Prop
  | ended {others : List (Text × LineEnd)} (h : others.map Prod.fst = lines) :
      Spells lines (terminate others)
  | unended {front : List (Text × LineEnd)} {last : Text} (h : front.map Prod.fst ++ [last] = lines)
      (hne : last ≠ []) : Spells lines (terminate front ++ last)

/-! ## Folding -/

/-- Folding goes on behind a text without newlines that lends no carriage return. -/
theorem foldCrLf_append {text rest : Text} (hnewline : '\n' ∉ text)
    (hend : text.getLast? = some '\r' → rest.head? ≠ some '\n') :
    foldCrLf (text ++ rest) = text ++ foldCrLf rest := by
  induction text with
  | nil => rfl
  | cons c text ih =>
      obtain ⟨_, htext⟩ := not_or.1 (mt List.mem_cons.2 hnewline)
      have hrest : foldCrLf (text ++ rest) = text ++ foldCrLf rest := by
        refine ih htext fun hlast => hend ?_
        rw [List.getLast?_cons, hlast, Option.getD_some]
      have hkeep : c = '\r' → (text ++ rest).head? ≠ some '\n' := by
        rintro rfl hhead
        cases text with
        | nil => exact hend rfl hhead
        | cons d text =>
            cases hhead
            exact htext (List.mem_cons_self ..)
      rw [List.cons_append, foldCrLf.eq_def]
      split
      · next heq => cases heq
      · next heq =>
          obtain ⟨rfl, hwhole⟩ := List.cons.inj heq
          exact absurd (congrArg List.head? hwhole) (hkeep rfl)
      · next heq =>
          obtain ⟨rfl, rfl⟩ := List.cons.inj heq
          rw [hrest, List.cons_append]

theorem foldCrLf_lineEnd_append (ending : LineEnd) (rest : Text) :
    foldCrLf (ending.text ++ rest) = '\n' :: foldCrLf rest := by
  cases ending with
  | newline => rfl
  | returnNewline => rfl

/-- Folding makes all ends the same and touches nothing else. -/
theorem foldCrLf_terminate_append {lines : List (Text × LineEnd)}
    (h : ∀ line ∈ lines.map Prod.fst, line.TakesEnd) (rest : Text) :
    foldCrLf (terminate lines ++ rest) = unlines (lines.map Prod.fst) ++ foldCrLf rest := by
  induction lines with
  | nil => rfl
  | cons first lines ih =>
      obtain ⟨line, ending⟩ := first
      obtain ⟨⟨hnewline, hreturn⟩, hlines⟩ := List.forall_mem_cons.1 h
      rw [terminate, List.append_assoc, List.append_assoc,
        foldCrLf_append hnewline fun hlast => absurd hlast hreturn, foldCrLf_lineEnd_append,
        ih hlines, List.map_cons, unlines, List.append_assoc, List.cons_append]

end Text

open Text (terminate Spells)

/-! ## Cutting -/

/-- What stands behind the last end is a line of its own unless it is empty. -/
theorem splitLines_terminate_append {lines : List (Text × LineEnd)} {last : Text}
    (h : ∀ line ∈ lines.map Prod.fst, line.TakesEnd) (hlast : last.TakesEnd) :
    splitLines (terminate lines ++ last) =
      lines.map Prod.fst ++ if last = [] then [] else [last] := by
  have hfold : Text.foldCrLf last = last := by
    have happend : Text.foldCrLf (last ++ []) = last ++ Text.foldCrLf [] :=
      Text.foldCrLf_append hlast.1 fun hreturn => absurd hreturn hlast.2
    rwa [List.append_nil, Text.foldCrLf, List.append_nil] at happend
  rw [splitLines, Text.foldCrLf_terminate_append h, hfold,
    Text.splitOn_unlines_append fun line hline => (h line hline).1, Text.splitOn_of_not_mem hlast.1]
  by_cases hnil : last = []
  · simp [hnil]
  · simp [hnil]

theorem splitLines_of_spells {lines : List Text} (h : ∀ line ∈ lines, line.TakesEnd)
    {source : Text} (hsource : Spells lines source) : splitLines source = lines := by
  cases hsource with
  | @ended others hlines =>
      subst hlines
      have hnil : Text.TakesEnd [] := by decide
      have hcut := splitLines_terminate_append h hnil
      rwa [List.append_nil, if_pos rfl, List.append_nil] at hcut
  | @unended front last hlines hne =>
      subst hlines
      obtain ⟨hfront, hlast⟩ := List.forall_mem_append.1 h
      rw [splitLines_terminate_append hfront (hlast last (List.mem_singleton_self last)),
        if_neg hne]

/-- A source has the lines that it spells, and so its sections do not depend on how these end.
Only an empty last line is lost without its end, and no other line with it. -/
theorem splitLines_terminate {lines : List Text} (h : ∀ line ∈ lines, line.TakesEnd) :
    (∀ ended : List (Text × LineEnd), ended.map Prod.fst = lines →
      splitLines (terminate ended) = lines) ∧
    (∀ (front : List (Text × LineEnd)) (last : Text), front.map Prod.fst ++ [last] = lines →
      splitLines (terminate front ++ last) = if last = [] then front.map Prod.fst else lines) ∧
    ∀ (language : Language) (source other : Text), Spells lines source → Spells lines other →
      Section.ofSource language source = Section.ofSource language other := by
  refine ⟨fun ended hended => splitLines_of_spells h (.ended hended), ?_, ?_⟩
  · intro front last hlines
    by_cases hnil : last = []
    · rw [if_pos hnil, hnil, List.append_nil]
      refine splitLines_of_spells (fun line hline => h line ?_) (.ended rfl)
      exact hlines ▸ List.mem_append_left _ hline
    · rw [if_neg hnil]
      exact splitLines_of_spells h (.unended hlines hnil)
  · intro language source other hsource hother
    rw [Section.ofSource, Section.ofSource, splitLines_of_spells h hsource,
      splitLines_of_spells h hother]

/-- Carriage returns inside lines, and an empty last line, under mixed ends. -/
theorem splitLines_terminate_mixed :
    let lines : List Text := ["#\ra".toList, "\r\rb".toList, []]
    (∀ line ∈ lines, line.TakesEnd) ∧
      splitLines "#\ra\r\n\r\rb\n\r\n".toList = lines ∧
      splitLines "#\ra\n\r\rb\r\n".toList = lines.take 2 ∧
      ∀ language, Section.ofSource language "#\ra\r\n\r\rb\n\r\n".toList =
        Section.ofSource language "#\ra\n\r\rb\r\n\n".toList := by
  intro lines
  have hlines : ∀ line ∈ lines, line.TakesEnd := by decide
  obtain ⟨hended, hunended, hsections⟩ := splitLines_terminate hlines
  let mixed : List (Text × LineEnd) :=
    [("#\ra".toList, .returnNewline), ("\r\rb".toList, .newline), ([], .returnNewline)]
  let swapped : List (Text × LineEnd) :=
    [("#\ra".toList, .newline), ("\r\rb".toList, .returnNewline), ([], .newline)]
  have hmixed : Spells lines (terminate mixed) := .ended rfl
  have hswapped : Spells lines (terminate swapped) := .ended rfl
  exact ⟨hlines, hended mixed rfl, hunended (swapped.take 2) [] rfl,
    fun language => hsections language _ _ hmixed hswapped⟩

end Marginalia
