import Marginalia.Proofs.CollectionOrder
import Marginalia.Proofs.RunInvariants

/-!
# What a disk gains

A run takes nothing off a disk. The entries that were there keep their order, and
what is new stands behind them, at places that were empty. So a directory has its
children of before, in their order, among those that it has now: the new ones are
told by the disk before, which has nothing under their names.

On a disk that is well-formed, every entry lies in a directory. A run keeps to
that. So the empty places are closed downwards, and what is below a new directory
is new.
-/

namespace Marginalia

open Marginalia.Disk (names)
open Marginalia.Path (IsOrdinary)

namespace Disk

/-- Every entry lies in a directory, under names that a directory can hold. -/
structure WellFormed (disk : Disk) : Prop where
  named : disk.WellNamed
  rooted : ∀ entry ∈ disk.entries, disk.get? entry.1.dropLast = some .directory

/-- Whether there is something at a location. -/
def holds (disk : Disk) (place : Location) : Bool :=
  (disk.get? place).isSome

variable {disk before now : Disk} {place : Location}

theorem holds_of_get? {node : Node} (h : disk.get? place = some node) :
    disk.holds place = true := by
  rw [holds, h]
  rfl

theorem holds_iff (hne : place ≠ []) :
    disk.holds place = true ↔ place ∈ disk.entries.map Prod.fst := by
  cases place with
  | nil => exact absurd rfl hne
  | cons name names => exact Dict.isSome_get?

theorem WellFormed.get?_of_holds (h : disk.WellFormed) {name : Text}
    (hholds : disk.holds (place ++ [name]) = true) : disk.get? place = some .directory := by
  have hne : place ++ [name] ≠ [] := List.append_ne_nil_of_right_ne_nil _ (List.cons_ne_nil _ _)
  obtain ⟨entry, hentry, heq⟩ := List.mem_map.1 ((holds_iff hne).1 hholds)
  have hrooted := h.rooted entry hentry
  rwa [heq, List.dropLast_concat] at hrooted

theorem WellNamed.of_mem_place (h : disk.WellNamed) {node : Node}
    (hnode : disk.get? place = some node) {name : Text} (hmem : name ∈ place) :
    IsOrdinary name ∧ '\x00' ∉ name := by
  cases place with
  | nil => cases hmem
  | cons first rest => exact h _ (Dict.mem_of_get? hnode) name hmem

theorem subset_of_mem_names {path name : Text} (h : name ∈ names path) : name ⊆ path :=
  Text.subset_of_mem_splitOn (List.mem_of_mem_filter h)

/-- What is put into a directory, under an ordinary name, leaves the disk well-formed. -/
theorem WellFormed.put (h : disk.WellFormed) {path : Text} (hroom : disk.HasRoom path place)
    (hnull : hasNull path = false) {node : Node}
    (hnode : node = .directory ∨ disk.get? place ≠ some .directory) :
    (disk.put place node).WellFormed := by
  have hput := get?_put_of_ne_nil disk hroom.ne_nil node
  obtain ⟨front, last, rfl, hfront, hlast, hordinary⟩ := hroom
  constructor
  · intro entry hentry name hname
    rcases Dict.mem_of_mem_put hentry with hold | rfl
    · exact h.named entry hold name hname
    · rcases List.mem_append.1 hname with hname | hname
      · exact h.named.of_mem_place hfront hname
      · rw [List.mem_singleton.1 hname]
        exact ⟨hordinary, fun hmem =>
          hasNull_eq_false.1 hnull (subset_of_mem_names hlast hmem)⟩
  · intro entry hentry
    rw [hput]
    rcases Dict.mem_of_mem_put hentry with hold | rfl
    · have hrooted := h.rooted entry hold
      split
      · next hplace =>
          rw [← hplace] at hrooted
          exact congrArg some (hnode.resolve_right (not_not.2 hrooted))
      · exact hrooted
    · have hne : front ++ [last] ≠ front := fun heq => by
        simpa using congrArg List.length heq
      rw [List.dropLast_concat, if_neg hne]
      exact hfront

/-! ## Children -/

/-- The last names of the locations in a directory. -/
def namesIn (places : List Location) (place : Location) : List Text :=
  places.filterMap fun other => if other.dropLast = place then other.getLast? else none

theorem mem_namesIn {places : List Location} {name : Text} :
    name ∈ namesIn places place ↔ place ++ [name] ∈ places := by
  rw [namesIn, List.mem_filterMap]
  constructor
  · rintro ⟨other, hmem, hlast⟩
    split at hlast
    · next hplace =>
        rw [← hplace, List.dropLast_append_getLast? name hlast]
        exact hmem
    · cases hlast
  · intro hmem
    exact ⟨_, hmem, by rw [List.dropLast_concat, if_pos rfl, List.getLast?_concat]⟩

theorem children_eq (disk : Disk) (place : Location) :
    disk.children place = (namesIn (disk.entries.map Prod.fst) place).mergeSort Text.isLe := by
  rw [children, namesIn, List.filterMap_map]
  rfl

theorem mem_children {name : Text} :
    name ∈ disk.children place ↔ disk.holds (place ++ [name]) = true := by
  have hne : place ++ [name] ≠ [] := List.append_ne_nil_of_right_ne_nil _ (List.cons_ne_nil _ _)
  rw [children_eq, List.mem_mergeSort, mem_namesIn, holds_iff hne]

/-! ## Growth -/

/-- The entries of before are followed by new ones at places that were empty. -/
structure Grows (before now : Disk) : Prop where
  linkFree : now.LinkFree
  wellFormed : now.WellFormed
  fresh : ∃ fresh, now.entries.map Prod.fst = before.entries.map Prod.fst ++ fresh ∧
    ∀ place ∈ fresh, before.holds place = false

namespace Grows

theorem refl (hfree : disk.LinkFree) (hwell : disk.WellFormed) : Grows disk disk where
  linkFree := hfree
  wellFormed := hwell
  fresh := ⟨[], (List.append_nil _).symm, fun _ hnil => by cases hnil⟩

theorem put (h : Grows before now) {path : Text} (hroom : now.HasRoom path place)
    (hnull : hasNull path = false) {node : Node} (hlink : node.isLink = false)
    (hnode : node = .directory ∨ now.get? place ≠ some .directory) :
    Grows before (now.put place node) where
  linkFree := by
    refine ⟨fun other target htarget => ?_, h.linkFree.unshared⟩
    rw [get?_put_of_ne_nil now hroom.ne_nil] at htarget
    split at htarget
    · rw [Option.some.inj htarget] at hlink
      cases hlink
    · exact h.linkFree.unlinked other target htarget
  wellFormed := h.wellFormed.put hroom hnull hnode
  fresh := by
    obtain ⟨fresh, hkeys, hfresh⟩ := h.fresh
    rw [Disk.put, Dict.keys_put]
    split
    · exact ⟨fresh, hkeys, hfresh⟩
    · next hnew =>
        refine ⟨fresh ++ [place], by rw [hkeys, List.append_assoc], fun other hmem => ?_⟩
        rcases List.mem_append.1 hmem with hmem | hmem
        · exact hfresh other hmem
        · obtain rfl := List.mem_singleton.1 hmem
          refine Bool.eq_false_iff.2 fun hholds => hnew ?_
          rw [hkeys]
          exact List.mem_append_left _ ((holds_iff hroom.ne_nil).1 hholds)

theorem makeDir (h : Grows before now) (path : Text) : Grows before (now.makeDir path).2 := by
  rw [Disk.makeDir]
  split
  · exact h
  · next hnull =>
      split
      · next place hplace =>
          obtain ⟨_, hroom, _⟩ := directoryPlace_eq_ok h.linkFree hplace
          exact h.put hroom (Bool.eq_false_iff.2 hnull) rfl (.inl rfl)
      · exact h

theorem ensureDir (h : Grows before now) (path : Text) : Grows before (now.ensureDir path).2 := by
  have hmade := h.makeDir path
  rw [Disk.ensureDir]
  split
  · next cause refusedPath after heq =>
      rw [heq] at hmade
      split <;> exact hmade
  · exact hmade

theorem makeDirs (h : Grows before now) (path : Text) : Grows before (now.makeDirs path).2 := by
  fun_induction Disk.makeDirs now path with
  | case1 path hsplit hexists => exact h.ensureDir path
  | case2 path hsplit hmissing refusedPath above heq hdot ih
  | case4 path hsplit hmissing above heq hdot ih => rwa [heq] at ih
  | case3 path hsplit hmissing refusedPath above heq hname ih
  | case5 path hsplit hmissing above heq hname ih =>
      rw [heq] at ih
      exact ih.ensureDir path
  | case6 path hsplit hmissing hfailed hother ih => exact ih
  | case7 path hsplit => exact h.ensureDir path

theorem writeText (h : Grows before now) (path text : Text) :
    Grows before (now.writeText path text).2 := by
  rcases writeText_cases h.linkFree path text with hsame | ⟨part, _, hnull, hplace, hput⟩
  · rwa [hsame]
  · obtain ⟨_, hroom, hnode, _⟩ := filePlace_eq_ok h.linkFree hplace
    rw [hput]
    exact h.put hroom hnull rfl (.inr hnode)

/-- A directory has its children of before, in their order, and others among them. -/
theorem filter_children (h : Grows before now) (place : Location) :
    (now.children place).filter (fun name => before.holds (place ++ [name])) =
      before.children place := by
  obtain ⟨fresh, hkeys, hfresh⟩ := h.fresh
  have hold : (namesIn (before.entries.map Prod.fst) place).filter
      (fun name => before.holds (place ++ [name])) =
      namesIn (before.entries.map Prod.fst) place := by
    refine List.filter_eq_self.2 fun name hmem => ?_
    rwa [← mem_children, children_eq, List.mem_mergeSort]
  have hnew : (namesIn fresh place).filter (fun name => before.holds (place ++ [name])) = [] := by
    refine List.filter_eq_nil_iff.2 fun name hmem => ?_
    rw [hfresh _ (mem_namesIn.1 hmem)]
    exact Bool.false_ne_true
  have hnames : (namesIn (now.entries.map Prod.fst) place).filter
      (fun name => before.holds (place ++ [name])) =
      namesIn (before.entries.map Prod.fst) place := by
    rw [hkeys, namesIn, List.filterMap_append, List.filter_append]
    rw [namesIn] at hold hnew
    rw [hold, hnew, List.append_nil]
    rfl
  -- both lists are in order, so it is enough that they have the same names
  refine List.Perm.eq_of_pairwise (fun _ _ _ _ => Text.isLe_antisymm)
    ((pairwise_children now place).filter _) (pairwise_children before place) ?_
  rw [children_eq, children_eq, ← hnames]
  exact ((List.mergeSort_perm _ _).filter _).trans (List.mergeSort_perm _ _).symm

end Grows
end Disk

namespace Generator

variable {generator : Generator}

/-- A run whose highlighter leaves the disk alone only adds to it. -/
theorem execute_grows (hkeeps : generator.highlighter.runner.KeepsDisk) {before : RunState}
    (hfree : before.disk.LinkFree) (hwell : before.disk.WellFormed) :
    generator.execute.Leaves before (Disk.Grows before.disk ·.disk) :=
  leaves_execute
    { makeDirs := fun _ path h => h.makeDirs path
      writeText := fun _ path _ text h => h.writeText path text
      runner := fun disk command stdin h => by rwa [hkeeps disk command stdin] }
    (.refl hfree hwell)

end Generator
end Marginalia
