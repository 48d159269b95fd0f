import Marginalia.Disk.Lemmas
import Marginalia.Language.Registry
import Marginalia.Notice

/-!
# Collecting sources

Inputs are worked off in a queue. A directory puts its children at the end of
the queue, once for each place on the disk; a file goes to the sources or, if
its language is not known, to what is skipped. The queue empties, because each
expansion leaves fewer directories that were not expanded yet.
-/

namespace Marginalia

/-- Where a run stands. -/
structure Context where
  /-- The paths that are still to be looked at. -/
  pending : List Text := []
  /-- The places of the directories that were expanded. -/
  expanded : List Location := []
  /-- The sources found so far, in order. -/
  sources : List Text := []
  /-- The files without a known language. -/
  skipped : List Text := []
  /-- The pages written so far. -/
  written : List Text := []
  deriving DecidableEq, Repr

namespace Context

/-- The directories that were not expanded yet. -/
def unexpanded (disk : Disk) (expanded : List Location) : List Location :=
  disk.directories.filter fun place => !expanded.contains place

/-- Expanding a directory that was not expanded leaves fewer to expand. -/
theorem length_unexpanded_lt {disk : Disk} {expanded : List Location} {place : Location}
    (hmem : place ∈ disk.directories) (hnew : place ∉ expanded) :
    (unexpanded disk (expanded ++ [place])).length < (unexpanded disk expanded).length := by
  unfold unexpanded
  generalize disk.directories = places at hmem
  induction places with
  | nil => simp at hmem
  | cons first rest ih =>
    have hmono : (rest.filter fun p => !(expanded ++ [place]).contains p).length ≤
        (rest.filter fun p => !expanded.contains p).length := by
      simp only [← List.countP_eq_length_filter]
      apply List.countP_mono_left
      intro p _
      simp_all
    by_cases hfirst : first = place
    · subst hfirst
      simp [hnew] at hmono ⊢
      omega
    · have hrest : place ∈ rest := by simpa [Ne.symm hfirst] using hmem
      have hlt := ih hrest
      by_cases hold : first ∈ expanded <;>
        simp [hold, hfirst] at hlt ⊢ <;> omega

/-- Works off the queue; returns where the run then stands and what was noticed on the way. -/
def collect (registry : Registry) (disk : Disk) (context : Context) : Context × List Notice :=
  match _hp : context.pending with
  | [] => (context, [])
  | path :: pending =>
    match _hd : disk.directoryAt? path with
    | some place =>
      if _hx : place ∈ context.expanded then
        let (final, notices) := collect registry disk { context with pending }
        (final, .alreadyExpanded path :: notices)
      else
        collect registry disk
          { context with
            pending := pending ++ (disk.children place).map (Path.join path)
            expanded := context.expanded ++ [place] }
    | none =>
      match registry.forPath path with
      | none =>
        let (final, notices) :=
          collect registry disk { context with pending, skipped := context.skipped ++ [path] }
        (final, .unsupported path :: notices)
      | some _ =>
        collect registry disk { context with pending, sources := context.sources ++ [path] }
termination_by ((unexpanded disk context.expanded).length, context.pending.length)
decreasing_by
  · right; simp [_hp]
  · left; exact length_unexpanded_lt (Disk.mem_directories_of_directoryAt? _hd) _hx
  · right; simp [_hp]
  · right; simp [_hp]

end Context
end Marginalia
