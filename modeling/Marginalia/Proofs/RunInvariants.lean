import Marginalia.Proofs.RunEffect

/-!
# Invariants of a run

A run can end at any of its steps, and then the state is what that step left.
`Leaves` speaks of this state whether there was a result or a failure, so that an
invariant is carried through a run without a look at how it ended: each part
preserves it, and if a part has failed there is nothing after it.

The disk is touched in three ways only: directories are made, outputs are written
and the highlighter is called. What these preserve, a whole run preserves.
-/

namespace Marginalia

namespace Step

variable {α β : Type} {before : RunState} {P : RunState → Prop}

/-- The state after a step, successful or failed, has a property. -/
def Leaves (step : Step α) (before : RunState) (P : RunState → Prop) : Prop :=
  P (step.run.run before).2

theorem leaves_pure {value : α} (h : P before) : (pure value : Step α).Leaves before P := h

theorem leaves_throw {failure : Failure} (h : P before) :
    (throw failure : Step α).Leaves before P := h

theorem leaves_get (h : P before) : (get : Step RunState).Leaves before P := h

theorem leaves_set {state : RunState} (h : P state) : (set state : Step Unit).Leaves before P := h

theorem leaves_modify {change : RunState → RunState} (h : P (change before)) :
    (modify change : Step Unit).Leaves before P := h

theorem Gives.leaves {step : Step α} {value : α} {after : RunState}
    (hgives : step.Gives before value after) (h : step.Leaves before P) : P after := by
  rwa [Leaves, hgives] at h

/-- What comes next only matters where the first part has given a value. -/
theorem leaves_bind {step : Step α} {next : α → Step β} (hstep : step.Leaves before P)
    (hnext : ∀ first middle, step.Gives before first middle → P middle →
      (next first).Leaves middle P) : (step >>= next).Leaves before P := by
  rw [Leaves, run_bind]
  split
  · next first middle heq => exact hnext first middle heq (Gives.leaves heq hstep)
  · next failure middle heq =>
      rw [Leaves, heq] at hstep
      exact hstep

theorem leaves_mapM {act : α → Step β} {xs : List α} (h : P before)
    (hact : ∀ x ∈ xs, ∀ now, P now → (act x).Leaves now P) : (xs.mapM act).Leaves before P := by
  induction xs generalizing before with
  | nil => exact leaves_pure h
  | cons x xs ih =>
      rw [List.mapM_cons]
      refine leaves_bind (hact x (List.mem_cons_self ..) before h) fun value middle _ hmiddle => ?_
      refine leaves_bind (ih hmiddle fun other hmem =>
        hact other (List.mem_cons_of_mem _ hmem)) fun others last _ hlast => ?_
      exact leaves_pure hlast

end Step

namespace Generator

open Step

variable {generator : Generator} {before : RunState} {P : Disk → Prop} {paths : List Text}

/-- Nothing that a run does with a disk breaks a property of it, as long as it writes
no files but those at `paths`. -/
structure Preserves (generator : Generator) (P : Disk → Prop) (paths : List Text) : Prop where
  makeDirs : ∀ disk path, P disk → P (disk.makeDirs path).2
  writeText : ∀ disk, ∀ path ∈ paths, ∀ text, P disk → P (disk.writeText path text).2
  runner : ∀ disk command stdin, P disk → P (generator.highlighter.runner disk command stdin).2

theorem leaves_report (notice : Notice) (h : P before.disk) :
    (generator.report notice).Leaves before (P ·.disk) := by
  rw [report]
  split
  · exact leaves_pure h
  · exact leaves_modify h

theorem leaves_forM_report (notices : List Notice) (h : P before.disk) :
    (notices.forM generator.report).Leaves before (P ·.disk) := by
  induction notices generalizing before with
  | nil => exact leaves_pure h
  | cons notice notices ih => exact leaves_bind (leaves_report notice h) fun _ _ _ hnow => ih hnow

theorem leaves_collect (h : P before.disk) : generator.collect.Leaves before (P ·.disk) := by
  refine leaves_bind (leaves_get h) fun _ _ hget _ => ?_
  obtain ⟨rfl, rfl⟩ := gives_get.1 hget
  refine leaves_bind (leaves_set h) fun _ _ _ hnow => ?_
  exact leaves_bind (leaves_forM_report _ hnow) fun _ _ _ hlast => leaves_pure hlast

theorem leaves_change {toFailure : Disk.Fault → Failure} {act : Disk → Disk.Change}
    (h : P before.disk) (hact : P (act before.disk).2) :
    (change toFailure act).Leaves before (P ·.disk) := by
  refine leaves_bind (leaves_get h) fun _ _ hget _ => ?_
  obtain ⟨rfl, rfl⟩ := gives_get.1 hget
  rcases hacted : act before.disk with ⟨outcome, disk⟩
  rw [hacted] at hact
  refine leaves_bind (leaves_set hact) fun _ _ _ hnow => ?_
  cases outcome with
  | ok value => exact leaves_pure hnow
  | error fault => exact leaves_throw hnow

theorem leaves_absorb {α : Type} {traced : Traced α} (h : P traced.disk) :
    (absorb traced).Leaves before (P ·.disk) := by
  refine leaves_bind (leaves_modify h) fun _ _ _ hnow => ?_
  split
  · exact leaves_pure hnow
  · exact leaves_throw hnow

theorem leaves_writeFile (hkeeps : generator.Preserves P paths) {path : Text} (hmem : path ∈ paths)
    (content : Text) (h : P before.disk) : (writeFile path content).Leaves before (P ·.disk) := by
  refine leaves_bind (leaves_change h (hkeeps.makeDirs _ _ h)) fun _ _ _ habove => ?_
  refine leaves_bind (leaves_change habove (hkeeps.writeText _ path hmem _ habove))
    fun _ _ _ hnow => ?_
  exact leaves_pure hnow

theorem leaves_buildSections (hkeeps : generator.Preserves P paths) (source : Text)
    (h : P before.disk) : (generator.buildSections source).Leaves before (P ·.disk) := by
  rw [buildSections]
  split
  · exact leaves_pure h
  · refine leaves_bind (leaves_get h) fun _ _ hget hnow => ?_
    obtain ⟨rfl, rfl⟩ := gives_get.1 hget
    split
    · exact leaves_throw h
    · exact leaves_absorb (Highlighter.disk_highlight_of hkeeps.runner h _)

/-- One step of the loop preserves what its page may not break. -/
theorem leaves_document (hkeeps : generator.Preserves P paths) {source : Text}
    (hmem : generator.settings.layout.pagePath source ∈ paths) (h : P before.disk) :
    (generator.document source).Leaves before (P ·.disk) := by
  refine leaves_bind (leaves_report _ h) fun _ _ _ hparsing => ?_
  refine leaves_bind (leaves_buildSections hkeeps source hparsing) fun _ _ _ hbuilt => ?_
  refine leaves_bind (leaves_get hbuilt) fun _ _ _ hbuilt => ?_
  refine leaves_bind (leaves_writeFile hkeeps hmem _ hbuilt) fun _ _ _ hwritten => ?_
  refine leaves_bind (leaves_modify hwritten) fun _ _ _ hwritten => ?_
  exact leaves_bind (leaves_report _ hwritten) fun _ _ _ hreported => leaves_pure hreported

/-- What the outputs of a run may not break, the whole run preserves. -/
theorem leaves_execute (hkeeps : generator.Preserves P (generator.outputs
      (before.context.collect generator.registry before.disk).1.sources)) (h : P before.disk) :
    generator.execute.Leaves before (P ·.disk) := by
  refine leaves_bind (leaves_collect h) fun sources _ hcollect hcollected => ?_
  obtain ⟨rfl, _⟩ := gives_collect hcollect
  split
  · refine leaves_bind (leaves_report _ hcollected) fun _ _ _ hnow => ?_
    exact leaves_bind (leaves_get hnow) fun _ _ _ hnow => leaves_pure hnow
  · refine leaves_bind (leaves_change hcollected (hkeeps.makeDirs _ _ hcollected))
      fun _ _ _ hready => ?_
    refine leaves_bind (leaves_writeFile hkeeps (List.mem_cons_self ..) _ hready)
      fun _ _ _ hstyled => ?_
    refine leaves_bind (leaves_mapM hstyled fun source hmem now hnow => leaves_document hkeeps
      (List.mem_cons_of_mem _ (List.mem_map_of_mem hmem)) hnow) fun _ _ _ hdocumented => ?_
    refine leaves_bind (leaves_report _ hdocumented) fun _ _ _ hreported => ?_
    exact leaves_bind (leaves_get hreported) fun _ _ _ hnow => leaves_pure hnow

end Generator
end Marginalia
