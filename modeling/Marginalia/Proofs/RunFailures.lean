import Marginalia.Proofs.RunSteps

/-!
# Where a step of a run fails

A step that fails has done all of its parts up to one, and that one has failed.
`fails_bind` is the counterpart of `gives_bind` for this, and it takes a failed
run apart down to the one operation on the disk or the highlighter that was
refused. Of a loop over a list, everything before the failing element was done,
and nothing after it was begun.
-/

namespace Marginalia

namespace Step

/-- A step fails and leaves a state behind. -/
def Fails (step : Step α) (before : RunState) (failure : Failure) (after : RunState) : Prop :=
  step.run.run before = (.error failure, after)

variable {α β : Type} {before after : RunState} {failure : Failure}

/-- Every step comes to an end, with a result or with a failure. -/
theorem gives_or_fails (step : Step α) (before : RunState) :
    (∃ value, step.Gives before value (step.run.run before).2) ∨
      ∃ failure, step.Fails before failure (step.run.run before).2 := by
  rcases hstep : step.run.run before with ⟨outcome, after⟩
  cases outcome with
  | ok value => exact Or.inl ⟨value, hstep⟩
  | error failure => exact Or.inr ⟨failure, hstep⟩

theorem fails_bind {step : Step α} {next : α → Step β} :
    (step >>= next).Fails before failure after ↔
      step.Fails before failure after ∨
        ∃ first middle, step.Gives before first middle ∧
          (next first).Fails middle failure after := by
  rw [Fails, run_bind]
  constructor
  · intro h
    split at h
    · next first middle heq => exact Or.inr ⟨first, middle, heq, h⟩
    · next refused middle heq =>
        cases h
        exact Or.inl heq
  · rintro (hstep | ⟨first, middle, hstep, hnext⟩)
    · rw [hstep]
    · rw [hstep]
      exact hnext

theorem not_fails_pure {value : α} : ¬ (pure value : Step α).Fails before failure after := by
  intro h
  cases h

theorem not_fails_get : ¬ (get : Step RunState).Fails before failure after := by
  intro h
  cases h

theorem not_fails_set {state : RunState} :
    ¬ (set state : Step Unit).Fails before failure after := by
  intro h
  cases h

theorem not_fails_modify {change : RunState → RunState} :
    ¬ (modify change : Step Unit).Fails before failure after := by
  intro h
  cases h

theorem fails_throw {given : Failure} :
    (throw given : Step α).Fails before failure after ↔ given = failure ∧ before = after := by
  constructor
  · intro h
    cases h
    exact ⟨rfl, rfl⟩
  · rintro ⟨rfl, rfl⟩
    rfl

theorem Gives.unique {step : Step α} {value other : α} {last : RunState}
    (h : step.Gives before value after) (hother : step.Gives before other last) :
    value = other ∧ after = last := by
  rw [Gives] at h hother
  rw [h] at hother
  cases hother
  exact ⟨rfl, rfl⟩

theorem Gives.not_fails {step : Step α} {value : α} {last : RunState}
    (h : step.Gives before value after) : ¬ step.Fails before failure last := by
  intro hfails
  rw [Gives] at h
  rw [Fails, h] at hfails
  cases hfails

/-- A step that comes after one that does not fail. -/
theorem fails_of_fails_bind {step : Step α} {next : α → Step β}
    (h : (step >>= next).Fails before failure after)
    (hstep : ¬ step.Fails before failure after) :
    ∃ first middle, step.Gives before first middle ∧ (next first).Fails middle failure after :=
  (fails_bind.1 h).resolve_left hstep

/-- A loop fails at one element, after it has been through those before it. -/
theorem fails_mapM {act : α → Step β} {xs : List α} :
    (xs.mapM act).Fails before failure after ↔
      ∃ front x rest values middle, xs = front ++ x :: rest ∧
        (front.mapM act).Gives before values middle ∧ (act x).Fails middle failure after := by
  induction xs generalizing before with
  | nil =>
      constructor
      · exact fun h => absurd h not_fails_pure
      · rintro ⟨front, x, rest, _, _, hnil, _⟩
        cases front <;> cases hnil
  | cons first xs ih =>
      rw [List.mapM_cons, fails_bind]
      constructor
      · rintro (hfirst | ⟨value, middle, hfirst, h⟩)
        · exact ⟨[], first, xs, [], before, rfl, gives_pure.2 ⟨rfl, rfl⟩, hfirst⟩
        · rcases fails_bind.1 h with hrest | ⟨_, _, _, h⟩
          · obtain ⟨front, x, rest, values, last, rfl, hfront, hx⟩ := ih.1 hrest
            exact ⟨first :: front, x, rest, value :: values, last, rfl,
              gives_mapM_cons.2 ⟨value, middle, values, hfirst, hfront, rfl⟩, hx⟩
          · exact absurd h not_fails_pure
      · rintro ⟨front, x, rest, values, last, heq, hfront, hx⟩
        cases front with
        | nil =>
            cases heq
            obtain ⟨_, rfl⟩ := gives_pure.1 hfront
            exact Or.inl hx
        | cons other front =>
            cases heq
            obtain ⟨value, middle, others, hfirst, hothers, _⟩ := gives_mapM_cons.1 hfront
            exact Or.inr ⟨value, middle, hfirst,
              fails_bind.2 (Or.inl (ih.2 ⟨front, x, rest, others, last, rfl, hothers, hx⟩))⟩

end Step

namespace Disk

/-- A fault that comes up while a file is written, so that it was open. -/
def Fault.isLate : Fault → Bool
  | .stopped _ | .unencodable _ => true
  | _ => false

/-- A text cannot be written to a file, or a directory above it cannot be made, and this much
was done. -/
def FailsToWrite (disk : Disk) (path text : Text) (fault : Fault) (after : Disk) : Prop :=
  disk.makeDirs (Path.directoryOf path) = (.error fault, after) ∨
    ∃ above, disk.makeDirs (Path.directoryOf path) = (.ok (), above) ∧
      above.writeText path text = (.error fault, after)

end Disk

namespace Generator

open Step

variable {generator : Generator} {before after : RunState} {failure : Failure}

/-! ## Operations -/

theorem not_fails_report {notice : Notice} :
    ¬ (generator.report notice).Fails before failure after := by
  rw [report]
  split
  · exact not_fails_pure
  · exact not_fails_modify

theorem not_fails_forM_report {notices : List Notice} :
    ¬ (notices.forM generator.report).Fails before failure after := by
  induction notices generalizing before with
  | nil => exact not_fails_pure
  | cons notice notices ih =>
      intro h
      obtain ⟨_, _, _, hrest⟩ := fails_of_fails_bind h not_fails_report
      exact ih hrest

theorem not_fails_collect : ¬ generator.collect.Fails before failure after := by
  intro h
  obtain ⟨_, _, _, h⟩ := fails_of_fails_bind h not_fails_get
  obtain ⟨_, _, _, h⟩ := fails_of_fails_bind h not_fails_set
  obtain ⟨_, _, _, h⟩ := fails_of_fails_bind h not_fails_forM_report
  exact not_fails_pure h

theorem fails_change {toFailure : Disk.Fault → Failure} {act : Disk → Disk.Change} :
    (change toFailure act).Fails before failure after ↔
      ∃ fault disk, act before.disk = (.error fault, disk) ∧ toFailure fault = failure ∧
        { before with disk } = after := by
  constructor
  · intro h
    obtain ⟨_, _, hget, h⟩ := fails_of_fails_bind h not_fails_get
    obtain ⟨rfl, rfl⟩ := gives_get.1 hget
    rcases hact : act before.disk with ⟨outcome, disk⟩
    simp only [hact] at h
    obtain ⟨_, middle, hset, h⟩ := fails_of_fails_bind h not_fails_set
    have hmiddle := gives_set.1 hset
    cases outcome with
    | ok _ => exact absurd h not_fails_pure
    | error fault =>
        obtain ⟨hfailure, rfl⟩ := fails_throw.1 h
        exact ⟨fault, disk, rfl, hfailure, hmiddle⟩
  · rintro ⟨fault, disk, hact, hfailure, hafter⟩
    refine fails_bind.2 (Or.inr ⟨_, _, gives_get.2 ⟨rfl, rfl⟩, ?_⟩)
    rw [hact]
    exact fails_bind.2 (Or.inr ⟨(), _, gives_set.2 rfl, fails_throw.2 ⟨hfailure, hafter⟩⟩)

theorem fails_writeFile {path content : Text} :
    (writeFile path content).Fails before failure after ↔
      ∃ fault disk, before.disk.FailsToWrite path content fault disk ∧
        writeFailure path fault = failure ∧ { before with disk } = after := by
  constructor
  · intro h
    rcases fails_bind.1 h with hdirs | ⟨_, middle, hdirs, h⟩
    · obtain ⟨fault, disk, hmade, hfailure, hafter⟩ := fails_change.1 hdirs
      exact ⟨fault, disk, Or.inl hmade, hfailure, hafter⟩
    · obtain ⟨hmade, hmiddle⟩ := gives_change hdirs
      rcases fails_bind.1 h with hfile | ⟨_, _, _, h⟩
      · obtain ⟨fault, disk, hwritten, hfailure, hafter⟩ := fails_change.1 hfile
        refine ⟨fault, disk, Or.inr ⟨middle.disk, hmade, hwritten⟩, hfailure, ?_⟩
        rw [← hafter, hmiddle]
      · exact absurd h not_fails_pure
  · rintro ⟨fault, disk, hmade | ⟨above, hmade, hwritten⟩, hfailure, hafter⟩
    · exact fails_bind.2 (Or.inl (fails_change.2 ⟨fault, disk, hmade, hfailure, hafter⟩))
    · have hdirs : (change (writeFailure path) (·.makeDirs (Path.directoryOf path))).Gives
          before () { before with disk := above } := change_gives hmade _
      exact fails_bind.2 (Or.inr ⟨(), _, hdirs,
        fails_bind.2 (Or.inl (fails_change.2 ⟨fault, disk, hwritten, hfailure, hafter⟩))⟩)

theorem fails_absorb {α : Type} {traced : Traced α} :
    (absorb traced).Fails before failure after ↔
      traced.result = .error failure ∧
        { before with
          disk := traced.disk
          calls := before.calls ++ traced.calls
          notices := before.notices ++ traced.notices } = after := by
  constructor
  · intro h
    obtain ⟨_, middle, hmodify, h⟩ := fails_of_fails_bind h not_fails_modify
    have hmiddle := gives_modify.1 hmodify
    cases hresult : traced.result with
    | ok _ =>
        rw [hresult] at h
        exact absurd h not_fails_pure
    | error refused =>
        rw [hresult] at h
        obtain ⟨rfl, rfl⟩ := fails_throw.1 h
        exact ⟨rfl, hmiddle⟩
  · rintro ⟨hresult, hafter⟩
    refine fails_bind.2 (Or.inr ⟨(), _, gives_modify.2 rfl, ?_⟩)
    rw [hresult]
    exact fails_throw.2 ⟨rfl, hafter⟩

/-! ## One source -/

/-- How documenting a source of a known language can fail: before its file is read,
in the one call of the highlighter, or when its page is written. -/
inductive DocumentFails (generator : Generator) (before : RunState) (source : Text)
    (language : Language) : Failure → RunState → Prop
  | read {failure : Failure} {notices : List Notice} :
      generator.readSource before.disk source = .error failure →
      DocumentFails generator before source language failure { before with notices }
  | highlight {failure : Failure} {text : Text} {traced : Traced (List Section)}
      {notices : List Notice} :
      generator.readSource before.disk source = .ok text →
      generator.highlighter.highlight before.disk language (Section.ofSource language text) =
        traced →
      traced.result = .error failure →
      DocumentFails generator before source language failure
        { before with disk := traced.disk, calls := before.calls ++ traced.calls, notices }
  | write {text : Text} {traced : Traced (List Section)} {sections : List Section}
      {fault : Disk.Fault} {disk : Disk} {notices : List Notice} :
      generator.readSource before.disk source = .ok text →
      generator.highlighter.highlight before.disk language (Section.ofSource language text) =
        traced →
      traced.result = .ok sections →
      traced.disk.FailsToWrite (generator.settings.layout.pagePath source)
        (Page.ofSource generator.settings.layout (Disk.pathOf traced.disk.cwd) source sections
          before.context.sources).render fault disk →
      DocumentFails generator before source language
        (writeFailure (generator.settings.layout.pagePath source) fault)
        { before with disk, calls := before.calls ++ traced.calls, notices }

theorem fails_buildSections {source : Text} {language : Language}
    (hlanguage : generator.registry.forPath source = some language)
    (h : (generator.buildSections source).Fails before failure after) :
    generator.readSource before.disk source = .error failure ∧ before = after ∨
      ∃ text, generator.readSource before.disk source = .ok text ∧
        (absorb (generator.highlighter.highlight before.disk language
          (Section.ofSource language text))).Fails before failure after := by
  rw [buildSections, hlanguage] at h
  obtain ⟨_, _, hget, h⟩ := fails_of_fails_bind h not_fails_get
  obtain ⟨rfl, rfl⟩ := gives_get.1 hget
  cases hread : generator.readSource before.disk source with
  | error refused =>
      rw [hread] at h
      obtain ⟨rfl, rfl⟩ := fails_throw.1 h
      exact Or.inl ⟨rfl, rfl⟩
  | ok text =>
      rw [hread] at h
      exact Or.inr ⟨text, rfl, h⟩

theorem fails_document {source : Text} {language : Language}
    (hlanguage : generator.registry.forPath source = some language)
    (h : (generator.document source).Fails before failure after) :
    generator.DocumentFails before source language failure after := by
  obtain ⟨_, parsing, hparsing, h⟩ := fails_of_fails_bind h not_fails_report
  obtain ⟨_, rfl⟩ := gives_report hparsing
  rcases fails_bind.1 h with hbuild | ⟨sections, built, hbuild, h⟩
  · rcases fails_buildSections hlanguage hbuild with ⟨hread, rfl⟩ | ⟨text, hread, habsorb⟩
    · exact .read hread
    · obtain ⟨hresult, rfl⟩ := fails_absorb.1 habsorb
      exact .highlight hread rfl hresult
  · obtain ⟨text, hread, habsorb⟩ := gives_buildSections hlanguage hbuild
    obtain ⟨hresult, _, rfl⟩ := gives_absorb habsorb
    obtain ⟨_, _, hget, h⟩ := fails_of_fails_bind h not_fails_get
    obtain ⟨rfl, rfl⟩ := gives_get.1 hget
    rcases fails_bind.1 h with hwrite | ⟨_, _, _, h⟩
    · obtain ⟨fault, disk, hrefused, rfl, rfl⟩ := fails_writeFile.1 hwrite
      exact .write hread rfl hresult hrefused
    · obtain ⟨_, _, _, h⟩ := fails_of_fails_bind h not_fails_modify
      obtain ⟨_, _, _, h⟩ := fails_of_fails_bind h not_fails_report
      exact absurd h not_fails_pure

/-! ## The whole run -/

/-- A run that has sources cannot make the output directory or write the stylesheet. -/
def FailsToPrepare (generator : Generator) (before : RunState) (failure : Failure)
    (after : RunState) : Prop :=
  ∃ sources collected, generator.collect.Gives before sources collected ∧ sources ≠ [] ∧
    ((change .disk (·.makeDirs generator.settings.outputDir)).Fails collected failure after ∨
      ∃ ready,
        (change .disk (·.makeDirs generator.settings.outputDir)).Gives collected () ready ∧
        (writeFile generator.settings.layout.stylesheetPath
          (Stylesheet.text generator.colourRules)).Fails ready failure after)

theorem Prepares.not_fails {sources : List Text} {styled : RunState}
    (h : generator.Prepares before sources styled) :
    ¬ generator.FailsToPrepare before failure after := by
  obtain ⟨collected, ready, hcollect, hready, hstyled⟩ := h
  rintro ⟨_, _, hother, _, hfails⟩
  obtain ⟨_, rfl⟩ := hcollect.unique hother
  rcases hfails with hfails | ⟨_, hmade, hfails⟩
  · exact hready.not_fails hfails
  · obtain ⟨_, rfl⟩ := hready.unique hmade
    exact hstyled.not_fails hfails

/-- A run that fails does so before its first source or at one of its sources. -/
theorem fails_execute (h : generator.execute.Fails before failure after) :
    generator.FailsToPrepare before failure after ∨
      ∃ sources first source rest now, sources = first ++ source :: rest ∧
        generator.ComesTo before sources first now ∧
        (generator.document source).Fails now failure after := by
  obtain ⟨sources, collected, hcollect, h⟩ := fails_of_fails_bind h not_fails_collect
  split at h
  · obtain ⟨_, _, _, h⟩ := fails_of_fails_bind h not_fails_report
    obtain ⟨_, _, _, h⟩ := fails_of_fails_bind h not_fails_get
    exact absurd h not_fails_pure
  · next hne =>
      rcases fails_bind.1 h with hready | ⟨_, ready, hready, h⟩
      · exact Or.inl ⟨sources, collected, hcollect, hne, Or.inl hready⟩
      · rcases fails_bind.1 h with hstyled | ⟨_, styled, hstyled, h⟩
        · exact Or.inl ⟨sources, collected, hcollect, hne, Or.inr ⟨ready, hready, hstyled⟩⟩
        · obtain ⟨rfl, _⟩ := gives_writeFile hstyled
          rcases fails_bind.1 h with hpages | ⟨_, _, _, h⟩
          · obtain ⟨first, source, rest, pages, now, hsources, hfirst, hsource⟩ :=
              fails_mapM.1 hpages
            exact Or.inr ⟨sources, first, source, rest, now, hsources,
              ⟨styled, pages, ⟨collected, ready, hcollect, hready, hstyled⟩, hfirst⟩, hsource⟩
          · obtain ⟨_, _, _, h⟩ := fails_of_fails_bind h not_fails_report
            obtain ⟨_, _, _, h⟩ := fails_of_fails_bind h not_fails_get
            exact absurd h not_fails_pure

/-! ## When a step fails -/

/-- A source that can be read and highlighted fails if its page cannot be written. -/
theorem exists_fails_document {source text : Text} {language : Language}
    {sections : List Section} {fault : Disk.Fault} {disk : Disk}
    (hlanguage : generator.registry.forPath source = some language)
    (hread : generator.readSource before.disk source = .ok text)
    (hresult : (generator.highlighter.highlight before.disk language
      (Section.ofSource language text)).result = .ok sections) :
    let traced := generator.highlighter.highlight before.disk language
      (Section.ofSource language text)
    let page := generator.settings.layout.pagePath source
    traced.disk.FailsToWrite page (Page.ofSource generator.settings.layout
      (Disk.pathOf traced.disk.cwd) source sections before.context.sources).render fault disk →
    ∃ after, (generator.document source).Fails before (writeFailure page fault) after ∧
      after.disk = disk := by
  intro traced page hrefused
  obtain ⟨_, hparsing, notices, rfl⟩ := exists_gives_report generator (.parsing source) before
  have hbuild : (generator.buildSections source).Gives { before with notices } sections _ :=
    buildSections_gives hlanguage hread (absorb_gives hresult _)
  exact ⟨_, fails_bind.2 (Or.inr ⟨(), _, hparsing, fails_bind.2 (Or.inr ⟨sections, _, hbuild,
    fails_bind.2 (Or.inr ⟨_, _, gives_get.2 ⟨rfl, rfl⟩, fails_bind.2 (Or.inl
      (fails_writeFile.2 ⟨fault, disk, hrefused, rfl, rfl⟩))⟩)⟩)⟩), rfl⟩

/-- A run fails at the first of its sources that fails. -/
theorem execute_fails {sources first rest : List Text} {source : Text} {now : RunState}
    (hnow : generator.ComesTo before sources first now) (hsources : sources = first ++ source :: rest)
    (h : (generator.document source).Fails now failure after) :
    generator.execute.Fails before failure after := by
  obtain ⟨styled, pages, ⟨collected, ready, hcollect, hready, hstyled⟩, hfirst⟩ := hnow
  have hne : sources ≠ [] := by
    rw [hsources]
    exact List.append_ne_nil_of_right_ne_nil _ (List.cons_ne_nil _ _)
  refine fails_bind.2 (Or.inr ⟨sources, collected, hcollect, ?_⟩)
  rw [if_neg hne]
  exact fails_bind.2 (Or.inr ⟨(), ready, hready, fails_bind.2 (Or.inr ⟨_, styled, hstyled,
    fails_bind.2 (Or.inl (fails_mapM.2
      ⟨first, source, rest, pages, now, hsources, hfirst, h⟩))⟩)⟩)

end Generator
end Marginalia
