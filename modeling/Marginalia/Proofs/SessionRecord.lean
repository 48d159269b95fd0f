import Marginalia.Proofs.RunRecord

/-!
# The record of a session

A run need not be one call. Its parts can be called in any order on one context,
again after a failure, and with new paths in the queue. What the context then says
is stated against the events of the session: which directories had their children
put into the queue, and which sources were documented to the end.

Only two things ever change a context. Working off the queue empties it and
appends to the rest, and a source that is documented appends its page; what fails
appends nothing. So each call appends to the record what it appends to the events,
and it does not matter which calls there were. That no directory is ever expanded a
second time needs the record of the whole session, because the queue of one call
knows the directories of the calls before it only from there.
-/

namespace Marginalia

namespace Context

variable {registry : Registry} {disk : Disk} {context final : Context}
  {directories : List (Text × Location)}

/-- What a context has on record is still there, with more behind it. -/
structure Extends (before after : Context) : Prop where
  sources : before.sources <+: after.sources
  skipped : before.skipped <+: after.skipped
  written : before.written <+: after.written

theorem Extends.refl (context : Context) : Extends context context :=
  ⟨List.prefix_rfl, List.prefix_rfl, List.prefix_rfl⟩

theorem Extends.trans {before middle after : Context} (hfirst : Extends before middle)
    (hsecond : Extends middle after) : Extends before after :=
  ⟨hfirst.sources.trans hsecond.sources, hfirst.skipped.trans hsecond.skipped,
    hfirst.written.trans hsecond.written⟩

/-- Working off the queue has put the children of these directories into it, each below
the path under which the directory was taken, and nothing else. -/
def Enqueues (registry : Registry) (disk : Disk) (context : Context)
    (directories : List (Text × Location)) (final : Context) : Prop :=
  ∃ taken, Takes registry disk context taken final ∧
    directories = disk.freshDirectories context.expanded taken ∧
    taken = context.pending ++ directories.flatMap disk.childPaths

theorem exists_enqueues (registry : Registry) (disk : Disk) (context : Context) :
    ∃ directories, Enqueues registry disk context directories (context.collect registry disk).1 := by
  obtain ⟨taken, htakes⟩ := exists_takes registry disk context
  exact ⟨_, taken, htakes, rfl, htakes.taken_eq⟩

theorem pending_collect (registry : Registry) (disk : Disk) (context : Context) :
    (context.collect registry disk).1.pending = [] := by
  obtain ⟨_, htakes⟩ := exists_takes registry disk context
  rw [htakes.final_eq]

theorem Enqueues.extends (h : Enqueues registry disk context directories final) :
    Extends context final := by
  obtain ⟨taken, htakes, _⟩ := h
  rw [htakes.final_eq]
  exact ⟨List.prefix_append .., List.prefix_append .., List.prefix_rfl⟩

end Context

namespace Session

/-- What can be done with a context: paths are put at the ends of its queue, or a part of
a run or the whole of it is called. -/
inductive Action where
  | push (first last : List Text)
  | collect
  | document (source : Text)
  | execute

/-- What a context is to have on record. -/
inductive Event where
  /-- The children of a directory were put into the queue, below a path of it. -/
  | enqueued (directory : Text × Location)
  /-- A source was documented. -/
  | documented (source : Text)

namespace Event

def place? : Event → Option Location
  | enqueued directory => some directory.2
  | documented _ => none

def source? : Event → Option Text
  | enqueued _ => none
  | documented source => some source

end Event

/-- The directories of which the children were put into the queue. -/
def places (events : List Event) : List Location :=
  events.filterMap Event.place?

/-- The sources that were documented. -/
def sources (events : List Event) : List Text :=
  events.filterMap Event.source?

@[simp] theorem places_append (events later : List Event) :
    places (events ++ later) = places events ++ places later :=
  List.filterMap_append ..

@[simp] theorem sources_append (events later : List Event) :
    sources (events ++ later) = sources events ++ sources later :=
  List.filterMap_append ..

@[simp] theorem places_enqueued (directories : List (Text × Location)) :
    places (directories.map .enqueued) = directories.map Prod.snd := by
  rw [places, List.filterMap_map, ← List.filterMap_eq_map]
  rfl

@[simp] theorem sources_enqueued (directories : List (Text × Location)) :
    sources (directories.map .enqueued) = [] := by
  rw [sources, List.filterMap_map]
  exact List.filterMap_eq_nil_iff.2 fun _ _ => rfl

@[simp] theorem places_documented (documented : List Text) :
    places (documented.map .documented) = [] := by
  rw [places, List.filterMap_map]
  exact List.filterMap_eq_nil_iff.2 fun _ _ => rfl

@[simp] theorem sources_documented (documented : List Text) :
    sources (documented.map .documented) = documented := by
  rw [sources, List.filterMap_map]
  exact List.filterMap_some ..

/-- A context is the record of the events so far. -/
structure Records (registry : Registry) (layout : Layout) (events : List Event)
    (context : Context) : Prop where
  sources_known : ∀ source ∈ context.sources, (registry.forPath source).isSome
  skipped_unknown : ∀ path ∈ context.skipped, registry.forPath path = none
  expanded_eq : context.expanded = places events
  places_nodup : (places events).Nodup
  written_eq : context.written = (sources events).map layout.pagePath

variable {registry : Registry} {layout : Layout} {events : List Event} {context : Context}

theorem records_fresh (registry : Registry) (layout : Layout) (inputs : List Text) :
    Records registry layout [] { pending := inputs } where
  sources_known := fun _ hnil => by cases hnil
  skipped_unknown := fun _ hnil => by cases hnil
  expanded_eq := rfl
  places_nodup := List.nodup_nil
  written_eq := rfl

theorem Records.push (h : Records registry layout events context) (pending : List Text) :
    Records registry layout events { context with pending } :=
  ⟨h.sources_known, h.skipped_unknown, h.expanded_eq, h.places_nodup, h.written_eq⟩

theorem Records.document (h : Records registry layout events context) (documented : List Text) :
    Records registry layout (events ++ documented.map .documented)
      { context with written := context.written ++ documented.map layout.pagePath } where
  sources_known := h.sources_known
  skipped_unknown := h.skipped_unknown
  expanded_eq := by simp [h.expanded_eq]
  places_nodup := by simpa using h.places_nodup
  written_eq := by simp [h.written_eq]

/-- A directory that is expanded was not on record, so it was never expanded before. -/
theorem Records.enqueue {disk : Disk} {directories : List (Text × Location)} {final : Context}
    (h : Records registry layout events context)
    (henqueues : context.Enqueues registry disk directories final) :
    Records registry layout (events ++ directories.map .enqueued) final := by
  obtain ⟨taken, htakes, rfl, _⟩ := henqueues
  have hnew : ∀ place ∈ places events,
      place ∉ (disk.freshDirectories context.expanded taken).map Prod.snd := by
    intro place hold hmem
    rw [← h.expanded_eq] at hold
    exact (Disk.mem_map_freshDirectories.1 hmem).1 hold
  rw [htakes.final_eq]
  refine ⟨fun source hmem => ?_, fun path hmem => ?_, ?_, ?_, ?_⟩
  · rcases List.mem_append.1 hmem with hold | hfound
    · exact h.sources_known source hold
    · exact (Bool.and_eq_true_iff.1 (List.mem_filter.1 hfound).2).2
  · rcases List.mem_append.1 hmem with hold | hfound
    · exact h.skipped_unknown path hold
    · exact Option.isNone_iff_eq_none.1 (Bool.and_eq_true_iff.1 (List.mem_filter.1 hfound).2).2
  · simp [Context.afterPaths, h.expanded_eq]
  · rw [places_append, places_enqueued]
    exact List.nodup_append.2 ⟨h.places_nodup, Disk.nodup_freshDirectories ..,
      fun place hold other hmem hsame => hnew place hold (hsame ▸ hmem)⟩
  · simp [Context.afterPaths, h.written_eq]

end Session

namespace Generator

open Step Session

variable {generator : Generator} {before after : RunState} {failure : Failure}

/-! ## What the parts do to the context -/

theorem gives_buildSections_context {source : Text} {sections : List Section}
    (h : (generator.buildSections source).Gives before sections after) :
    after.context = before.context := by
  cases hlanguage : generator.registry.forPath source with
  | none =>
      rw [buildSections, hlanguage] at h
      obtain ⟨_, rfl⟩ := gives_pure.1 h
      rfl
  | some language =>
      obtain ⟨_, _, habsorb⟩ := gives_buildSections hlanguage h
      obtain ⟨_, _, rfl⟩ := gives_absorb habsorb
      rfl

theorem fails_buildSections_context {source : Text}
    (h : (generator.buildSections source).Fails before failure after) :
    after.context = before.context := by
  cases hlanguage : generator.registry.forPath source with
  | none =>
      rw [buildSections, hlanguage] at h
      exact absurd h not_fails_pure
  | some language =>
      rcases fails_buildSections hlanguage h with ⟨_, rfl⟩ | ⟨_, _, habsorb⟩
      · rfl
      · obtain ⟨_, rfl⟩ := fails_absorb.1 habsorb
        rfl

/-- A source that is documented, of a known language or not, has its page on record. -/
theorem gives_document_context {source page : Text}
    (h : (generator.document source).Gives before page after) :
    after.context = { before.context with
      written := before.context.written ++ [generator.settings.layout.pagePath source] } := by
  obtain ⟨_, parsing, hparsing, h⟩ := gives_bind.1 h
  obtain ⟨_, rfl⟩ := gives_report hparsing
  obtain ⟨sections, built, hbuild, h⟩ := gives_bind.1 h
  have hbuilt := gives_buildSections_context hbuild
  obtain ⟨_, _, hget, h⟩ := gives_bind.1 h
  obtain ⟨rfl, rfl⟩ := gives_get.1 hget
  obtain ⟨target, written, hwrite, h⟩ := gives_bind.1 h
  obtain ⟨rfl, hwritten, _⟩ := gives_writeFile hwrite
  obtain ⟨_, modified, hmodify, h⟩ := gives_bind.1 h
  have hmodified := gives_modify.1 hmodify
  obtain ⟨_, reported, hreport, h⟩ := gives_bind.1 h
  obtain ⟨_, hreported⟩ := gives_report hreport
  obtain ⟨rfl, rfl⟩ := gives_pure.1 h
  have hcontext : written.context = before.context := by
    rw [hwritten]
    exact hbuilt
  rw [hreported, ← hmodified, hcontext]

/-- A source that fails leaves the context as it was, wherever it fails. -/
theorem fails_document_context {source : Text}
    (h : (generator.document source).Fails before failure after) :
    after.context = before.context := by
  obtain ⟨_, parsing, hparsing, h⟩ := fails_of_fails_bind h not_fails_report
  obtain ⟨_, rfl⟩ := gives_report hparsing
  rcases fails_bind.1 h with hbuild | ⟨sections, built, hbuild, h⟩
  · have hrefused := fails_buildSections_context hbuild
    exact hrefused
  · have hbuilt := gives_buildSections_context hbuild
    obtain ⟨_, _, hget, h⟩ := fails_of_fails_bind h not_fails_get
    obtain ⟨rfl, rfl⟩ := gives_get.1 hget
    rcases fails_bind.1 h with hwrite | ⟨_, _, _, h⟩
    · obtain ⟨_, _, _, _, rfl⟩ := fails_writeFile.1 hwrite
      exact hbuilt
    · obtain ⟨_, _, _, h⟩ := fails_of_fails_bind h not_fails_modify
      obtain ⟨_, _, _, h⟩ := fails_of_fails_bind h not_fails_report
      exact absurd h not_fails_pure

theorem FailsToPrepare.context_eq (h : generator.FailsToPrepare before failure after) :
    after.context = (before.context.collect generator.registry before.disk).1 := by
  obtain ⟨_, _, hcollect, _, hfails⟩ := h
  obtain ⟨_, _, rfl⟩ := gives_collect hcollect
  rcases hfails with hmake | ⟨ready, hmake, hwrite⟩
  · obtain ⟨_, _, _, _, rfl⟩ := fails_change.1 hmake
    rfl
  · obtain ⟨_, hready⟩ := gives_change hmake
    obtain ⟨_, _, _, _, rfl⟩ := fails_writeFile.1 hwrite
    rw [hready]

/-! ## What happens in an action -/

/-- The state after an action, whether it failed or not. -/
def perform (generator : Generator) (before : RunState) : Action → RunState
  | .push first last =>
    { before with context :=
      { before.context with pending := first ++ before.context.pending ++ last } }
  | .collect => (generator.collect.run.run before).2
  | .document source => ((generator.document source).run.run before).2
  | .execute => (generator.execute.run.run before).2

/-- The state after a session. -/
def session (generator : Generator) (before : RunState) (actions : List Action) : RunState :=
  actions.foldl generator.perform before

/-- Sources are documented one after the other, up to the first that fails; `documented`
are those before it. -/
inductive Documenting (generator : Generator) :
    RunState → List Text → List Text → RunState → Prop
  | done {before : RunState} : Documenting generator before [] [] before
  | next {before middle after : RunState} {source page : Text} {sources documented : List Text} :
      (generator.document source).Gives before page middle →
      Documenting generator middle sources documented after →
      Documenting generator before (source :: sources) (source :: documented) after
  | fails {before after : RunState} {source : Text} {sources : List Text} {failure : Failure} :
      (generator.document source).Fails before failure after →
      Documenting generator before (source :: sources) [] after

/-- A whole run has documented these sources when it has ended. -/
inductive Completes (generator : Generator) (before : RunState) : List Text → RunState → Prop
  | idle {collected after : RunState} : generator.collect.Gives before [] collected →
      OnlyPrints collected after → Completes generator before [] after
  | unprepared {failure : Failure} {after : RunState} :
      generator.FailsToPrepare before failure after → Completes generator before [] after
  | prepared {sources documented : List Text} {styled last after : RunState} :
      generator.Prepares before sources styled → sources ≠ [] →
      generator.Documenting styled sources documented last → OnlyPrints last after →
      Completes generator before documented after

/-- These events happen in an action. -/
inductive Performs (generator : Generator) (before : RunState) :
    Action → List Event → RunState → Prop
  | push (first last : List Text) :
      Performs generator before (.push first last) [] (generator.perform before (.push first last))
  | collect {sources : List Text} {directories : List (Text × Location)} {after : RunState} :
      generator.collect.Gives before sources after →
      before.context.Enqueues generator.registry before.disk directories
        (before.context.collect generator.registry before.disk).1 →
      Performs generator before .collect (directories.map .enqueued) after
  | document {source : Text} {documented : List Text} {after : RunState} :
      generator.Documenting before [source] documented after →
      Performs generator before (.document source) (documented.map .documented) after
  | execute {directories : List (Text × Location)} {documented : List Text} {after : RunState} :
      before.context.Enqueues generator.registry before.disk directories
        (before.context.collect generator.registry before.disk).1 →
      generator.Completes before documented after →
      Performs generator before .execute
        (directories.map .enqueued ++ documented.map .documented) after

/-- These events happen in a session. -/
inductive Proceeds (generator : Generator) :
    RunState → List Action → List Event → RunState → Prop
  | done {before : RunState} : Proceeds generator before [] [] before
  | next {before middle after : RunState} {action : Action} {actions : List Action}
      {events later : List Event} : generator.Performs before action events middle →
      Proceeds generator middle actions later after →
      Proceeds generator before (action :: actions) (events ++ later) after

theorem documenting_of_fails {first rest pages : List Text} {source : Text} {now : RunState}
    (hfirst : (first.mapM generator.document).Gives before pages now)
    (hsource : (generator.document source).Fails now failure after) :
    generator.Documenting before (first ++ source :: rest) first after := by
  induction first generalizing before pages with
  | nil =>
      obtain ⟨_, rfl⟩ := gives_pure.1 hfirst
      exact .fails hsource
  | cons other first ih =>
      obtain ⟨_, _, _, hother, hothers, _⟩ := gives_mapM_cons.1 hfirst
      exact .next hother (ih hothers)

theorem documenting_of_gives {sources pages : List Text}
    (h : (sources.mapM generator.document).Gives before pages after) :
    generator.Documenting before sources sources after := by
  induction sources generalizing before pages with
  | nil =>
      obtain ⟨_, rfl⟩ := gives_pure.1 h
      exact .done
  | cons source sources ih =>
      obtain ⟨_, _, _, hsource, hsources, _⟩ := gives_mapM_cons.1 h
      exact .next hsource (ih hsources)

theorem exists_completes (generator : Generator) (before : RunState) :
    ∃ documented, generator.Completes before documented (generator.execute.run.run before).2 := by
  rcases gives_or_fails generator.execute before with ⟨result, h⟩ | ⟨failure, h⟩
  · rcases gives_execute h with ⟨hnil, _, collected, hcollect, hprints⟩ |
      ⟨hne, styled, last, hprepares, hpages, hprints⟩
    · exact ⟨[], .idle (hnil ▸ hcollect) hprints⟩
    · exact ⟨_, .prepared hprepares hne (documenting_of_gives hpages) hprints⟩
  · rcases fails_execute h with hunprepared |
      ⟨sources, first, source, rest, now, rfl, ⟨styled, pages, hprepares, hfirst⟩, hsource⟩
    · exact ⟨[], .unprepared hunprepared⟩
    · exact ⟨first, .prepared hprepares (List.append_ne_nil_of_right_ne_nil _
        (List.cons_ne_nil _ _)) (documenting_of_fails hfirst hsource) (.refl _)⟩

theorem exists_performs (generator : Generator) (before : RunState) (action : Action) :
    ∃ events, generator.Performs before action events (generator.perform before action) := by
  obtain ⟨directories, henqueues⟩ :=
    before.context.exists_enqueues generator.registry before.disk
  cases action with
  | push first last => exact ⟨[], .push first last⟩
  | collect =>
      rcases gives_or_fails generator.collect before with ⟨sources, h⟩ | ⟨failure, h⟩
      · exact ⟨_, .collect h henqueues⟩
      · exact absurd h not_fails_collect
  | document source =>
      rcases gives_or_fails (generator.document source) before with ⟨page, h⟩ | ⟨failure, h⟩
      · exact ⟨_, .document (.next h .done)⟩
      · exact ⟨_, .document (.fails h)⟩
  | execute =>
      obtain ⟨documented, hcompletes⟩ := exists_completes generator before
      exact ⟨_, .execute henqueues hcompletes⟩

theorem exists_proceeds (generator : Generator) (before : RunState) (actions : List Action) :
    ∃ events, generator.Proceeds before actions events (generator.session before actions) := by
  induction actions generalizing before with
  | nil => exact ⟨[], .done⟩
  | cons action actions ih =>
      obtain ⟨events, hperforms⟩ := exists_performs generator before action
      obtain ⟨later, hproceeds⟩ := ih (generator.perform before action)
      exact ⟨events ++ later, .next hperforms hproceeds⟩

/-! ## What an action does to the context -/

theorem Documenting.context_eq {sources documented : List Text}
    (h : generator.Documenting before sources documented after) :
    after.context = { before.context with
      written := before.context.written ++
        documented.map generator.settings.layout.pagePath } := by
  induction h with
  | done => simp
  | next hsource _ ih =>
      rw [ih, gives_document_context hsource]
      simp
  | fails hsource =>
      rw [fails_document_context hsource]
      simp

theorem Completes.context_eq {documented : List Text}
    (h : generator.Completes before documented after) :
    let collected := (before.context.collect generator.registry before.disk).1
    after.context = { collected with
      written := collected.written ++ documented.map generator.settings.layout.pagePath } := by
  intro collected
  cases h with
  | idle hcollect hprints =>
      obtain ⟨_, _, rfl⟩ := gives_collect hcollect
      rw [hprints.context_eq]
      simp [collected]
  | unprepared hunprepared =>
      rw [hunprepared.context_eq]
      simp [collected]
  | prepared hprepares _ hdocumenting hprints =>
      rw [hprints.context_eq, hdocumenting.context_eq, hprepares.state_eq.2.1]

variable {action : Action} {actions : List Action} {events later : List Event}

theorem Performs.extends (h : generator.Performs before action events after) :
    before.context.Extends after.context := by
  cases h with
  | push first last => exact ⟨List.prefix_rfl, List.prefix_rfl, List.prefix_rfl⟩
  | collect hcollect henqueues =>
      obtain ⟨_, _, rfl⟩ := gives_collect hcollect
      exact henqueues.extends
  | document hdocumenting =>
      rw [hdocumenting.context_eq]
      exact ⟨List.prefix_rfl, List.prefix_rfl, List.prefix_append ..⟩
  | execute henqueues hcompletes =>
      rw [hcompletes.context_eq]
      exact henqueues.extends.trans ⟨List.prefix_rfl, List.prefix_rfl, List.prefix_append ..⟩

/-- One action adds to the record what happens in it. -/
theorem Performs.records (h : generator.Performs before action later after)
    (hbefore : Records generator.registry generator.settings.layout events before.context) :
    Records generator.registry generator.settings.layout (events ++ later) after.context := by
  cases h with
  | push first last =>
      rw [List.append_nil]
      exact hbefore.push _
  | collect hcollect henqueues =>
      obtain ⟨_, _, rfl⟩ := gives_collect hcollect
      exact hbefore.enqueue henqueues
  | document hdocumenting =>
      rw [hdocumenting.context_eq]
      exact hbefore.document _
  | execute henqueues hcompletes =>
      rw [hcompletes.context_eq, ← List.append_assoc]
      exact (hbefore.enqueue henqueues).document _

/-- A session adds to the record what happens in its actions. -/
theorem Proceeds.records (h : generator.Proceeds before actions later after)
    (hbefore : Records generator.registry generator.settings.layout events before.context) :
    Records generator.registry generator.settings.layout (events ++ later) after.context := by
  induction h generalizing events with
  | done =>
      rw [List.append_nil]
      exact hbefore
  | next hperforms _ ih =>
      rw [← List.append_assoc]
      exact ih (hperforms.records hbefore)

theorem extends_session (generator : Generator) (before : RunState) (actions : List Action) :
    before.context.Extends (generator.session before actions).context := by
  induction actions generalizing before with
  | nil => exact .refl _
  | cons action actions ih =>
      obtain ⟨_, hperforms⟩ := exists_performs generator before action
      exact hperforms.extends.trans (ih _)

theorem pending_perform (hcollects : action = .collect ∨ action = .execute) :
    (generator.perform before action).context.pending = [] := by
  obtain ⟨_, hperforms⟩ := exists_performs generator before action
  rcases hcollects with rfl | rfl
  · cases hperforms with
    | collect hcollect =>
        obtain ⟨_, _, heq⟩ := gives_collect hcollect
        rw [heq]
        exact Context.pending_collect ..
  · cases hperforms with
    | execute _ hcompletes =>
        rw [hcompletes.context_eq]
        exact Context.pending_collect ..

/-- Whatever is done with a fresh context, and in whatever order: its record only grows at
the end, it tells exactly what happened in the session, no directory has its children put
into the queue twice, and collecting leaves the queue empty. -/
theorem session_records (generator : Generator) (disk : Disk) (inputs : List Text)
    (actions : List Action) :
    let start : RunState := { disk, context := { pending := inputs } }
    let now := generator.session start actions
    (∃ events, generator.Proceeds start actions events now) ∧
      (∀ events, generator.Proceeds start actions events now →
        Records generator.registry generator.settings.layout events now.context) ∧
      (∀ further, now.context.Extends (generator.session start (actions ++ further)).context) ∧
      ∀ action ∈ [Action.collect, Action.execute],
        (generator.session start (actions ++ [action])).context.pending = [] := by
  intro start now
  refine ⟨exists_proceeds generator start actions, fun events h => ?_, fun further => ?_,
    fun action hmem => ?_⟩
  · exact h.records (records_fresh generator.registry generator.settings.layout inputs)
  · rw [session, List.foldl_append]
    exact extends_session generator now further
  · rw [session, List.foldl_append]
    refine pending_perform ?_
    simpa using hmem

end Generator
end Marginalia
