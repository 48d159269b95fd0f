import Marginalia.Run.Basic

/-!
# What a step of a run did

A step that gives a result has done each of its parts in order, and each of the
parts has given a result. Taking it apart with `gives_bind` leaves the few things
that a step is made of: notices, the disk, the calls, and the place in the run.
The lemmas say of each operation what it leaves as it was, so that later proofs
never open one.
-/

namespace Marginalia

namespace Step

/-- A step gives a value and leaves a state behind. -/
def Gives (step : Step α) (before : RunState) (value : α) (after : RunState) : Prop :=
  step.run.run before = (.ok value, after)

variable {α β : Type} {before after : RunState}

theorem run_bind (step : Step α) (next : α → Step β) (before : RunState) :
    (step >>= next).run.run before =
      match step.run.run before with
      | (.ok first, middle) => (next first).run.run middle
      | (.error failure, middle) => (.error failure, middle) := by
  rw [ExceptT.run_bind, StateT.run_bind]
  rcases step.run.run before with ⟨outcome, middle⟩
  cases outcome <;> rfl

theorem gives_bind {step : Step α} {next : α → Step β} {value : β} :
    (step >>= next).Gives before value after ↔
      ∃ first middle, step.Gives before first middle ∧ (next first).Gives middle value after := by
  rw [Gives, run_bind]
  constructor
  · intro h
    split at h
    · next first middle heq => exact ⟨first, middle, heq, h⟩
    · cases h
  · rintro ⟨first, middle, hstep, hnext⟩
    rw [hstep]
    exact hnext

theorem gives_pure {given value : α} :
    (pure given : Step α).Gives before value after ↔ given = value ∧ before = after := by
  constructor
  · intro h
    cases h
    exact ⟨rfl, rfl⟩
  · rintro ⟨rfl, rfl⟩
    rfl

theorem gives_get {value : RunState} :
    (get : Step RunState).Gives before value after ↔ before = value ∧ before = after := by
  constructor
  · intro h
    cases h
    exact ⟨rfl, rfl⟩
  · rintro ⟨rfl, rfl⟩
    rfl

theorem gives_set {state : RunState} {value : Unit} :
    (set state : Step Unit).Gives before value after ↔ state = after := by
  constructor
  · intro h
    cases h
    rfl
  · rintro rfl
    rfl

theorem gives_modify {change : RunState → RunState} {value : Unit} :
    (modify change : Step Unit).Gives before value after ↔ change before = after := by
  constructor
  · intro h
    cases h
    rfl
  · rintro rfl
    rfl

theorem not_gives_throw {failure : Failure} {value : α} :
    ¬ (throw failure : Step α).Gives before value after := by
  intro h
  cases h

theorem gives_mapM_cons {act : α → Step β} {x : α}
    {xs : List α} {values : List β} :
    ((x :: xs).mapM act).Gives before values after ↔
      ∃ value middle others, (act x).Gives before value middle ∧
        (xs.mapM act).Gives middle others after ∧ values = value :: others := by
  rw [List.mapM_cons, gives_bind]
  constructor
  · rintro ⟨value, middle, hfirst, h⟩
    obtain ⟨others, last, hrest, h⟩ := gives_bind.1 h
    obtain ⟨rfl, rfl⟩ := gives_pure.1 h
    exact ⟨value, middle, others, hfirst, hrest, rfl⟩
  · rintro ⟨value, middle, others, hfirst, hrest, rfl⟩
    exact ⟨value, middle, hfirst, gives_bind.2 ⟨others, after, hrest, gives_pure.2 ⟨rfl, rfl⟩⟩⟩

/-- All that a step has printed, and nothing else, is new. -/
def OnlyPrints (before after : RunState) : Prop :=
  ∃ notices, after = { before with notices }

theorem OnlyPrints.refl (state : RunState) : OnlyPrints state state := ⟨state.notices, rfl⟩

theorem OnlyPrints.trans {middle : RunState} (hfirst : OnlyPrints before middle)
    (hsecond : OnlyPrints middle after) : OnlyPrints before after := by
  obtain ⟨_, rfl⟩ := hfirst
  obtain ⟨notices, rfl⟩ := hsecond
  exact ⟨notices, rfl⟩

theorem OnlyPrints.context_eq (h : OnlyPrints before after) : after.context = before.context := by
  obtain ⟨_, rfl⟩ := h
  rfl

end Step

namespace Generator

open Step

variable {generator : Generator} {before after : RunState}

/-! ## What a step that gave a result has done -/

theorem gives_report {notice : Notice} {value : Unit}
    (h : (generator.report notice).Gives before value after) : OnlyPrints before after := by
  rw [report] at h
  split at h
  · obtain ⟨_, rfl⟩ := gives_pure.1 h
    exact .refl before
  · rw [← gives_modify.1 h]
    exact ⟨_, rfl⟩

theorem gives_forM_report {notices : List Notice} {value : Unit}
    (h : (notices.forM generator.report).Gives before value after) : OnlyPrints before after := by
  induction notices generalizing before with
  | nil =>
      obtain ⟨_, rfl⟩ := gives_pure.1 h
      exact .refl before
  | cons notice notices ih =>
      obtain ⟨_, middle, hfirst, hrest⟩ := gives_bind.1 h
      exact (gives_report hfirst).trans (ih hrest)

theorem gives_change {toFailure : Disk.Fault → Failure} {act : Disk → Disk.Change} {value : Unit}
    (h : (change toFailure act).Gives before value after) :
    act before.disk = (.ok (), after.disk) ∧ after = { before with disk := after.disk } := by
  obtain ⟨_, _, hget, h⟩ := gives_bind.1 h
  obtain ⟨rfl, rfl⟩ := gives_get.1 hget
  rcases hact : act before.disk with ⟨outcome, disk⟩
  simp only [hact] at h
  obtain ⟨_, middle, hset, h⟩ := gives_bind.1 h
  have hmiddle := gives_set.1 hset
  split at h
  · obtain ⟨_, rfl⟩ := gives_pure.1 h
    rw [← hmiddle]
    exact ⟨rfl, rfl⟩
  · exact absurd h not_gives_throw

/-- A file is written after the directories above it. -/
theorem gives_writeFile {path content page : Text}
    (h : (writeFile path content).Gives before page after) :
    page = path ∧ after = { before with disk := after.disk } ∧ ∃ above,
      before.disk.makeDirs (Path.directoryOf path) = (.ok (), above) ∧
        above.writeText path content = (.ok (), after.disk) := by
  obtain ⟨_, middle, hdirs, h⟩ := gives_bind.1 h
  obtain ⟨_, last, hfile, h⟩ := gives_bind.1 h
  obtain ⟨rfl, rfl⟩ := gives_pure.1 h
  obtain ⟨hmade, hmiddle⟩ := gives_change hdirs
  obtain ⟨hwritten, hlast⟩ := gives_change hfile
  refine ⟨rfl, ?_, middle.disk, hmade, hwritten⟩
  rw [hlast, hmiddle]

theorem gives_absorb {α : Type} {traced : Traced α} {value : α}
    (h : (absorb traced).Gives before value after) :
    traced.result = .ok value ∧
      ∃ notices, after =
        { before with disk := traced.disk, calls := before.calls ++ traced.calls, notices } := by
  obtain ⟨_, middle, hmodify, h⟩ := gives_bind.1 h
  have hmiddle := gives_modify.1 hmodify
  split at h
  · next found hresult =>
      obtain ⟨rfl, rfl⟩ := gives_pure.1 h
      exact ⟨hresult, _, hmiddle.symm⟩
  · exact absurd h not_gives_throw

/-- A source of a known language is read where the disk then stands, and highlighted. -/
theorem gives_buildSections {source : Text} {language : Language} {sections : List Section}
    (hlanguage : generator.registry.forPath source = some language)
    (h : (generator.buildSections source).Gives before sections after) :
    ∃ text, generator.readSource before.disk source = .ok text ∧
      (absorb (generator.highlighter.highlight before.disk language
        (Section.ofSource language text))).Gives before sections after := by
  rw [buildSections, hlanguage] at h
  obtain ⟨_, _, hget, h⟩ := gives_bind.1 h
  obtain ⟨rfl, rfl⟩ := gives_get.1 hget
  split at h
  · exact absurd h not_gives_throw
  · next text hread => exact ⟨text, hread, h⟩

theorem readSource_eq_ok {disk : Disk} {path text : Text}
    (h : generator.readSource disk path = .ok text) :
    ∃ content codec, disk.readFile path = .ok content ∧
      generator.highlighter.codecs generator.settings.encoding = some codec ∧
      codec.read content = .ok text := by
  rw [readSource] at h
  split at h
  · cases h
  · cases h
  · next content hread =>
      split at h
      · cases h
      · next codec hcodec =>
          split at h
          · cases h
          · cases h
          · next found hfound =>
              cases h
              exact ⟨content, codec, hread, hcodec, hfound⟩

/-- Documenting a source reads it, highlights it in one go and writes its page. -/
theorem gives_document {source page : Text} {language : Language}
    (hlanguage : generator.registry.forPath source = some language)
    (h : (generator.document source).Gives before page after) :
    page = generator.settings.layout.pagePath source ∧ ∃ text sections traced above notices,
      generator.readSource before.disk source = .ok text ∧
      generator.highlighter.highlight before.disk language (Section.ofSource language text) =
        traced ∧
      traced.result = .ok sections ∧
      traced.disk.makeDirs (Path.directoryOf page) = (.ok (), above) ∧
      above.writeText page (Page.ofSource generator.settings.layout
        (Disk.pathOf traced.disk.cwd) source sections before.context.sources).render =
          (.ok (), after.disk) ∧
      after =
        { disk := after.disk
          context := { before.context with written := before.context.written ++ [page] }
          calls := before.calls ++ traced.calls
          notices } := by
  obtain ⟨_, parsing, hparsing, h⟩ := gives_bind.1 h
  obtain ⟨_, rfl⟩ := gives_report hparsing
  obtain ⟨sections, built, hbuild, h⟩ := gives_bind.1 h
  obtain ⟨text, hread, habsorb⟩ := gives_buildSections hlanguage hbuild
  obtain ⟨hresult, _, rfl⟩ := gives_absorb habsorb
  obtain ⟨_, _, hget, h⟩ := gives_bind.1 h
  obtain ⟨rfl, rfl⟩ := gives_get.1 hget
  obtain ⟨target, written, hwrite, h⟩ := gives_bind.1 h
  obtain ⟨rfl, hwritten, above, hmade, hfile⟩ := gives_writeFile hwrite
  obtain ⟨_, modified, hmodify, h⟩ := gives_bind.1 h
  have hmodified := gives_modify.1 hmodify
  obtain ⟨_, reported, hreport, h⟩ := gives_bind.1 h
  obtain ⟨notices, hreported⟩ := gives_report hreport
  obtain ⟨rfl, rfl⟩ := gives_pure.1 h
  have hdisk : reported.disk = written.disk := by rw [hreported, ← hmodified]
  refine ⟨rfl, text, sections, _, above, notices, hread, rfl, hresult, hmade, ?_, ?_⟩
  · rw [hdisk]
    exact hfile
  · rw [hreported, ← hmodified, hwritten]

theorem gives_collect {sources : List Text}
    (h : generator.collect.Gives before sources after) :
    sources = (before.context.collect generator.registry before.disk).1.sources ∧
      ∃ notices, after =
        { before with
          context := (before.context.collect generator.registry before.disk).1, notices } := by
  obtain ⟨_, _, hget, h⟩ := gives_bind.1 h
  obtain ⟨rfl, rfl⟩ := gives_get.1 hget
  obtain ⟨_, middle, hset, h⟩ := gives_bind.1 h
  have hmiddle := gives_set.1 hset
  obtain ⟨_, last, hprint, h⟩ := gives_bind.1 h
  obtain ⟨rfl, rfl⟩ := gives_pure.1 h
  obtain ⟨notices, hlast⟩ := gives_forM_report hprint
  exact ⟨rfl, notices, by rw [hlast, ← hmiddle]⟩

/-- A run has collected its sources, made the output directory and written the stylesheet. -/
def Prepares (generator : Generator) (before : RunState) (sources : List Text)
    (styled : RunState) : Prop :=
  ∃ collected ready, generator.collect.Gives before sources collected ∧
    (change .disk (·.makeDirs generator.settings.outputDir)).Gives collected () ready ∧
    (writeFile generator.settings.layout.stylesheetPath
      (Stylesheet.text generator.colourRules)).Gives ready
      generator.settings.layout.stylesheetPath styled

/-- A run over `sources` has come to `now` when it has documented `first`. -/
def ComesTo (generator : Generator) (before : RunState) (sources first : List Text)
    (now : RunState) : Prop :=
  ∃ styled pages, generator.Prepares before sources styled ∧
    (first.mapM generator.document).Gives styled pages now

/-- A whole run collects its sources. If there are none it only says so, and else
it documents every source after its preparations. -/
theorem gives_execute {result : RunResult}
    (h : generator.execute.Gives before result after) :
    result.sources = [] ∧ result.pages = [] ∧
        (∃ collected, generator.collect.Gives before result.sources collected ∧
          OnlyPrints collected after) ∨
      result.sources ≠ [] ∧ ∃ styled documented, generator.Prepares before result.sources styled ∧
        (result.sources.mapM generator.document).Gives styled result.pages documented ∧
        OnlyPrints documented after := by
  obtain ⟨sources, collected, hcollect, h⟩ := gives_bind.1 h
  split at h
  · next hnil =>
      obtain ⟨_, reported, hreport, h⟩ := gives_bind.1 h
      obtain ⟨_, _, hget, h⟩ := gives_bind.1 h
      obtain ⟨rfl, rfl⟩ := gives_get.1 hget
      obtain ⟨rfl, rfl⟩ := gives_pure.1 h
      exact Or.inl ⟨rfl, rfl, collected, hnil ▸ hcollect, gives_report hreport⟩
  · next hne =>
      obtain ⟨_, ready, hready, h⟩ := gives_bind.1 h
      obtain ⟨stylesheet, styled, hstyled, h⟩ := gives_bind.1 h
      obtain ⟨rfl, _⟩ := gives_writeFile hstyled
      obtain ⟨pages, documented, hdocumented, h⟩ := gives_bind.1 h
      obtain ⟨_, reported, hreport, h⟩ := gives_bind.1 h
      obtain ⟨_, _, hget, h⟩ := gives_bind.1 h
      obtain ⟨rfl, rfl⟩ := gives_get.1 hget
      obtain ⟨rfl, rfl⟩ := gives_pure.1 h
      exact Or.inr ⟨hne, styled, documented, ⟨collected, ready, hcollect, hready, hstyled⟩,
        hdocumented, gives_report hreport⟩

/-! ## When a step gives a result -/

theorem exists_gives_report (generator : Generator) (notice : Notice) (before : RunState) :
    ∃ after, (generator.report notice).Gives before () after ∧ OnlyPrints before after := by
  rw [report]
  split
  · exact ⟨before, gives_pure.2 ⟨rfl, rfl⟩, .refl before⟩
  · exact ⟨_, gives_modify.2 rfl, _, rfl⟩

theorem exists_gives_forM_report (generator : Generator) (notices : List Notice)
    (before : RunState) :
    ∃ after, (notices.forM generator.report).Gives before () after ∧ OnlyPrints before after := by
  induction notices generalizing before with
  | nil => exact ⟨before, gives_pure.2 ⟨rfl, rfl⟩, .refl before⟩
  | cons notice notices ih =>
      obtain ⟨middle, hfirst, hprints⟩ := exists_gives_report generator notice before
      obtain ⟨after, hrest, hafter⟩ := ih middle
      exact ⟨after, gives_bind.2 ⟨(), middle, hfirst, hrest⟩, hprints.trans hafter⟩

theorem change_gives {act : Disk → Disk.Change} {disk : Disk}
    (h : act before.disk = (.ok (), disk)) (toFailure : Disk.Fault → Failure) :
    (change toFailure act).Gives before () { before with disk } := by
  refine gives_bind.2 ⟨_, _, gives_get.2 ⟨rfl, rfl⟩, ?_⟩
  rw [h]
  exact gives_bind.2 ⟨(), _, gives_set.2 rfl, gives_pure.2 ⟨rfl, rfl⟩⟩

theorem writeFile_gives {path content : Text} {above disk : Disk}
    (hmade : before.disk.makeDirs (Path.directoryOf path) = (.ok (), above))
    (hfile : above.writeText path content = (.ok (), disk)) :
    (writeFile path content).Gives before path { before with disk } :=
  have hwrite : (change (writeFailure path) (·.writeText path content)).Gives
      { before with disk := above } () { before with disk } := change_gives hfile _
  gives_bind.2 ⟨(), _, change_gives hmade _,
    gives_bind.2 ⟨(), _, hwrite, gives_pure.2 ⟨rfl, rfl⟩⟩⟩

theorem absorb_gives {α : Type} {traced : Traced α} {value : α}
    (h : traced.result = .ok value) (before : RunState) :
    (absorb traced).Gives before value
      { before with
        disk := traced.disk
        calls := before.calls ++ traced.calls
        notices := before.notices ++ traced.notices } := by
  refine gives_bind.2 ⟨(), _, gives_modify.2 rfl, ?_⟩
  rw [h]
  exact gives_pure.2 ⟨rfl, rfl⟩

theorem readSource_of_readFile {disk : Disk} {path text : Text} {content : Bytes}
    {codec : Codec} (hread : disk.readFile path = .ok content)
    (hcodec : generator.highlighter.codecs generator.settings.encoding = some codec)
    (htext : codec.read content = .ok text) : generator.readSource disk path = .ok text := by
  rw [readSource, hread]
  simp only [hcodec, htext]

theorem buildSections_gives {source text : Text} {language : Language} {sections : List Section}
    (hlanguage : generator.registry.forPath source = some language)
    (hread : generator.readSource before.disk source = .ok text)
    (h : (absorb (generator.highlighter.highlight before.disk language
      (Section.ofSource language text))).Gives before sections after) :
    (generator.buildSections source).Gives before sections after := by
  rw [buildSections, hlanguage]
  refine gives_bind.2 ⟨_, _, gives_get.2 ⟨rfl, rfl⟩, ?_⟩
  rw [hread]
  exact h

/-- A source that can be read and highlighted and whose page can be written is documented. -/
theorem exists_gives_document {source text : Text} {language : Language}
    {sections : List Section} {above disk : Disk}
    (hlanguage : generator.registry.forPath source = some language)
    (hread : generator.readSource before.disk source = .ok text)
    (hresult : (generator.highlighter.highlight before.disk language
      (Section.ofSource language text)).result = .ok sections) :
    let traced := generator.highlighter.highlight before.disk language
      (Section.ofSource language text)
    let page := generator.settings.layout.pagePath source
    traced.disk.makeDirs (Path.directoryOf page) = (.ok (), above) →
    above.writeText page (Page.ofSource generator.settings.layout
      (Disk.pathOf traced.disk.cwd) source sections before.context.sources).render =
        (.ok (), disk) →
    ∃ after, (generator.document source).Gives before page after ∧ after.disk = disk ∧
      after.context = { before.context with written := before.context.written ++ [page] } := by
  intro traced page hmade hfile
  obtain ⟨_, hparsing, notices, rfl⟩ := exists_gives_report generator (.parsing source) before
  have hbuild : (generator.buildSections source).Gives { before with notices } sections _ :=
    buildSections_gives hlanguage hread (absorb_gives hresult _)
  obtain ⟨_, hreport, last, rfl⟩ := exists_gives_report generator
    (.documented source page sections.length)
    { before with
      disk
      context := { before.context with written := before.context.written ++ [page] }
      calls := before.calls ++ traced.calls
      notices := notices ++ traced.notices }
  refine ⟨_, gives_bind.2 ⟨(), _, hparsing, gives_bind.2 ⟨sections, _, hbuild,
    gives_bind.2 ⟨_, _, gives_get.2 ⟨rfl, rfl⟩, gives_bind.2 ⟨page, _, writeFile_gives hmade hfile,
      gives_bind.2 ⟨(), _, gives_modify.2 rfl, gives_bind.2 ⟨(), _, hreport,
        gives_pure.2 ⟨rfl, rfl⟩⟩⟩⟩⟩⟩⟩, rfl, rfl⟩

theorem exists_gives_collect (generator : Generator) (before : RunState) :
    let context := (before.context.collect generator.registry before.disk).1
    ∃ after, generator.collect.Gives before context.sources after ∧
      OnlyPrints { before with context } after := by
  intro context
  obtain ⟨after, hprint, hafter⟩ := exists_gives_forM_report generator
    (before.context.collect generator.registry before.disk).2 { before with context }
  exact ⟨after, gives_bind.2 ⟨_, _, gives_get.2 ⟨rfl, rfl⟩, gives_bind.2 ⟨(), _, gives_set.2 rfl,
    gives_bind.2 ⟨(), _, hprint, gives_pure.2 ⟨rfl, rfl⟩⟩⟩⟩, hafter⟩

/-- A run that finds sources and does all that comes after gives a result. -/
theorem exists_gives_execute {sources pages : List Text} {stylesheet : Text}
    {collected ready styled documented : RunState}
    (hcollect : generator.collect.Gives before sources collected) (hne : sources ≠ [])
    (hready : (change .disk (·.makeDirs generator.settings.outputDir)).Gives collected () ready)
    (hstyled : (writeFile generator.settings.layout.stylesheetPath
      (Stylesheet.text generator.colourRules)).Gives ready stylesheet styled)
    (hpages : (sources.mapM generator.document).Gives styled pages documented) :
    ∃ after, generator.execute.Gives before
        { sources, pages, skipped := documented.context.skipped } after ∧
      OnlyPrints documented after := by
  obtain ⟨_, hreport, notices, rfl⟩ := exists_gives_report generator
    (.finished pages.length generator.settings.outputDir) documented
  refine ⟨_, gives_bind.2 ⟨sources, collected, hcollect, ?_⟩, notices, rfl⟩
  rw [if_neg hne]
  exact gives_bind.2 ⟨(), ready, hready, gives_bind.2 ⟨stylesheet, styled, hstyled,
    gives_bind.2 ⟨pages, documented, hpages, gives_bind.2 ⟨(), _, hreport,
      gives_bind.2 ⟨_, _, gives_get.2 ⟨rfl, rfl⟩, gives_pure.2 ⟨rfl, rfl⟩⟩⟩⟩⟩⟩

end Generator
end Marginalia
