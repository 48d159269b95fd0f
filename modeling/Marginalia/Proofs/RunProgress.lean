import Marginalia.Proofs.HighlighterRun
import Marginalia.Proofs.PagePlaces
import Marginalia.Proofs.PageRows
import Marginalia.Proofs.RunSteps
import Marginalia.Proofs.SectionBlocks
import Marginalia.Proofs.SectionUpdate
import Mathlib.Data.List.Forall2

/-!
# The sources of a run, one after the other

A run reads, calls the highlighter and writes, one source after the other, so
each source is read from a disk that the pages before it were written to. What
makes the order irrelevant is that no output is ever at the place of a source:
the file that a run reads is the one that was there when it started.

`Progress` is the invariant of the loop. The disk is the one before it, updated
by the pages so far; each of these pages is made of what its source held at
first; and the run has called the highlighter once for each. It holds at every
point of the loop, whether the run gets to its end or not. Of the program behind
the highlighter it only asks that it leaves the disk alone.
-/

namespace Marginalia

open Marginalia.Disk (Updated)
open Marginalia.Step (gives_mapM_cons gives_pure)

/-- What a source came to: its language, what its file held and how that reads,
its sections as they were highlighted, and the call that this took. -/
structure Documented where
  language : Language
  content : Bytes
  text : Text
  sections : List Section
  call : Call

namespace Context

theorem collect_nil (registry : Registry) (disk : Disk) {context : Context}
    (h : context.pending = []) : context.collect registry disk = (context, []) := by
  rw [collect]
  split
  · rfl
  · next path pending hpending => rw [h] at hpending; cases hpending

theorem collect_source {registry : Registry} {disk : Disk} {context : Context} {path : Text}
    {pending : List Text} {language : Language} (hpending : context.pending = path :: pending)
    (hfile : disk.directoryAt? path = none) (hlanguage : registry.forPath path = some language) :
    context.collect registry disk =
      collect registry disk
        { context with pending, sources := context.sources ++ [path] } := by
  rw [collect]
  split
  · next hnil => rw [hpending] at hnil; cases hnil
  · next first rest hcons =>
      rw [hpending] at hcons
      cases hcons
      split
      · next place hplace => rw [hfile] at hplace; cases hplace
      · rw [hlanguage]

/-- Inputs that are files of known languages are the sources. -/
theorem collect_of_files {registry : Registry} {disk : Disk} {context : Context}
    (hfile : ∀ path ∈ context.pending, disk.directoryAt? path = none)
    (hlanguage : ∀ path ∈ context.pending, (registry.forPath path).isSome) :
    context.collect registry disk =
      ({ context with pending := [], sources := context.sources ++ context.pending }, []) := by
  obtain ⟨pending, expanded, sources, skipped, written⟩ := context
  induction pending generalizing sources with
  | nil => rw [collect_nil registry disk rfl, List.append_nil]
  | cons path pending ih =>
      obtain ⟨language, hpath⟩ :=
        Option.isSome_iff_exists.1 (hlanguage path (List.mem_cons_self ..))
      rw [collect_source rfl (hfile path (List.mem_cons_self ..)) hpath,
        ih _ (fun other hmem => hfile other (List.mem_cons_of_mem _ hmem))
          (fun other hmem => hlanguage other (List.mem_cons_of_mem _ hmem)), List.append_assoc]
      rfl

/-- A source that is found has a known language, and what holds of the inputs and goes
down to the children of directories holds of it. -/
theorem of_mem_sources {registry : Registry} {disk : Disk} {P : Text → Prop}
    (hchildren : ∀ path place name, disk.directoryAt? path = some place →
      name ∈ disk.children place → P path → P (Path.join path name))
    {context : Context} (hpending : ∀ path ∈ context.pending, P path) :
    ∀ source ∈ (context.collect registry disk).1.sources,
      source ∈ context.sources ∨ P source ∧ (registry.forPath source).isSome := by
  fun_induction collect registry disk context with
  | case1 context hnil => exact fun source hmem => Or.inl hmem
  | case2 context path pending hcons place hplace hold final notices hrest ih =>
      rw [hrest] at ih
      exact ih fun other hmem => hpending other (hcons ▸ List.mem_cons_of_mem _ hmem)
  | case3 context path pending hcons place hplace hnew ih =>
      refine ih fun other hmem => ?_
      rcases List.mem_append.1 hmem with hmem | hmem
      · exact hpending other (hcons ▸ List.mem_cons_of_mem _ hmem)
      · obtain ⟨name, hname, rfl⟩ := List.mem_map.1 hmem
        exact hchildren path place name hplace hname (hpending path (hcons ▸ List.mem_cons_self ..))
  | case4 context path pending hcons hplace hnone final notices hrest ih =>
      rw [hrest] at ih
      exact ih fun other hmem => hpending other (hcons ▸ List.mem_cons_of_mem _ hmem)
  | case5 context path pending hcons hplace language hlanguage ih =>
      intro source hmem
      rcases ih (fun other hother => hpending other (hcons ▸ List.mem_cons_of_mem _ hother))
        source hmem with hfound | hlater
      · rcases List.mem_append.1 hfound with hold | hself
        · exact Or.inl hold
        · rw [List.mem_singleton.1 hself]
          exact Or.inr ⟨hpending path (hcons ▸ List.mem_cons_self ..), by rw [hlanguage]; rfl⟩
      · exact Or.inr hlater

theorem forPath_of_mem_sources {registry : Registry} {disk : Disk} {context : Context}
    (h : ∀ source ∈ context.sources, (registry.forPath source).isSome) :
    ∀ source ∈ (context.collect registry disk).1.sources, (registry.forPath source).isSome := by
  intro source hmem
  rcases of_mem_sources (P := fun _ => True) (fun _ _ _ _ _ _ => trivial) (fun _ _ => trivial)
    source hmem with hold | hfound
  · exact h source hold
  · exact hfound.2

end Context

namespace Generator

variable {generator : Generator}

/-- What a source comes to if its file is the one on the given disk. -/
structure Documents (generator : Generator) (disk : Disk) (source : Text) (d : Documented) :
    Prop where
  language_eq : generator.registry.forPath source = some d.language
  content_eq : disk.get? (disk.placeOf source) = some (.file d.content)
  text_eq : ∃ codec, generator.highlighter.codecs generator.settings.encoding = some codec ∧
    codec.read d.content = .ok d.text
  sections_eq : (generator.highlighter.highlight disk d.language
    (Section.ofSource d.language d.text)).result = .ok d.sections
  sections_filled : ∃ body, generator.highlighter.GivesBody disk d.language
      (List.intercalate d.language.dividerText
        ((Section.ofSource d.language d.text).map (·.code))) body ∧
    generator.highlighter.FillsFrom d.language body (Section.ofSource d.language d.text) d.sections
  command_eq : d.call.command = generator.highlighter.commandFor d.language
  stdin_eq : ∃ codec, generator.highlighter.codecs generator.highlighter.encoding = some codec ∧
    codec.encode (List.intercalate d.language.dividerText
      ((Section.ofSource d.language d.text).map (·.code))) = .ok d.call.stdin

/-- The page of a source among all sources of a run. -/
def pageHtml (generator : Generator) (disk : Disk) (sources : List Text) (source : Text)
    (d : Documented) : Text :=
  (Page.ofSource generator.settings.layout (Disk.pathOf disk.cwd) source d.sections sources).render

/-- The page of a source, as it is written. -/
def pageBytes (generator : Generator) (disk : Disk) (sources : List Text) (source : Text)
    (d : Documented) : Bytes :=
  Utf8.encode (generator.pageHtml disk sources source d)

/-- The file of a page. -/
def pageFile (generator : Generator) (disk : Disk) (sources : List Text)
    (entry : Text × Documented) : Location × Bytes :=
  (disk.placeOf (generator.settings.layout.pagePath entry.1),
    generator.pageBytes disk sources entry.1 entry.2)

@[simp] theorem pageFile_fst (generator : Generator) (disk : Disk) (sources : List Text)
    (entry : Text × Documented) :
    (generator.pageFile disk sources entry).1 =
      disk.placeOf (generator.settings.layout.pagePath entry.1) := by
  rw [pageFile]

/-! ## One source -/

theorem Documents.sections_of_replies {reply : List Text → Bytes → Except RunnerFault Reply}
    (hreply : generator.highlighter.runner = .ofReplies reply) {disk other : Disk}
    {source : Text} {d : Documented} (h : generator.Documents other source d) :
    (generator.highlighter.highlight disk d.language
      (Section.ofSource d.language d.text)).result = .ok d.sections := by
  rw [Highlighter.highlight_of_replies hreply disk other]
  exact h.sections_eq

/-- With a program that does not see the disk, a source comes to the same on every
disk that has its file. -/
theorem Documents.of_replies {reply : List Text → Bytes → Except RunnerFault Reply}
    (hreply : generator.highlighter.runner = .ofReplies reply) {disk other : Disk}
    {source : Text} {d : Documented} (h : generator.Documents other source d)
    (hcontent : disk.get? (disk.placeOf source) = some (.file d.content)) :
    generator.Documents disk source d where
  language_eq := h.language_eq
  content_eq := hcontent
  text_eq := h.text_eq
  sections_eq := sections_of_replies hreply h
  sections_filled := Highlighter.fillsFrom_of_highlight_eq_ok (sections_of_replies hreply h)
  command_eq := h.command_eq
  stdin_eq := h.stdin_eq

/-- The page of a source shows all its sections, filled in. -/
theorem Documents.shows {disk : Disk} {source : Text} {d : Documented}
    (h : generator.Documents disk source d) (other : Disk) (sources : List Text) :
    Page.Shows generator.settings.layout (Disk.pathOf other.cwd) source d.sections sources
      (generator.pageHtml other sources source d) := by
  obtain ⟨_, _, hfills⟩ := h.sections_filled
  have hpos := List.length_pos_iff.2 (Section.ofSource_ne_nil d.language d.text)
  exact Page.shows_render _ _ _ _ (List.length_pos_iff.1 (hfills.length_eq ▸ hpos)) hfills.isSome

/-- No page is at the place of a source. -/
theorem Documents.pageFile_ne {disk other : Disk} {source : Text} {d : Documented}
    (h : generator.Documents disk source d) (sources : List Text) (entry : Text × Documented) :
    (generator.pageFile other sources entry).1 ≠ other.placeOf source := by
  have hlanguage : (Registry.standard generator.settings.classes).forPath source =
      some d.language := h.language_eq
  rw [pageFile_fst]
  exact Registry.placeOf_ne_pagePath hlanguage other generator.settings.layout entry.1

/-- The stylesheet is at the place of no source. -/
theorem Documents.stylesheet_ne {disk : Disk} {source : Text} {d : Documented}
    (h : generator.Documents disk source d) (other : Disk) :
    other.placeOf generator.settings.layout.stylesheetPath ≠ other.placeOf source := by
  have hlanguage : (Registry.standard generator.settings.classes).forPath source =
      some d.language := h.language_eq
  exact Registry.placeOf_ne_stylesheetPath hlanguage other generator.settings.layout

/-- A source that can be read and highlighted comes to something, with one call. -/
theorem exists_documents {disk : Disk} (hfree : disk.LinkFree) {source text : Text}
    {language : Language} {sections : List Section}
    (hlanguage : generator.registry.forPath source = some language)
    (hread : generator.readSource disk source = .ok text)
    (hresult : (generator.highlighter.highlight disk language
      (Section.ofSource language text)).result = .ok sections) :
    ∃ d, generator.Documents disk source d ∧ d.sections = sections ∧
      (generator.highlighter.highlight disk language (Section.ofSource language text)).calls =
        [d.call] := by
  obtain ⟨content, codec, hcontent, hcodec, htext⟩ := readSource_eq_ok hread
  obtain ⟨callCodec, stdin, hcallCodec, hstdin, hcalls⟩ :=
    Highlighter.calls_of_highlight_eq_ok hresult
  exact ⟨⟨language, content, text, sections, ⟨generator.highlighter.commandFor language, stdin⟩⟩,
    { language_eq := hlanguage
      content_eq := ((Disk.readFile_iff hfree).1 hcontent).2
      text_eq := ⟨codec, hcodec, htext⟩
      sections_eq := hresult
      sections_filled := Highlighter.fillsFrom_of_highlight_eq_ok hresult
      command_eq := rfl
      stdin_eq := ⟨callCodec, hcallCodec, hstdin⟩ }, rfl, hcalls⟩

theorem documents_document (hkeeps : generator.highlighter.runner.KeepsDisk)
    {before after : RunState} {source page : Text} (hfree : before.disk.LinkFree)
    (hsome : (generator.registry.forPath source).isSome)
    (h : (generator.document source).Gives before page after) :
    page = generator.settings.layout.pagePath source ∧ ∃ d notices,
      generator.Documents before.disk source d ∧
      before.disk.encodeText (generator.pageHtml before.disk before.context.sources source d) =
        .ok (generator.pageBytes before.disk before.context.sources source d) ∧
      after.disk.Reaches page ∧
      Updated before.disk after.disk (before.disk.placesAbove page)
        [generator.pageFile before.disk before.context.sources (source, d)] ∧
      after =
        { disk := after.disk
          context := { before.context with written := before.context.written ++ [page] }
          calls := before.calls ++ [d.call]
          notices } := by
  obtain ⟨language, hlanguage⟩ := Option.isSome_iff_exists.1 hsome
  obtain ⟨rfl, text, sections, traced, above, notices, hread, htraced, hresult, hmade, hfile,
    hafter⟩ := gives_document hlanguage h
  have hdisk : traced.disk = before.disk := by
    rw [← htraced, Highlighter.disk_of_highlight hkeeps]
  rw [← htraced] at hresult
  obtain ⟨d, hd, rfl, hcalls⟩ := exists_documents hfree hlanguage hread hresult
  rw [hdisk] at hmade hfile
  obtain ⟨hreaches, hupdated⟩ := Disk.updated_write hfree hmade hfile
  have hencodes := Disk.encodeText_of_write hfree hmade hfile
  refine ⟨rfl, d, notices, hd, hencodes, hreaches, hupdated, ?_⟩
  rw [hafter, ← htraced, hcalls]

theorem pageHtml_eq_of_updated {before after : Disk} {dirs : List Location}
    {files : List (Location × Bytes)} (h : Updated before after dirs files) :
    generator.pageHtml after = generator.pageHtml before := by
  funext sources source d
  rw [pageHtml, pageHtml, h.cwd_eq]

theorem pageBytes_eq_of_updated {before after : Disk} {dirs : List Location}
    {files : List (Location × Bytes)} (h : Updated before after dirs files) :
    generator.pageBytes after = generator.pageBytes before := by
  funext sources source d
  rw [pageBytes, pageBytes, pageHtml_eq_of_updated h]

theorem pageFile_eq_of_updated {before after : Disk} {dirs : List Location}
    {files : List (Location × Bytes)} (h : Updated before after dirs files) :
    generator.pageFile after = generator.pageFile before := by
  funext sources entry
  rw [pageFile, pageFile, pageBytes_eq_of_updated h, h.placeOf_eq]

/-! ## One source after the other -/

/-- What a run has done from one state to another: it has documented these sources
in their order, each on the disk that the ones before it left. -/
structure Progress (generator : Generator) (before : RunState)
    (documented : List (Text × Documented)) (after : RunState) : Prop where
  documents : ∀ front entry back, documented = front ++ entry :: back →
    ∃ pages now, ((front.map Prod.fst).mapM generator.document).Gives before pages now ∧
      generator.Documents now.disk entry.1 entry.2
  content_eq : ∀ entry ∈ documented,
    before.disk.get? (before.disk.placeOf entry.1) = some (.file entry.2.content)
  encodes : ∀ entry ∈ documented,
    before.disk.encodeText
        (generator.pageHtml before.disk before.context.sources entry.1 entry.2) =
      .ok (generator.pageBytes before.disk before.context.sources entry.1 entry.2)
  reaches : ∀ entry ∈ documented,
    after.disk.Reaches (generator.settings.layout.pagePath entry.1)
  updated : Updated before.disk after.disk
    ((documented.map fun entry => generator.settings.layout.pagePath entry.1).flatMap
      before.disk.placesAbove)
    (documented.map (generator.pageFile before.disk before.context.sources))
  calls_eq : after.calls = before.calls ++ documented.map (·.2.call)
  sources_eq : after.context.sources = before.context.sources

theorem pagePaths_of_names {documented : List (Text × Documented)} {sources : List Text}
    (h : documented.map Prod.fst = sources) (layout : Layout) :
    documented.map (fun entry => layout.pagePath entry.1) = sources.map layout.pagePath := by
  rw [← h, List.map_map]
  rfl

theorem Progress.refl (state : RunState) : generator.Progress state [] state where
  documents front entry back h := by cases front <;> cases h
  content_eq _ h := by cases h
  encodes _ h := by cases h
  reaches _ h := by cases h
  updated := .refl state.disk _
  calls_eq := (List.append_nil _).symm
  sources_eq := rfl

/-- One source more at the front. Its page is at the place of no later source, so
each of these has the file that it had at first. -/
theorem Progress.cons {before middle after : RunState} {source page : Text} {d : Documented}
    {documented : List (Text × Documented)} {notices : List Notice}
    (hgives : (generator.document source).Gives before page middle)
    (hpage : page = generator.settings.layout.pagePath source)
    (hd : generator.Documents before.disk source d)
    (hencodes : before.disk.encodeText
        (generator.pageHtml before.disk before.context.sources source d) =
      .ok (generator.pageBytes before.disk before.context.sources source d))
    (hreaches : middle.disk.Reaches page)
    (hupdated : Updated before.disk middle.disk (before.disk.placesAbove page)
      [generator.pageFile before.disk before.context.sources (source, d)])
    (hmiddle : middle =
      { disk := middle.disk
        context := { before.context with written := before.context.written ++ [page] }
        calls := before.calls ++ [d.call]
        notices })
    (h : generator.Progress middle documented after) :
    generator.Progress before ((source, d) :: documented) after := by
  have hsources : middle.context.sources = before.context.sources := by rw [hmiddle]
  have hcalls : middle.calls = before.calls ++ [d.call] := by rw [hmiddle]
  have hrest := h.updated
  have hplaces : middle.disk.placesAbove = before.disk.placesAbove :=
    funext hupdated.placesAbove_eq
  rw [hsources, pageFile_eq_of_updated hupdated, hplaces] at hrest
  subst hpage
  refine ⟨fun front entry back hsplit => ?_, fun entry hmem => ?_, fun entry hmem => ?_,
    fun entry hmem => ?_, ?_, ?_, h.sources_eq.trans hsources⟩
  · cases front with
    | nil =>
        cases hsplit
        exact ⟨[], before, gives_pure.2 ⟨rfl, rfl⟩, hd⟩
    | cons first front =>
        cases hsplit
        obtain ⟨pages, now, hfront, hentry⟩ := h.documents front entry back rfl
        exact ⟨_, now, gives_mapM_cons.2 ⟨_, middle, pages, hgives, hfront, rfl⟩, hentry⟩
  · rcases List.mem_cons.1 hmem with rfl | hmem
    · exact hd.content_eq
    · obtain ⟨front, back, hsplit⟩ := List.append_of_mem hmem
      obtain ⟨_, _, _, hentry⟩ := h.documents front entry back hsplit
      have hcontent := h.content_eq entry hmem
      rw [hupdated.placeOf_eq] at hcontent
      refine hupdated.get?_of_file hcontent fun file hfile => ?_
      rw [List.mem_singleton.1 hfile]
      exact hentry.pageFile_ne _ _
  · rcases List.mem_cons.1 hmem with rfl | hmem
    · exact hencodes
    · rw [← hupdated.encodeText_eq, ← pageHtml_eq_of_updated hupdated,
        ← pageBytes_eq_of_updated hupdated, ← hsources]
      exact h.encodes entry hmem
  · rcases List.mem_cons.1 hmem with rfl | hmem
    · exact hreaches.mono hrest.cwd_eq hrest.kept
    · exact h.reaches entry hmem
  · exact (hupdated.mono (List.subset_append_left _ _)).trans
      (hrest.mono (List.subset_append_right _ _))
  · rw [h.calls_eq, hcalls, List.append_assoc]
    rfl

/-- The loop over the sources, as an induction on them. -/
theorem progress_mapM_document (hkeeps : generator.highlighter.runner.KeepsDisk)
    {sources : List Text} {before after : RunState} {pages : List Text}
    (hfree : before.disk.LinkFree)
    (hsome : ∀ source ∈ sources, (generator.registry.forPath source).isSome)
    (h : (sources.mapM generator.document).Gives before pages after) :
    pages = sources.map generator.settings.layout.pagePath ∧
      ∃ documented : List (Text × Documented), documented.map Prod.fst = sources ∧
        generator.Progress before documented after := by
  induction sources generalizing before pages with
  | nil =>
      obtain ⟨rfl, rfl⟩ := gives_pure.1 h
      exact ⟨rfl, [], rfl, .refl before⟩
  | cons source sources ih =>
      obtain ⟨page, middle, others, hfirst, hrest, rfl⟩ := gives_mapM_cons.1 h
      obtain ⟨hpage, d, _, hd, hencodes, hreaches, hupdated, hmiddle⟩ :=
        documents_document hkeeps hfree (hsome source (List.mem_cons_self ..)) hfirst
      obtain ⟨rfl, documented, hnames, hprogress⟩ := ih (hupdated.linkFree hfree)
        (fun other hmem => hsome other (List.mem_cons_of_mem _ hmem)) hrest
      exact ⟨by rw [hpage, List.map_cons], (source, d) :: documented,
        by rw [List.map_cons, hnames],
        .cons hfirst hpage hd hencodes hreaches hupdated hmiddle hprogress⟩

/-! ## The preparations -/

/-- Before the pages, a run makes the output directory and writes the stylesheet into it. -/
theorem Prepares.updated {before styled : RunState} {sources : List Text}
    (h : generator.Prepares before sources styled) (hfree : before.disk.LinkFree) :
    styled.disk.Reaches generator.settings.layout.stylesheetPath ∧
      Updated before.disk styled.disk
        (before.disk.placesAbove generator.settings.layout.stylesheetPath)
        [(before.disk.placeOf generator.settings.layout.stylesheetPath,
          Utf8.encode (Stylesheet.text generator.colourRules))] := by
  obtain ⟨collected, ready, hcollect, hready, hstyled⟩ := h
  obtain ⟨_, _, rfl⟩ := gives_collect hcollect
  obtain ⟨hmade, _⟩ := gives_change hready
  obtain ⟨_, _, above, hmadeAbove, hwritten⟩ := gives_writeFile hstyled
  have hdirs := Disk.updated_makeDirs hfree generator.settings.outputDir
  have houtput : before.disk.placesAlong generator.settings.outputDir =
      before.disk.placesAbove generator.settings.layout.stylesheetPath :=
    (Layout.placesAbove_stylesheetPath before.disk generator.settings.layout).symm
  rw [hmade, houtput] at hdirs
  obtain ⟨hreaches, hsheet⟩ := Disk.updated_write (hdirs.linkFree hfree) hmadeAbove hwritten
  rw [hdirs.placesAbove_eq, hdirs.placeOf_eq] at hsheet
  exact ⟨hreaches, hdirs.trans hsheet⟩

/-- The stylesheet that was written has bytes. -/
theorem Prepares.encodes {before styled : RunState} {sources : List Text}
    (h : generator.Prepares before sources styled) (hfree : before.disk.LinkFree) :
    before.disk.encodeText (Stylesheet.text generator.colourRules) =
      .ok (Utf8.encode (Stylesheet.text generator.colourRules)) := by
  obtain ⟨collected, ready, hcollect, hready, hstyled⟩ := h
  obtain ⟨_, _, rfl⟩ := gives_collect hcollect
  obtain ⟨hmade, _⟩ := gives_change hready
  obtain ⟨_, _, above, hmadeAbove, hwritten⟩ := gives_writeFile hstyled
  have hdirs := Disk.updated_makeDirs hfree generator.settings.outputDir
  rw [hmade] at hdirs
  rw [← hdirs.encodeText_eq]
  exact Disk.encodeText_of_write (hdirs.linkFree hfree) hmadeAbove hwritten

theorem Prepares.state_eq {before styled : RunState} {sources : List Text}
    (h : generator.Prepares before sources styled) :
    sources = (before.context.collect generator.registry before.disk).1.sources ∧
      styled.context = (before.context.collect generator.registry before.disk).1 ∧
      styled.calls = before.calls := by
  obtain ⟨collected, ready, hcollect, hready, hstyled⟩ := h
  obtain ⟨hsources, _, rfl⟩ := gives_collect hcollect
  obtain ⟨_, hreadyEq⟩ := gives_change hready
  obtain ⟨_, hstyledEq, _⟩ := gives_writeFile hstyled
  rw [hstyledEq, hreadyEq]
  exact ⟨hsources, rfl, rfl⟩

theorem Prepares.forPath_isSome {before styled : RunState} {sources : List Text}
    (h : generator.Prepares before sources styled)
    (hsome : ∀ source ∈ before.context.sources, (generator.registry.forPath source).isSome) :
    ∀ source ∈ sources, (generator.registry.forPath source).isSome := by
  rw [h.state_eq.1]
  exact Context.forPath_of_mem_sources hsome

/-- What a source held when the run started is what it holds after the preparations. -/
theorem Prepares.content_eq {before styled now : RunState} {sources : List Text} {source : Text}
    {d : Documented} (h : generator.Prepares before sources styled)
    (hfree : before.disk.LinkFree) (hd : generator.Documents now.disk source d)
    (hcontent : styled.disk.get? (styled.disk.placeOf source) = some (.file d.content)) :
    before.disk.get? (before.disk.placeOf source) = some (.file d.content) := by
  obtain ⟨_, hupdated⟩ := h.updated hfree
  rw [hupdated.placeOf_eq] at hcontent
  refine hupdated.get?_of_file hcontent fun file hfile => ?_
  rw [List.mem_singleton.1 hfile]
  exact hd.stylesheet_ne before.disk

/-! ## The whole run -/

/-- A run that gives a result documents its sources after its preparations. -/
theorem progress_execute (hkeeps : generator.highlighter.runner.KeepsDisk)
    {before after : RunState} {result : RunResult} (hfree : before.disk.LinkFree)
    (hsome : ∀ source ∈ before.context.sources, (generator.registry.forPath source).isSome)
    (h : generator.execute.Gives before result after) :
    let sources := (before.context.collect generator.registry before.disk).1.sources
    result.sources = sources ∧
      result.pages = sources.map generator.settings.layout.pagePath ∧
      (sources = [] → after.disk = before.disk ∧ after.calls = before.calls) ∧
      (sources ≠ [] → ∃ styled documented, generator.Prepares before sources styled ∧
        documented.map Prod.fst = sources ∧ generator.Progress styled documented after) := by
  intro sources
  rcases gives_execute h with ⟨hnil, hpages, _, hcollect, _, rfl⟩ |
    ⟨hne, styled, documentedState, hprepares, hdocumented, _, rfl⟩
  · obtain ⟨hsources, _, rfl⟩ := gives_collect hcollect
    have hempty : sources = [] := hsources.symm.trans hnil
    exact ⟨hsources, by rw [hpages, hempty]; rfl, fun _ => ⟨rfl, rfl⟩,
      fun hsome => absurd hempty hsome⟩
  · obtain ⟨hsources, _⟩ := hprepares.state_eq
    have hprepared : result.sources = sources := hsources
    obtain ⟨_, hstart⟩ := hprepares.updated hfree
    have hknown := hprepares.forPath_isSome hsome
    rw [hprepared] at hprepares hdocumented hne hknown
    obtain ⟨hpages, documented, hnames, hprogress⟩ :=
      progress_mapM_document hkeeps (hstart.linkFree hfree) hknown hdocumented
    exact ⟨hsources, hpages, fun hempty => absurd hempty hne,
      fun _ => ⟨styled, documented, hprepares, hnames, { hprogress with }⟩⟩

/-! ## What a page holds -/

/-- On a disk, the page of a source is what a run over `sources` made of the file that
the source had at first, when it had documented `first` and came to this source. -/
def HoldsPage (generator : Generator) (before : RunState) (sources first : List Text)
    (source : Text) (disk : Disk) : Prop :=
  ∃ now d, generator.ComesTo before sources first now ∧
    generator.Documents now.disk source d ∧
    before.disk.get? (before.disk.placeOf source) = some (.file d.content) ∧
    disk.readFile (generator.settings.layout.pagePath source) =
      .ok (generator.pageBytes before.disk sources source d) ∧
    Page.Shows generator.settings.layout (Disk.pathOf before.disk.cwd) source d.sections sources
      (generator.pageHtml before.disk sources source d)

/-- A page holds the last source that was written to it, whatever was written elsewhere
since. -/
theorem Progress.holdsPage {before styled after : RunState} {sources first rest : List Text}
    {source : Text} {documented : List (Text × Documented)}
    (h : generator.Progress styled documented after)
    (hprepares : generator.Prepares before sources styled) (hfree : before.disk.LinkFree)
    (hnames : documented.map Prod.fst = first ++ source :: rest)
    (hrest : ∀ other ∈ rest, generator.settings.layout.pagePath other ≠
      generator.settings.layout.pagePath source)
    {final : Disk} {dirs : List Location} {files : List (Location × Bytes)}
    (hfinal : Updated after.disk final dirs files)
    (hother : ∀ file ∈ files,
      file.1 ≠ before.disk.placeOf (generator.settings.layout.pagePath source)) :
    generator.HoldsPage before sources first source final := by
  obtain ⟨earlier, remaining, hdocumented, rfl, hremaining⟩ := List.map_eq_append_iff.1 hnames
  obtain ⟨entry, later, rfl, rfl, rfl⟩ := List.map_eq_cons_iff.1 hremaining
  have hentry : entry ∈ documented := by
    rw [hdocumented]
    exact List.mem_append_right _ (List.mem_cons_self ..)
  obtain ⟨_, hstart⟩ := hprepares.updated hfree
  obtain ⟨hsources, hcontext, _⟩ := hprepares.state_eq
  have hall : styled.context.sources = sources := by rw [hcontext, ← hsources]
  obtain ⟨pages, now, hgives, hd⟩ := h.documents earlier entry later hdocumented
  have hupdated := (h.updated.mono (List.subset_append_left _ dirs)).trans
    (hfinal.mono (List.subset_append_right _ dirs))
  rw [hall, pageFile_eq_of_updated hstart] at hupdated
  have hfiles : documented.map (generator.pageFile before.disk sources) ++ files =
      earlier.map (generator.pageFile before.disk sources) ++
        (styled.disk.placeOf (generator.settings.layout.pagePath entry.1),
          generator.pageBytes before.disk sources entry.1 entry.2) ::
          (later.map (generator.pageFile before.disk sources) ++ files) := by
    rw [hdocumented, List.map_append, List.map_cons, hstart.placeOf_eq, List.append_assoc]
    rfl
  refine ⟨now, entry.2, ⟨styled, pages, hprepares, hgives⟩, hd,
    hprepares.content_eq hfree hd (h.content_eq entry hentry), ?_, hd.shows _ _⟩
  have hreaches := (h.reaches entry hentry).mono hfinal.cwd_eq hfinal.kept
  refine hupdated.readFile_of_last (hstart.linkFree hfree) hreaches hfiles fun file hfile => ?_
  rw [hstart.placeOf_eq]
  rcases List.mem_append.1 hfile with hfile | hfile
  · obtain ⟨other, hmem, rfl⟩ := List.mem_map.1 hfile
    rw [pageFile_fst]
    exact fun hsame =>
      hrest other.1 (List.mem_map_of_mem hmem) (Layout.placeOf_pagePath_inj hsame)
  · exact hother file hfile

end Generator
end Marginalia
