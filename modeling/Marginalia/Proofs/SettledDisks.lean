import Marginalia.Proofs.DiskRepeat
import Marginalia.Proofs.SourcesSpared

/-!
# Settled disks

On the disk that a successful run leaves, all outputs are files that can be written,
the directories above them are there, and every source reads as it did. Such a disk
is settled, and it stays so while outputs are written to it, which is all that a
further run over the same sources does. So that run gives a result too: each source
comes to what it came to, because that depends on its file alone, the same files are
written, and in the end nothing has changed.
-/

namespace Marginalia

open Marginalia.Disk (Updated)
open Marginalia.Step (gives_mapM_cons gives_pure)

namespace Generator

variable {generator : Generator} {disk : Disk} {documented : List (Text × Documented)}

/-! ## What a source comes to -/

/-- What a source comes to is determined by the disk. -/
theorem Documents.unique {source : Text} {d other : Documented}
    (h : generator.Documents disk source d) (hother : generator.Documents disk source other) :
    d = other := by
  obtain ⟨language, content, text, sections, command, stdin⟩ := d
  obtain ⟨language', content', text', sections', command', stdin'⟩ := other
  obtain rfl : language = language' := Option.some.inj (h.language_eq.symm.trans hother.language_eq)
  obtain rfl : content = content' := by
    have hcontent := h.content_eq.symm.trans hother.content_eq
    cases hcontent
    rfl
  obtain ⟨codec, hcodec, htext⟩ := h.text_eq
  obtain ⟨_, hcodec', htext'⟩ := hother.text_eq
  obtain rfl := Option.some.inj (hcodec.symm.trans hcodec')
  obtain rfl : text = text' := Except.ok.inj (htext.symm.trans htext')
  obtain rfl : sections = sections' := Except.ok.inj (h.sections_eq.symm.trans hother.sections_eq)
  obtain rfl : command = command' := h.command_eq.trans hother.command_eq.symm
  obtain ⟨codec, hcodec, hstdin⟩ := h.stdin_eq
  obtain ⟨_, hcodec', hstdin'⟩ := hother.stdin_eq
  obtain rfl := Option.some.inj (hcodec.symm.trans hcodec')
  obtain rfl : stdin = stdin' := Except.ok.inj (hstdin.symm.trans hstdin')
  rfl

theorem eq_of_documents {others : List (Text × Documented)}
    (hnames : documented.map Prod.fst = others.map Prod.fst)
    (h : ∀ entry ∈ documented, generator.Documents disk entry.1 entry.2)
    (hothers : ∀ entry ∈ others, generator.Documents disk entry.1 entry.2) :
    documented = others := by
  induction documented generalizing others with
  | nil => exact (List.map_eq_nil_iff.1 hnames.symm).symm
  | cons entry documented ih =>
      obtain ⟨other, rest, rfl, hfirst, hrest⟩ := List.map_eq_cons_iff.1 hnames.symm
      obtain ⟨hentry, h⟩ := List.forall_mem_cons.1 h
      obtain ⟨hother, hothers⟩ := List.forall_mem_cons.1 hothers
      rw [hfirst] at hother
      rw [ih hrest.symm h hothers]
      exact congrArg (· :: rest) (Prod.ext hfirst.symm (hentry.unique hother))

/-- A source that was documented could be reached, and still can at the end. -/
theorem reaches_of_mapM_document (hkeeps : generator.highlighter.runner.KeepsDisk)
    {sources pages : List Text} {before after : RunState} (hfree : before.disk.LinkFree)
    (hsome : ∀ source ∈ sources, (generator.registry.forPath source).isSome)
    (h : (sources.mapM generator.document).Gives before pages after) :
    ∀ source ∈ sources, after.disk.Reaches source := by
  induction sources generalizing before pages with
  | nil => exact fun _ hnil => by cases hnil
  | cons source sources ih =>
      obtain ⟨page, middle, others, hfirst, hrest, rfl⟩ := gives_mapM_cons.1 h
      obtain ⟨hknown, hsome⟩ := List.forall_mem_cons.1 hsome
      obtain ⟨_, d, _, _, _, _, hupdated, _⟩ := documents_document hkeeps hfree hknown hfirst
      have hmiddle := hupdated.linkFree hfree
      refine List.forall_mem_cons.2 ⟨?_, ih hmiddle hsome hrest⟩
      obtain ⟨language, hlanguage⟩ := Option.isSome_iff_exists.1 hknown
      obtain ⟨_, _, _, _, _, _, hread, _⟩ := gives_document hlanguage hfirst
      obtain ⟨_, _, hfile, _⟩ := readSource_eq_ok hread
      have hreaches := ((Disk.readFile_iff hfree).1 hfile).1
      obtain ⟨_, _, _, hprogress⟩ := progress_mapM_document hkeeps hmiddle hsome hrest
      exact (hreaches.mono hupdated.cwd_eq hupdated.kept).mono hprogress.updated.cwd_eq
        hprogress.updated.kept

/-! ## Settled disks -/

theorem Encodes.updated {after : Disk} {dirs : List Location} {files : List (Location × Bytes)}
    (h : generator.Encodes disk documented) (hupdated : Updated disk after dirs files) :
    generator.Encodes after documented where
  stylesheet := by
    rw [hupdated.encodeText_eq]
    exact h.stylesheet
  pages entry hmem := by
    rw [hupdated.encodeText_eq, pageHtml_eq_of_updated hupdated, pageBytes_eq_of_updated hupdated]
    exact h.pages entry hmem

/-- All outputs of these sources are there and can be written again, and the sources hold
what they came from. -/
structure Settled (generator : Generator) (documented : List (Text × Documented)) (disk : Disk) :
    Prop where
  linkFree : disk.LinkFree
  takesAll : disk.TakesAll
  encodes : generator.Encodes disk documented
  known : ∀ entry ∈ documented, (generator.registry.forPath entry.1).isSome
  outputs : ∀ path ∈ generator.outputs (documented.map Prod.fst), disk.Reaches path ∧
    ∃ content, disk.get? (disk.placeOf path) = some (.file content)
  sources : ∀ entry ∈ documented, disk.readFile entry.1 = .ok entry.2.content

namespace Settled

variable {after : Disk} {path : Text}

/-- Writing an output leaves a disk settled. -/
theorem updated (h : generator.Settled documented disk) {content : Bytes}
    (hpath : path ∈ generator.outputs (documented.map Prod.fst))
    (hupdated : Updated disk after [] [(disk.placeOf path, content)]) :
    generator.Settled documented after where
  linkFree := hupdated.linkFree h.linkFree
  takesAll := by
    rw [hupdated.same]
    exact h.takesAll
  encodes := h.encodes.updated hupdated
  known := h.known
  outputs := by
    intro other hother
    obtain ⟨hreaches, old, hfile⟩ := h.outputs other hother
    refine ⟨hreaches.mono hupdated.cwd_eq hupdated.kept, ?_⟩
    rw [hupdated.placeOf_eq]
    cases hlast : Disk.lastWritten? [(disk.placeOf path, content)] (disk.placeOf other) with
    | some new => exact ⟨new, hupdated.written _ new hlast⟩
    | none =>
        rcases hupdated.rest _ hlast with hsame | ⟨hnil, _⟩
        · exact ⟨old, hsame.trans hfile⟩
        · cases hnil
  sources := by
    intro entry hmem
    obtain ⟨hreaches, hfile⟩ := (Disk.readFile_iff h.linkFree).1 (h.sources entry hmem)
    refine (Disk.readFile_iff (hupdated.linkFree h.linkFree)).2
      ⟨hreaches.mono hupdated.cwd_eq hupdated.kept, ?_⟩
    have hother : ∀ file ∈ [(disk.placeOf path, content)], file.1 ≠ disk.placeOf entry.1 := by
      intro file hfile
      rw [List.mem_singleton.1 hfile]
      exact placeOf_ne_of_mem_outputs (h.known entry hmem) disk hpath
    rw [hupdated.placeOf_eq, hupdated.get?_of_untouched List.not_mem_nil hother, hfile]

/-- Every output can be written, and no directory has to be made for it. -/
theorem exists_write (h : generator.Settled documented disk)
    (hpath : path ∈ generator.outputs (documented.map Prod.fst)) {text : Text}
    (htext : disk.encodeText text = .ok (Utf8.encode text)) :
    disk.makeDirs (Path.directoryOf path) = (.ok (), disk) ∧
      ∃ after, disk.writeText path text = (.ok (), after) ∧
        generator.Settled documented after := by
  obtain ⟨hreaches, old, hfile⟩ := h.outputs path hpath
  obtain ⟨front, last, hordinary, heq⟩ := exists_eq_of_mem_outputs hpath
  have hnames : ∀ part ∈ front ++ [last], Path.IsName part := fun part hmem =>
    (hordinary part hmem).isName
  have hlast := hordinary last (List.mem_append_right _ (List.mem_singleton_self last))
  have hname : Path.name path ≠ [] := by
    rw [heq, Path.name_join_intercalate _ hnames]
    exact hlast.1
  obtain ⟨_, hplace⟩ := hreaches.directoryAt?_directoryOf h.linkFree hname
  have hsplit : Disk.names path =
      Disk.names generator.settings.layout.outputDir ++ front ++ [last] := by
    rw [heq, Path.names_join_intercalate _ hnames, List.append_assoc]
  have hslash : Disk.endsInSlash path = false := by
    rw [heq]
    exact Path.endsInSlash_join_intercalate _ (by simp) hnames
  obtain ⟨after, hwritten⟩ :=
    Disk.writeText_of_file h.linkFree hreaches hslash hsplit hlast hfile h.takesAll htext
  obtain ⟨_, _, _, hupdated⟩ :=
    Disk.writeFile_eq_ok h.linkFree (Disk.writeText_eq_ok.1 hwritten).2
  exact ⟨Disk.makeDirs_of_directoryAt? h.linkFree hplace, after, hwritten,
    h.updated hpath hupdated⟩

end Settled

/-! ## The first run -/

/-- The files of a run, the stylesheet first. -/
def files (generator : Generator) (disk : Disk) (documented : List (Text × Documented)) :
    List (Location × Bytes) :=
  (disk.placeOf generator.settings.layout.stylesheetPath,
      Utf8.encode (Stylesheet.text generator.colourRules)) ::
    documented.map (generator.pageFile disk (documented.map Prod.fst))

/-- The files of a run are at the places of its outputs. -/
theorem map_fst_files (disk : Disk) (documented : List (Text × Documented)) :
    (generator.files disk documented).map Prod.fst =
      (generator.outputs (documented.map Prod.fst)).map disk.placeOf := by
  have hpages : (documented.map (generator.pageFile disk (documented.map Prod.fst))).map Prod.fst =
      ((documented.map Prod.fst).map generator.settings.layout.pagePath).map disk.placeOf := by
    simp only [List.map_map, Function.comp_def, pageFile_fst]
  rw [files, outputs, List.map_cons, List.map_cons, hpages]

/-- A run into no directory at all does not get far. -/
theorem Prepares.outputDir_ne_nil {before styled : RunState} {sources : List Text}
    (h : generator.Prepares before sources styled) : generator.settings.outputDir ≠ [] := by
  obtain ⟨_, _, _, hready, _⟩ := h
  obtain ⟨hmade, _⟩ := gives_change hready
  intro hnil
  rw [hnil, Disk.makeDirs_of_splitLast (by decide)] at hmade
  cases hmade

/-- A run that has succeeded leaves a settled disk, and what its sources came to is told
by their first files. -/
theorem settled_execute {reply : List Text → Bytes → Except RunnerFault Reply}
    (hreply : generator.highlighter.runner = .ofReplies reply) {before after : RunState}
    {result : RunResult} (h : generator.execute.Gives before result after)
    (hfree : before.disk.LinkFree)
    (hsome : ∀ source ∈ before.context.sources, (generator.registry.forPath source).isSome) :
    let sources := (before.context.collect generator.registry before.disk).1.sources
    result.sources = sources ∧
      result.pages = sources.map generator.settings.layout.pagePath ∧
      ∃ documented : List (Text × Documented), documented.map Prod.fst = sources ∧
        (∀ entry ∈ documented, generator.Documents before.disk entry.1 entry.2) ∧
        after.calls = before.calls ++ documented.map (·.2.call) ∧
        (sources = [] → after.disk = before.disk) ∧
        (sources ≠ [] → generator.settings.outputDir ≠ [] ∧
          (before.disk.TakesAll → generator.Settled documented after.disk) ∧
          Updated before.disk after.disk
            ((generator.outputs sources).flatMap before.disk.placesAbove)
            (generator.files before.disk documented)) := by
  intro sources
  have hkeeps : generator.highlighter.runner.KeepsDisk := hreply ▸ Runner.keepsDisk_ofReplies reply
  obtain ⟨hsources, hpages, documented, hnames, hdocuments, hcalls, hnone, hdone⟩ :=
    documents_execute hreply hfree hsome h
  refine ⟨hsources, hpages, documented, hnames, hdocuments, hcalls, hnone, fun hne => ?_⟩
  obtain ⟨hreaches, hupdated, hencodes⟩ := hdone hne
  have hknown : ∀ source ∈ documented.map Prod.fst,
      (generator.registry.forPath source).isSome := by
    rw [hnames]
    exact Context.forPath_of_mem_sources hsome
  rcases gives_execute h with ⟨hnil, _⟩ | ⟨_, styled, last, hprepares, hmapM, _, rfl⟩
  · exact absurd (hsources.symm.trans hnil) hne
  · obtain ⟨_, hstart⟩ := hprepares.updated hfree
    have hlast := reaches_of_mapM_document hkeeps (hstart.linkFree hfree)
      (hprepares.forPath_isSome hsome) hmapM
    rw [hsources] at hlast
    have hfiles : (before.disk.placeOf generator.settings.layout.stylesheetPath,
        Utf8.encode (Stylesheet.text generator.colourRules)) ::
          documented.map (generator.pageFile before.disk sources) =
        generator.files before.disk documented := by
      rw [files, hnames]
    rw [hfiles] at hupdated
    refine ⟨hprepares.outputDir_ne_nil, fun htakes => ?_, hupdated⟩
    rw [← hnames] at hreaches hlast
    have hspares := (Spares.refl hfree (documented.map Prod.fst)).updated hupdated
      fun source hmem file hfile => by
        obtain ⟨path, hpath, heq⟩ := List.mem_map.1 (map_fst_files before.disk documented ▸
          List.mem_map_of_mem hfile)
        rw [← heq]
        exact placeOf_ne_of_mem_outputs (hknown source hmem) before.disk hpath
    have hafter : ({ before.disk with entries := last.disk.entries } : Disk).TakesAll := htakes
    refine ⟨hspares.linkFree, hupdated.same ▸ hafter, hencodes.updated hupdated,
      fun entry hmem => hknown _ (List.mem_map_of_mem hmem),
      fun path hpath => ⟨hreaches path hpath, ?_⟩, fun entry hmem => ?_⟩
    · refine hupdated.exists_file ?_
      rw [map_fst_files, hspares.placeOf_eq]
      exact List.mem_map_of_mem hpath
    · have hsource : entry.1 ∈ documented.map Prod.fst := List.mem_map_of_mem hmem
      refine (Disk.readFile_iff hspares.linkFree).2 ⟨hlast _ hsource, ?_⟩
      rw [hspares.placeOf_eq]
      exact (hspares.files _ hsource _).2 (hdocuments entry hmem).content_eq

/-! ## The second run -/

/-- On a settled disk a source is documented again. -/
theorem exists_gives_document_settled {reply : List Text → Bytes → Except RunnerFault Reply}
    (hreply : generator.highlighter.runner = .ofReplies reply) {before : RunState}
    (hsettled : generator.Settled documented before.disk)
    (hsources : before.context.sources = documented.map Prod.fst) {entry : Text × Documented}
    (hmem : entry ∈ documented) (hd : generator.Documents disk entry.1 entry.2) :
    ∃ page after, (generator.document entry.1).Gives before page after ∧
      generator.Settled documented after.disk ∧
      after.context.sources = documented.map Prod.fst := by
  have hkeeps : generator.highlighter.runner.KeepsDisk := hreply ▸ Runner.keepsDisk_ofReplies reply
  obtain ⟨codec, hcodec, htext⟩ := hd.text_eq
  have hread := readSource_of_readFile (hsettled.sources entry hmem) hcodec htext
  have hresult : (generator.highlighter.highlight before.disk entry.2.language
      (Section.ofSource entry.2.language entry.2.text)).result = .ok entry.2.sections := by
    rw [Highlighter.highlight_of_replies hreply before.disk disk]
    exact hd.sections_eq
  have hpath : generator.settings.layout.pagePath entry.1 ∈
      generator.outputs (documented.map Prod.fst) :=
    List.mem_cons_of_mem _ (List.mem_map_of_mem (List.mem_map_of_mem hmem))
  have hdisk : (generator.highlighter.highlight before.disk entry.2.language
      (Section.ofSource entry.2.language entry.2.text)).disk = before.disk :=
    Highlighter.disk_of_highlight hkeeps before.disk _
  obtain ⟨hmade, last, hwritten, hlast⟩ :=
    hsettled.exists_write hpath (hsettled.encodes.pages entry hmem)
  rw [pageHtml, ← hsources] at hwritten
  obtain ⟨after, hgives, rfl, hcontext⟩ := exists_gives_document hd.language_eq hread hresult
    (by rw [hdisk]; exact hmade) (by rw [hdisk]; exact hwritten)
  exact ⟨_, after, hgives, hlast, by rw [hcontext]; exact hsources⟩

theorem exists_gives_mapM_settled {reply : List Text → Bytes → Except RunnerFault Reply}
    (hreply : generator.highlighter.runner = .ofReplies reply)
    (hdocuments : ∀ entry ∈ documented, generator.Documents disk entry.1 entry.2)
    {entries : List (Text × Documented)} (hsub : entries ⊆ documented) {before : RunState}
    (hsettled : generator.Settled documented before.disk)
    (hsources : before.context.sources = documented.map Prod.fst) :
    ∃ pages after, ((entries.map Prod.fst).mapM generator.document).Gives before pages after := by
  induction entries generalizing before with
  | nil => exact ⟨[], before, gives_pure.2 ⟨rfl, rfl⟩⟩
  | cons entry entries ih =>
      obtain ⟨hmem, hsub⟩ := List.cons_subset.1 hsub
      obtain ⟨page, middle, hfirst, hmiddle, hcontext⟩ :=
        exists_gives_document_settled hreply hsettled hsources hmem (hdocuments entry hmem)
      obtain ⟨pages, after, hrest⟩ := ih hsub hmiddle hcontext
      exact ⟨_, after, gives_mapM_cons.2 ⟨page, middle, pages, hfirst, hrest, rfl⟩⟩

/-- A settled disk has the output directory. -/
theorem Settled.makeDirs_outputDir (h : generator.Settled documented disk)
    (hne : generator.settings.outputDir ≠ []) :
    disk.makeDirs generator.settings.outputDir = (.ok (), disk) := by
  obtain ⟨hreaches, _⟩ := h.outputs _ (List.mem_cons_self ..)
  have hrelative : Path.isAbsolute stylesheetName = false := by decide
  have hlast : Disk.names stylesheetName = [stylesheetName] := by decide
  have hstart : disk.start generator.settings.outputDir =
      disk.start generator.settings.layout.stylesheetPath := by
    rw [Disk.start, Disk.start, Layout.stylesheetPath, Path.isAbsolute_join hrelative]
    rfl
  have hplace := hreaches.directoryAt?_of_prefix h.linkFree
    (Path.join_isPrefix hrelative generator.settings.outputDir) hne hstart
    (Path.names_join hrelative) (hlast ▸ List.cons_ne_nil _ _)
  exact Disk.makeDirs_of_directoryAt? h.linkFree hplace

/-- A run gives a result if it starts from a settled disk and collects its sources. -/
theorem Settled.exists_gives_execute {reply : List Text → Bytes → Except RunnerFault Reply}
    (hreply : generator.highlighter.runner = .ofReplies reply) {before : RunState}
    (h : generator.Settled documented before.disk)
    (hdocuments : ∀ entry ∈ documented, generator.Documents disk entry.1 entry.2)
    (hsources : (before.context.collect generator.registry before.disk).1.sources =
      documented.map Prod.fst)
    (hne : documented.map Prod.fst ≠ []) (hdir : generator.settings.outputDir ≠ []) :
    ∃ result after, generator.execute.Gives before result after := by
  obtain ⟨_, hcollect, notices, rfl⟩ := exists_gives_collect generator before
  rw [hsources] at hcollect
  obtain ⟨hmade, styled, hwritten, hstyled⟩ :=
    h.exists_write (List.mem_cons_self ..) h.encodes.stylesheet
  have hready : generator.Settled documented ({ before with
      disk := styled
      context := (before.context.collect generator.registry before.disk).1
      notices } : RunState).disk := hstyled
  obtain ⟨pages, last, hpages⟩ := exists_gives_mapM_settled hreply hdocuments
    (List.Subset.refl documented) hready hsources
  obtain ⟨after, hafter, _⟩ := Generator.exists_gives_execute hcollect hne
    (change_gives (h.makeDirs_outputDir hdir) _) (writeFile_gives hmade hwritten) hpages
  exact ⟨_, after, hafter⟩

/-- A run that writes what the run before has written changes nothing. -/
theorem Settled.unchanged_of_execute {reply : List Text → Bytes → Except RunnerFault Reply}
    (hreply : generator.highlighter.runner = .ofReplies reply) {before after : RunState}
    {result : RunResult} (hagain : generator.execute.Gives before result after)
    (h : generator.Settled documented before.disk)
    (hdocuments : ∀ entry ∈ documented, generator.Documents before.disk entry.1 entry.2)
    (hsome : ∀ source ∈ before.context.sources, (generator.registry.forPath source).isSome)
    (hsources : (before.context.collect generator.registry before.disk).1.sources =
      documented.map Prod.fst)
    (hne : documented.map Prod.fst ≠ []) {dirs : List Location}
    (hupdated : Updated disk before.disk dirs (generator.files disk documented)) :
    after.calls = before.calls ++ documented.map (·.2.call) ∧
      after.disk = { before.disk with entries := after.disk.entries } ∧
      ∀ place, after.disk.get? place = before.disk.get? place := by
  obtain ⟨_, _, others, hnames, hothers, hcalls, _, hdone⟩ :=
    settled_execute hreply hagain h.linkFree hsome
  obtain rfl : documented = others :=
    eq_of_documents (hsources.symm.trans hnames.symm) hdocuments hothers
  obtain ⟨_, _, hwritten⟩ := hdone (hsources ▸ hne)
  have hplaces : before.disk.placeOf = disk.placeOf := funext hupdated.placeOf_eq
  have hfiles : generator.files before.disk documented = generator.files disk documented := by
    rw [files, files, hplaces, pageFile_eq_of_updated hupdated]
  rw [hfiles] at hwritten
  refine ⟨hcalls, hwritten.same, fun place => ?_⟩
  cases hlast : Disk.lastWritten? (generator.files disk documented) place with
  | some content => rw [hwritten.written _ _ hlast, hupdated.written _ _ hlast]
  | none =>
      rcases hwritten.rest place hlast with hkept | ⟨habove, hvacant, _⟩
      · exact hkept
      · -- the directories above the outputs are there already
        obtain ⟨path, hpath, hplace⟩ := List.mem_flatMap.1 habove
        rw [hsources] at hpath
        have hdirectory := (h.outputs path hpath).1.get?_of_mem_placesAbove hplace
          (names_ne_nil_of_mem_outputs hpath)
        rw [hvacant] at hdirectory
        cases hdirectory

end Generator
end Marginalia
