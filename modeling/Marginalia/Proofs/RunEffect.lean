import Marginalia.Proofs.RunProgress

/-!
# The effect of a run

The invariant of the loop is read off path by path when a run has come to its
end. A page that several sources map to holds the last one of them, and
everything that is no output and no directory above one is as it was.

If the program behind the highlighter does not see the disk either, then a
source comes to the same at its turn as on the disk that the run started from.
-/

namespace Marginalia

open Marginalia.Disk (Updated)
open Marginalia.Step (gives_mapM_cons gives_pure)

namespace Generator

variable {generator : Generator}

/-- The outputs of a run, the stylesheet first. -/
def outputs (generator : Generator) (sources : List Text) : List Text :=
  generator.settings.layout.stylesheetPath :: sources.map generator.settings.layout.pagePath

/-- The files of a run have bytes on a disk. -/
structure Encodes (generator : Generator) (disk : Disk) (documented : List (Text × Documented)) :
    Prop where
  stylesheet : disk.encodeText (Stylesheet.text generator.colourRules) =
    .ok (Utf8.encode (Stylesheet.text generator.colourRules))
  pages : ∀ entry ∈ documented,
    disk.encodeText (generator.pageHtml disk (documented.map Prod.fst) entry.1 entry.2) =
      .ok (generator.pageBytes disk (documented.map Prod.fst) entry.1 entry.2)

/-- With a program that does not see the disk, every source came to what its first
file comes to, and the disk is the first one with all outputs. -/
theorem documents_execute {reply : List Text → Bytes → Except RunnerFault Reply}
    (hreply : generator.highlighter.runner = .ofReplies reply) {before after : RunState}
    {result : RunResult} (hfree : before.disk.LinkFree)
    (hsome : ∀ source ∈ before.context.sources, (generator.registry.forPath source).isSome)
    (h : generator.execute.Gives before result after) :
    let sources := (before.context.collect generator.registry before.disk).1.sources
    result.sources = sources ∧
      result.pages = sources.map generator.settings.layout.pagePath ∧
      ∃ documented : List (Text × Documented), documented.map Prod.fst = sources ∧
        (∀ entry ∈ documented, generator.Documents before.disk entry.1 entry.2) ∧
        after.calls = before.calls ++ documented.map (·.2.call) ∧
        (sources = [] → after.disk = before.disk) ∧
        (sources ≠ [] →
          (∀ path ∈ generator.outputs sources, after.disk.Reaches path) ∧
          Updated before.disk after.disk
            ((generator.outputs sources).flatMap before.disk.placesAbove)
            ((before.disk.placeOf generator.settings.layout.stylesheetPath,
                Utf8.encode (Stylesheet.text generator.colourRules)) ::
              documented.map (generator.pageFile before.disk sources)) ∧
          generator.Encodes before.disk documented) := by
  intro sources
  have hkeeps : generator.highlighter.runner.KeepsDisk := hreply ▸ Runner.keepsDisk_ofReplies reply
  obtain ⟨hsources, hpages, hnone, hprogress⟩ := progress_execute hkeeps hfree hsome h
  refine ⟨hsources, hpages, ?_⟩
  by_cases hempty : sources = []
  · obtain ⟨hdisk, hcalls⟩ := hnone hempty
    exact ⟨[], hempty.symm, fun _ hmem => (by cases hmem), by simp [hcalls], fun _ => hdisk,
      fun hne => absurd hempty hne⟩
  · obtain ⟨styled, documented, hprepares, hnames, hprogress⟩ := hprogress hempty
    obtain ⟨_, hcontext, hcalls⟩ := hprepares.state_eq
    obtain ⟨hreaches, hstart⟩ := hprepares.updated hfree
    have hupdated := hprogress.updated
    have hplaces : styled.disk.placesAbove = before.disk.placesAbove :=
      funext hstart.placesAbove_eq
    have hpaths := pagePaths_of_names hnames generator.settings.layout
    rw [hcontext, pageFile_eq_of_updated hstart, hplaces, hpaths] at hupdated
    refine ⟨documented, hnames, fun entry hmem => ?_, by rw [hprogress.calls_eq, hcalls],
      fun hnil => absurd hnil hempty,
      fun _ => ⟨fun path hmem => ?_, ?_, hprepares.encodes hfree, fun entry hmem => ?_⟩⟩
    · obtain ⟨front, back, hsplit⟩ := List.append_of_mem hmem
      obtain ⟨_, _, _, hentry⟩ := hprogress.documents front entry back hsplit
      exact hentry.of_replies hreply
        (hprepares.content_eq hfree hentry (hprogress.content_eq entry hmem))
    · rcases List.mem_cons.1 hmem with rfl | hmem
      · exact hreaches.mono hupdated.cwd_eq hupdated.kept
      · rw [← hpaths] at hmem
        obtain ⟨entry, hentry, rfl⟩ := List.mem_map.1 hmem
        exact hprogress.reaches entry hentry
    · exact (hstart.mono (List.subset_append_left _ _)).trans
        (hupdated.mono (List.subset_append_right _ _))
    · have hencodes := hprogress.encodes entry hmem
      rw [hcontext, hstart.encodeText_eq, pageHtml_eq_of_updated hstart,
        pageBytes_eq_of_updated hstart] at hencodes
      rw [hnames]
      exact hencodes

/-! ## What is left behind -/

/-- An output lies below the output directory under ordinary names. -/
theorem exists_eq_of_mem_outputs {sources : List Text} {path : Text}
    (h : path ∈ generator.outputs sources) :
    ∃ front last, (∀ part ∈ front ++ [last], Path.IsOrdinary part) ∧
      path = Path.join generator.settings.layout.outputDir
        (List.intercalate ['/'] (front ++ [last])) := by
  rcases List.mem_cons.1 h with rfl | hmem
  · exact ⟨[], stylesheetName, Layout.ordinary_stylesheetName, Layout.stylesheetPath_eq _⟩
  · obtain ⟨source, _, rfl⟩ := List.mem_map.1 hmem
    obtain ⟨front, stem, hordinary, heq⟩ :=
      Layout.exists_pagePath_eq generator.settings.layout source
    exact ⟨front, _, hordinary, heq⟩

theorem names_ne_nil_of_mem_outputs {sources : List Text} {path : Text}
    (h : path ∈ generator.outputs sources) : Disk.names path ≠ [] := by
  obtain ⟨front, last, hordinary, rfl⟩ := exists_eq_of_mem_outputs h
  rw [Path.names_join_intercalate _ fun part hmem => (hordinary part hmem).isName]
  simp

theorem stylesheet_text_eq (colourRules : Text) : Stylesheet.text colourRules =
    Stylesheet.title ++ Stylesheet.layoutRules.flatMap Stylesheet.LayoutRule.render ++
      "\n".toList ++ colourRules ++ "\n".toList := by
  have hnewline : "\n".toList = ['\n'] := by decide
  rw [Stylesheet.text, hnewline, List.append_assoc _ ['\n'] colourRules]
  rfl

/-- What a run leaves on a disk on which it found sources: the directories above
its outputs, the stylesheet, for every page the last source of that page as it
was at first, and nothing else that is new. -/
structure LeavesPages (generator : Generator) (before : Disk) (sources : List Text)
    (after : Disk) : Prop where
  same : after = { before with entries := after.entries }
  directories : ∀ place ∈ (generator.outputs sources).flatMap before.placesAbove,
    (before.get? place = none ∨ before.get? place = some .directory) ∧
      after.get? place = some .directory
  stylesheet : after.readFile generator.settings.layout.stylesheetPath =
    .ok (Utf8.encode (Stylesheet.title ++
      Stylesheet.layoutRules.flatMap Stylesheet.LayoutRule.render ++ "\n".toList ++
      generator.colourRules ++ "\n".toList))
  pages : ∀ first source rest, sources = first ++ source :: rest →
    (∀ other ∈ rest, generator.settings.layout.pagePath other ≠
      generator.settings.layout.pagePath source) →
    ∃ d, generator.Documents before source d ∧
      after.readFile (generator.settings.layout.pagePath source) =
        .ok (generator.pageBytes before sources source d) ∧
      Page.Shows generator.settings.layout (Disk.pathOf before.cwd) source d.sections sources
        (generator.pageHtml before sources source d)
  others : ∀ place, place ∉ (generator.outputs sources).flatMap before.placesAbove →
    place ∉ (generator.outputs sources).map before.placeOf →
      after.get? place = before.get? place

theorem leavesPages_of_updated {before after : Disk} {sources : List Text}
    {documented : List (Text × Documented)} (hfree : before.LinkFree)
    (hnames : documented.map Prod.fst = sources)
    (hdocuments : ∀ entry ∈ documented, generator.Documents before entry.1 entry.2)
    (hreaches : ∀ path ∈ generator.outputs sources, after.Reaches path)
    (hupdated : Updated before after ((generator.outputs sources).flatMap before.placesAbove)
      ((before.placeOf generator.settings.layout.stylesheetPath,
          Utf8.encode (Stylesheet.text generator.colourRules)) ::
        documented.map (generator.pageFile before sources))) :
    generator.LeavesPages before sources after where
  same := hupdated.same
  directories := by
    intro place hmem
    obtain ⟨path, hpath, hplace⟩ := List.mem_flatMap.1 hmem
    rw [← hupdated.placesAbove_eq] at hplace
    have hdirectory := (hreaches path hpath).get?_of_mem_placesAbove hplace
      (names_ne_nil_of_mem_outputs hpath)
    exact ⟨hupdated.get?_of_directory hdirectory, hdirectory⟩
  stylesheet := by
    rw [← stylesheet_text_eq]
    refine hupdated.readFile_of_last hfree (hreaches _ (List.mem_cons_self ..))
      (List.nil_append _).symm fun file hfile => ?_
    obtain ⟨entry, _, rfl⟩ := List.mem_map.1 hfile
    rw [pageFile_fst]
    exact Layout.placeOf_pagePath_ne before generator.settings.layout entry.1
  pages := by
    intro first source rest hsources hrest
    rw [← hnames] at hsources
    obtain ⟨earlier, remaining, hdocumented, _, hremaining⟩ := List.map_eq_append_iff.1 hsources
    obtain ⟨entry, later, rfl, rfl, rfl⟩ := List.map_eq_cons_iff.1 hremaining
    have hentry : entry ∈ documented := by
      rw [hdocumented]
      exact List.mem_append_right _ (List.mem_cons_self ..)
    have hd := hdocuments entry hentry
    refine ⟨entry.2, hd, ?_, hd.shows before sources⟩
    have hpage : generator.settings.layout.pagePath entry.1 ∈ generator.outputs sources := by
      rw [← hnames]
      exact List.mem_cons_of_mem _ (List.mem_map_of_mem (List.mem_map_of_mem hentry))
    have hfiles : (before.placeOf generator.settings.layout.stylesheetPath,
          Utf8.encode (Stylesheet.text generator.colourRules)) ::
          documented.map (generator.pageFile before sources) =
        ((before.placeOf generator.settings.layout.stylesheetPath,
            Utf8.encode (Stylesheet.text generator.colourRules)) ::
          earlier.map (generator.pageFile before sources)) ++
            generator.pageFile before sources entry ::
              later.map (generator.pageFile before sources) := by
      rw [hdocumented, List.map_append, List.map_cons, List.cons_append]
    refine hupdated.readFile_of_last hfree (hreaches _ hpage) hfiles fun file hfile => ?_
    obtain ⟨other, hother, rfl⟩ := List.mem_map.1 hfile
    rw [pageFile_fst]
    exact fun hsame =>
      hrest other.1 (List.mem_map_of_mem hother) (Layout.placeOf_pagePath_inj hsame)
  others := by
    intro place hdirs houtputs
    refine hupdated.get?_of_untouched hdirs fun file hfile hsame => houtputs ?_
    rcases List.mem_cons.1 hfile with rfl | hfile
    · exact List.mem_map.2 ⟨_, List.mem_cons_self .., hsame⟩
    · obtain ⟨entry, hentry, rfl⟩ := List.mem_map.1 hfile
      rw [pageFile_fst] at hsame
      rw [← hsame, ← hnames]
      exact List.mem_map_of_mem
        (List.mem_cons_of_mem _ (List.mem_map_of_mem (List.mem_map_of_mem hentry)))

/-- A source is documented if it can be read and its page can be written. -/
theorem exists_gives_document_ofLines (hlines : generator.highlighter = .ofLines)
    {source text page : Text} {before : RunState} {disk : Bytes → Disk}
    (hlanguage : generator.registry.forPath source = some Highlighter.firstStandard)
    (hread : generator.readSource before.disk source = .ok text)
    (hpage : generator.settings.layout.pagePath source = page)
    (hstrays : before.disk.strays = [])
    (hmade : before.disk.makeDirs (Path.directoryOf page) = (.ok (), before.disk))
    (hfile : ∀ content, before.disk.writeFile page content = (.ok (), disk content)) :
    ∃ content after, (generator.document source).Gives before page after ∧
      after.disk = disk content := by
  subst hpage
  obtain ⟨sections, hresult⟩ := Highlighter.exists_highlight_ofLines_eq_ok before.disk text
  have hdisk : (generator.highlighter.highlight before.disk Highlighter.firstStandard
      (Section.ofSource Highlighter.firstStandard text)).disk = before.disk := by
    have hreply : generator.highlighter.runner = .ofReplies _ := congrArg (·.runner) hlines
    rw [Highlighter.highlight_of_replies hreply before.disk before.disk]
  rw [← hlines] at hresult
  obtain ⟨after, hgives, hafter, _⟩ := exists_gives_document hlanguage hread hresult
    (by rw [hdisk]; exact hmade)
    (by rw [hdisk, Disk.writeText_of_strays hstrays]; exact hfile _)
  exact ⟨_, after, hgives, hafter⟩

/-! ## Two sources of one page -/

def sample : Generator where
  settings := {}
  highlighter := Highlighter.ofLines

def sampleSources : List Text := ["b/a.py".toList, "a.py".toList]

/-- The files of the sources, and these outputs. -/
def sampleDisk (outputs : List (Location × Node)) : Disk where
  entries := [(["b".toList], .directory),
    (["b".toList, "a.py".toList], .file (Utf8.encode "y\n".toList)),
    (["a.py".toList], .file (Utf8.encode "#x\n".toList))] ++ outputs

/-- The output directory with a stylesheet and these pages. -/
def sampleOutputs (css : Bytes) (pages : List (Location × Node)) : List (Location × Node) :=
  (["docs".toList], .directory) :: (["docs".toList, "docco.css".toList], .file css) :: pages

def samplePage (page : Bytes) : Location × Node :=
  (["docs".toList, "a.html".toList], .file page)

theorem forPath_sample {source : Text} (h : source ∈ sampleSources) :
    sample.registry.forPath source = some Highlighter.firstStandard := by
  refine Registry.forPath_standard_of_py ?_
  rcases List.mem_cons.1 h with rfl | h
  · decide
  · rw [List.mem_singleton.1 h]
    decide

theorem pagePath_sample {source : Text} (h : source ∈ sampleSources) :
    sample.settings.layout.pagePath source = "docs/a.html".toList := by
  rcases List.mem_cons.1 h with rfl | h
  · decide
  · rw [List.mem_singleton.1 h]
    decide

theorem makeDirs_docs (disk : Disk) :
    disk.makeDirs "docs".toList = disk.ensureDir "docs".toList :=
  Disk.makeDirs_of_splitLast (by decide) disk

theorem linkFree_sampleDisk : (sampleDisk []).LinkFree :=
  Disk.linkFree_of_entries (by decide) rfl

theorem collect_sample : (Context.collect sample.registry (sampleDisk [])
    { pending := sampleSources }).1 = { sources := sampleSources } := by
  have hfile : ∀ source ∈ sampleSources, (sampleDisk []).directoryAt? source = none := by
    intro source h
    rcases List.mem_cons.1 h with rfl | h
    · cbv
    · rw [List.mem_singleton.1 h]
      cbv
  have hknown : ∀ source ∈ sampleSources, (sample.registry.forPath source).isSome := by
    intro source h
    rw [forPath_sample h]
    rfl
  rw [Context.collect_of_files hfile hknown]
  rfl

theorem exists_gives_document_sample {source text : Text} {before : RunState}
    {disk : Bytes → Disk} (hsource : source ∈ sampleSources)
    (hread : before.disk.readFile source = .ok (Utf8.encode text))
    (htext : Encoding.utf8.read (Utf8.encode text) = .ok text)
    (hstrays : before.disk.strays = [])
    (hmade : before.disk.makeDirs "docs".toList = (.ok (), before.disk))
    (hfile : ∀ page, before.disk.writeFile "docs/a.html".toList page = (.ok (), disk page)) :
    ∃ page after, (sample.document source).Gives before "docs/a.html".toList after ∧
      after.disk = disk page := by
  have hcodec : sample.highlighter.codecs sample.settings.encoding = some Encoding.utf8.codec :=
    Encoding.codec?_utf8
  exact exists_gives_document_ofLines rfl (forPath_sample hsource)
    (readSource_of_readFile hread hcodec (Encoding.read_codec_eq_ok.2 htext))
    (pagePath_sample hsource) hstrays hmade hfile

theorem exists_gives_documents_sample (before : RunState) {css : Bytes}
    (hdisk : before.disk = sampleDisk (sampleOutputs css [])) :
    ∃ pages after, (sampleSources.mapM sample.document).Gives before pages after := by
  have hmade : (sampleDisk (sampleOutputs css [])).makeDirs "docs".toList =
      (.ok (), sampleDisk (sampleOutputs css [])) := by
    rw [makeDirs_docs]
    cbv
  have hread : (sampleDisk (sampleOutputs css [])).readFile "b/a.py".toList =
      .ok (Utf8.encode "y\n".toList) := by
    cbv
  have hwrite (page : Bytes) : (sampleDisk (sampleOutputs css [])).writeFile "docs/a.html".toList
      page = (.ok (), sampleDisk (sampleOutputs css [samplePage page])) := by
    cbv
  obtain ⟨first, middle, hfirst, hmiddle⟩ := exists_gives_document_sample
    (List.mem_cons_self ..) (hdisk ▸ hread) (by decide) (hdisk ▸ rfl) (hdisk ▸ hmade)
    (hdisk ▸ hwrite)
  have hmadeAgain : (sampleDisk (sampleOutputs css [samplePage first])).makeDirs "docs".toList =
      (.ok (), sampleDisk (sampleOutputs css [samplePage first])) := by
    rw [makeDirs_docs]
    cbv
  have hreadLast : (sampleDisk (sampleOutputs css [samplePage first])).readFile "a.py".toList =
      .ok (Utf8.encode "#x\n".toList) := by
    cbv
  have hwriteLast (page : Bytes) : (sampleDisk (sampleOutputs css [samplePage first])).writeFile
      "docs/a.html".toList page = (.ok (), sampleDisk (sampleOutputs css [samplePage page])) := by
    cbv
  obtain ⟨_, last, hlast, _⟩ := exists_gives_document_sample
    (List.mem_cons_of_mem _ (List.mem_cons_self ..)) (hmiddle ▸ hreadLast) (by decide)
    (hmiddle ▸ rfl) (hmiddle ▸ hmadeAgain) (hmiddle ▸ hwriteLast)
  exact ⟨_, last, gives_mapM_cons.2 ⟨_, middle, _, hfirst,
    gives_mapM_cons.2 ⟨_, last, [], hlast, gives_pure.2 ⟨rfl, rfl⟩, rfl⟩, rfl⟩⟩

theorem exists_gives_execute_sample : ∃ result state, sample.execute.Gives
    { disk := sampleDisk [], context := { pending := sampleSources } } result state := by
  obtain ⟨_, hcollect, notices, rfl⟩ := exists_gives_collect sample
    { disk := sampleDisk [], context := { pending := sampleSources } }
  simp only [collect_sample] at hcollect
  have hready : (sampleDisk []).makeDirs "docs".toList =
      (.ok (), sampleDisk [(["docs".toList], .directory)]) := by
    rw [makeDirs_docs]
    cbv
  have habove : (sampleDisk [(["docs".toList], .directory)]).makeDirs
      (Path.directoryOf sample.settings.layout.stylesheetPath) =
        (.ok (), sampleDisk [(["docs".toList], .directory)]) := by
    have houtput : Path.directoryOf sample.settings.layout.stylesheetPath = "docs".toList := by
      decide
    rw [houtput, makeDirs_docs]
    cbv
  have hstyled (css : Bytes) : (sampleDisk [(["docs".toList], .directory)]).writeFile
      sample.settings.layout.stylesheetPath css = (.ok (), sampleDisk (sampleOutputs css [])) := by
    cbv
  obtain ⟨pages, documented, hpages⟩ := exists_gives_documents_sample
    { disk := sampleDisk (sampleOutputs (Utf8.encode (Stylesheet.text [])) [])
      context := { sources := sampleSources }
      notices } rfl
  obtain ⟨after, hafter, _⟩ := exists_gives_execute hcollect (List.cons_ne_nil _ _)
    (change_gives hready _)
    (writeFile_gives habove ((Disk.writeText_of_strays rfl _ _).trans (hstyled _))) hpages
  exact ⟨_, after, hafter⟩

/-! ## The whole run -/

/-- A run that succeeds on a disk without links documents the sources that it
collects, with one call for each and in their order, and leaves their pages
behind. Without sources it leaves the disk as it was. -/
theorem execute_leavesPages {reply : List Text → Bytes → Except RunnerFault Reply}
    (hreply : generator.highlighter.runner = .ofReplies reply) {disk : Disk} {inputs : List Text}
    {result : RunResult} {state : RunState} (hfree : disk.LinkFree)
    (h : generator.execute.Gives { disk, context := { pending := inputs } } result state) :
    let sources := (Context.collect generator.registry disk { pending := inputs }).1.sources
    result.sources = sources ∧
      result.pages = sources.map generator.settings.layout.pagePath ∧
      List.Forall₂ (fun source call => ∃ d, generator.Documents disk source d ∧ d.call = call)
        sources state.calls ∧
      (sources = [] → state.disk = disk) ∧
      (sources ≠ [] → generator.LeavesPages disk sources state.disk) := by
  obtain ⟨hsources, hpages, documented, hnames, hdocuments, hcalls, hnone, hsome⟩ :=
    documents_execute hreply hfree (fun _ hnil => by cases hnil) h
  refine ⟨hsources, hpages, ?_, hnone, fun hne => ?_⟩
  · rw [hcalls, ← hnames, List.nil_append, List.forall₂_map_left_iff, List.forall₂_map_right_iff]
    exact List.forall₂_same.2 fun entry hmem => ⟨entry.2, hdocuments entry hmem, rfl⟩
  · obtain ⟨hreaches, hupdated, _⟩ := hsome hne
    exact leavesPages_of_updated hfree hnames hdocuments hreaches hupdated

theorem execute_leavesPages_sample : ∃ result state,
    sample.execute.Gives { disk := sampleDisk [], context := { pending := sampleSources } }
      result state ∧
    result.sources = sampleSources ∧
    sample.LeavesPages (sampleDisk []) sampleSources state.disk := by
  obtain ⟨result, state, h⟩ := exists_gives_execute_sample
  have hreply : sample.highlighter.runner = .ofReplies _ := rfl
  obtain ⟨hsources, _, _, _, hpages⟩ := execute_leavesPages hreply linkFree_sampleDisk h
  rw [collect_sample] at hsources hpages
  exact ⟨result, state, h, hsources, hpages (List.cons_ne_nil _ _)⟩

/-- A disk without symbolic links on which the file of the stylesheet has another name. -/
def sharedDisk (css : Bytes) (pages : List (Location × Node)) : Disk where
  entries := (["a.py".toList], .file (Utf8.encode "#x\n".toList)) ::
    (["keep".toList], .file css) :: sampleOutputs css pages
  shared := [[["docs".toList, "docco.css".toList], ["keep".toList]]]

theorem collect_sharedDisk : (Context.collect sample.registry (sharedDisk [] [])
    { pending := ["a.py".toList] }).1 = { sources := ["a.py".toList] } := by
  have hfile : ∀ path ∈ ["a.py".toList], (sharedDisk [] []).directoryAt? path = none := by
    refine List.forall_mem_singleton.2 ?_
    cbv
  have hknown : ∀ path ∈ ["a.py".toList], (sample.registry.forPath path).isSome := by
    refine List.forall_mem_singleton.2 ?_
    rw [forPath_sample (List.mem_cons_of_mem _ (List.mem_singleton_self _))]
    rfl
  rw [Context.collect_of_files hfile hknown]
  rfl

theorem exists_gives_execute_sharedDisk : ∃ result state page,
    sample.execute.Gives
        { disk := sharedDisk [] [], context := { pending := ["a.py".toList] } } result state ∧
      state.disk = sharedDisk (Utf8.encode (Stylesheet.text [])) [samplePage page] := by
  obtain ⟨_, hcollect, notices, rfl⟩ := exists_gives_collect sample
    { disk := sharedDisk [] [], context := { pending := ["a.py".toList] } }
  simp only [collect_sharedDisk] at hcollect
  have hmade (css : Bytes) :
      (sharedDisk css []).makeDirs "docs".toList = (.ok (), sharedDisk css []) := by
    rw [makeDirs_docs]
    cbv
  have houtput : Path.directoryOf sample.settings.layout.stylesheetPath = "docs".toList := by
    decide
  have hstyled (css : Bytes) : (sharedDisk [] []).writeFile sample.settings.layout.stylesheetPath
      css = (.ok (), sharedDisk css []) := by
    cbv
  have hread (css : Bytes) : (sharedDisk css []).readFile "a.py".toList =
      .ok (Utf8.encode "#x\n".toList) := by
    cbv
  have hwrite (css page : Bytes) : (sharedDisk css []).writeFile "docs/a.html".toList page =
      (.ok (), sharedDisk css [samplePage page]) := by
    cbv
  let styled : RunState :=
    { disk := sharedDisk (Utf8.encode (Stylesheet.text [])) []
      context := { sources := ["a.py".toList] }
      notices }
  obtain ⟨page, documented, hdocument, hdisk⟩ := @exists_gives_document_sample _ _ styled _
    (List.mem_cons_of_mem _ (List.mem_singleton_self _)) (hread _) (by decide) rfl (hmade _)
    (hwrite _)
  obtain ⟨_, hafter, _, rfl⟩ := exists_gives_execute hcollect (List.cons_ne_nil _ _)
    (change_gives (hmade []) _)
    (writeFile_gives (houtput ▸ hmade []) ((Disk.writeText_of_strays rfl _ _).trans (hstyled _)))
    (gives_mapM_cons.2 ⟨_, documented, [], hdocument, gives_pure.2 ⟨rfl, rfl⟩, rfl⟩)
  exact ⟨_, _, page, hafter, hdisk⟩

theorem encode_stylesheet_ne_nil (colourRules : Text) :
    Utf8.encode (Stylesheet.text colourRules) ≠ [] := by
  rw [Stylesheet.text, Utf8.encode, List.append_assoc, List.append_assoc, List.flatMap_append]
  exact List.append_ne_nil_of_left_ne_nil (by decide) _

/-- A file that is no output is changed if it shares its content with one. -/
theorem not_execute_leavesPages_shared : ∃ result state,
    (∀ place target, (sharedDisk [] []).get? place ≠ some (.link target)) ∧
    sample.execute.Gives
      { disk := sharedDisk [] [], context := { pending := ["a.py".toList] } } result state ∧
    (Context.collect sample.registry (sharedDisk [] []) { pending := ["a.py".toList] }).1.sources =
      ["a.py".toList] ∧
    state.disk.get? ["keep".toList] ≠ (sharedDisk [] []).get? ["keep".toList] ∧
    ¬ sample.LeavesPages (sharedDisk [] []) ["a.py".toList] state.disk := by
  obtain ⟨result, state, page, h, hdisk⟩ := exists_gives_execute_sharedDisk
  have hchanged : state.disk.get? ["keep".toList] ≠ (sharedDisk [] []).get? ["keep".toList] := by
    rw [hdisk]
    intro hsame
    exact encode_stylesheet_ne_nil [] (Node.file.inj (Option.some.inj hsame))
  refine ⟨result, state, Disk.unlinked_of_entries (by decide), h, congrArg _ collect_sharedDisk,
    hchanged, fun hleaves => hchanged (hleaves.others _ ?_ ?_)⟩
  · decide
  · decide

end Generator
end Marginalia
