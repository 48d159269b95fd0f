import Marginalia.Proofs.RunEffect
import Marginalia.Proofs.RunRecord

/-!
# The first failure ends a run

A run that fails at one of its sources has documented the ones before it, and
nothing else has become of the ones after it. What it has on record says so: the
pages of the sources before, one call for each of them, and one more if the
source itself could be read.

The disk says so too, if the highlighter leaves it alone. The step that failed
wrote no file, whatever the stage at which it did, so it made directories at most.
These can stand where a later page was to go, because a directory of one source
can have the name of the page of another.
-/

namespace Marginalia

open Marginalia.Disk (Updated)

namespace Disk

variable {disk : Disk}

theorem writeText_eq_error {path text : Text} {fault : Fault} {after : Disk}
    (h : disk.writeText path text = (.error fault, after)) :
    after = disk ∨ fault.isLate = true := by
  rw [writeText] at h
  split at h
  · rw [writeFile] at h
    split at h
    · rw [fillFile] at h
      split at h
      · cases h
      · cases h
        exact Or.inr rfl
    · next hopen =>
        cases h
        exact Or.inl (openFile_eq_error hopen)
  · split at h
    · cases h
      exact Or.inr rfl
    · next hopen =>
        cases h
        exact Or.inl (openFile_eq_error hopen)

/-- A text that cannot be written leaves directories above its file at most, and a beginning of
itself in the file if that was open. -/
theorem FailsToWrite.updated {path text : Text} {fault : Fault} {after : Disk}
    (h : disk.FailsToWrite path text fault after) (hfree : disk.LinkFree)
    (hname : Path.name path ≠ []) :
    Updated disk after (disk.placesAbove path) [] ∨
      ∃ part, fault.isLate = true ∧ part <+: Utf8.encode text ∧
        Updated disk after (disk.placesAbove path) [(disk.placeOf path, part)] := by
  have hdirs := (updated_makeDirs hfree (Path.directoryOf path)).mono
    (placesAlong_directoryOf disk hname)
  rcases h with hmade | ⟨above, hmade, hwritten⟩
  · rw [hmade] at hdirs
    exact Or.inl hdirs
  · rw [hmade] at hdirs
    rcases writeText_eq_error hwritten with rfl | hlate
    · exact Or.inl hdirs
    · rcases writeText_cases (hdirs.linkFree hfree) path text with
        hsame | ⟨part, hpart, _, hplace, hput⟩
      · rw [hwritten] at hsame
        obtain rfl : after = above := hsame
        exact Or.inl hdirs
      · rw [hwritten] at hput
        obtain ⟨_, hroom, hnode, _⟩ := filePlace_eq_ok (hdirs.linkFree hfree) hplace
        have hlast := hdirs.trans ((updated_put_file hroom.ne_nil hnode part).mono
          (List.nil_subset _))
        rw [← hput, List.nil_append, hdirs.placeOf_eq] at hlast
        exact Or.inr ⟨part, hlate, hpart, hlast⟩

end Disk

namespace Layout

theorem name_pagePath_ne_nil (layout : Layout) (source : Text) :
    Path.name (layout.pagePath source) ≠ [] := by
  obtain ⟨front, stem, hordinary, heq⟩ := layout.exists_pagePath_eq source
  rw [heq, Path.name_join_intercalate _ fun part hmem => (hordinary part hmem).isName]
  exact (hordinary _ (List.mem_append_right _ (List.mem_singleton_self _))).1

end Layout

namespace Generator

variable {generator : Generator} {before after : RunState} {failure : Failure}

/-- What is in the page of a source if its writing was broken off with a failure: a beginning
of the page that was made of the source on this disk. -/
def BreaksOff (generator : Generator) (disk : Disk) (cwd : Location) (sources : List Text)
    (source : Text) (failure : Failure) (part : Bytes) : Prop :=
  ∃ fault d html, fault.isLate = true ∧
    failure = writeFailure (generator.settings.layout.pagePath source) fault ∧
    generator.Documents disk source d ∧
    html = (Page.ofSource generator.settings.layout (Disk.pathOf cwd) source d.sections
      sources).render ∧
    Page.Shows generator.settings.layout (Disk.pathOf cwd) source d.sections sources html ∧
    part <+: Utf8.encode html

/-- A source that fails leaves directories, and at most its own page as a file. -/
theorem DocumentFails.updated (hkeeps : generator.highlighter.runner.KeepsDisk)
    (hfree : before.disk.LinkFree) {source : Text} {language : Language}
    (hlanguage : generator.registry.forPath source = some language)
    (h : generator.DocumentFails before source language failure after) :
    ∃ files, (∀ file ∈ files, files = [file] ∧
        file.1 = before.disk.placeOf (generator.settings.layout.pagePath source) ∧
        generator.BreaksOff before.disk before.disk.cwd before.context.sources source failure
          file.2) ∧
      Updated before.disk after.disk
        (before.disk.placesAbove (generator.settings.layout.pagePath source)) files := by
  cases h with
  | read hread => exact ⟨[], fun _ hnil => (by cases hnil), .refl before.disk _⟩
  | highlight hread htraced hresult =>
      rw [← htraced, Highlighter.disk_of_highlight hkeeps]
      exact ⟨[], fun _ hnil => (by cases hnil), .refl before.disk _⟩
  | @write _ _ _ fault _ _ hread htraced hresult hrefused =>
      rw [← htraced] at hresult
      rw [← htraced, Highlighter.disk_of_highlight hkeeps] at hrefused
      rcases hrefused.updated hfree (Layout.name_pagePath_ne_nil _ _) with
        hdirs | ⟨part, hlate, hpart, hfile⟩
      · exact ⟨[], fun _ hnil => (by cases hnil), hdirs⟩
      · refine ⟨_, fun file hmem => ?_, hfile⟩
        obtain rfl := List.mem_singleton.1 hmem
        obtain ⟨d, hd, rfl, _⟩ := exists_documents hfree hlanguage hread hresult
        exact ⟨rfl, rfl, fault, d, _, hlate, rfl, hd, rfl, hd.shows before.disk _, hpart⟩

/-! ## What is left behind -/

/-- After a failure, the page of a source holds what there is of it, made of the source as it
was when `first` had been documented. -/
def HoldsPart (generator : Generator) (before : RunState) (sources first : List Text)
    (source : Text) (failure : Failure) (after : Disk) : Prop :=
  ∃ now part, generator.ComesTo before sources first now ∧
    generator.BreaksOff now.disk before.disk.cwd sources source failure part ∧
    after.get? (before.disk.placeOf (generator.settings.layout.pagePath source)) =
      some (.file part)

/-- What a run leaves on a disk when it fails at `source` after it has documented
`first`: the stylesheet, for every page so far the last source that was written to
it, directories above what was to be written, where nothing was before, and of the
page of `source` what was written of it. -/
structure LeavesPrefix (generator : Generator) (before : RunState) (first : List Text)
    (source : Text) (rest : List Text) (failure : Failure) (after : Disk) : Prop where
  same : after = { before.disk with entries := after.entries }
  stylesheet : after.readFile generator.settings.layout.stylesheetPath =
    .ok (Utf8.encode (Stylesheet.text generator.colourRules))
  pages : ∀ earlier documented later, first = earlier ++ documented :: later →
    (∀ other ∈ later, generator.settings.layout.pagePath other ≠
      generator.settings.layout.pagePath documented) →
    generator.HoldsPage before (first ++ source :: rest) earlier documented after ∨
      generator.settings.layout.pagePath documented =
          generator.settings.layout.pagePath source ∧
        generator.HoldsPart before (first ++ source :: rest) first source failure after
  unwritten : ∀ other ∈ source :: rest,
    generator.settings.layout.pagePath other ∉ first.map generator.settings.layout.pagePath →
    let place := before.disk.placeOf (generator.settings.layout.pagePath other)
    after.get? place = before.disk.get? place ∨
      before.disk.get? place = none ∧ after.get? place = some .directory ∨
      generator.settings.layout.pagePath other = generator.settings.layout.pagePath source ∧
        generator.HoldsPart before (first ++ source :: rest) first source failure after
  others : ∀ place, place ∉ (generator.outputs first).map before.disk.placeOf →
    after.get? place = before.disk.get? place ∨
      place ∈ (generator.outputs (first ++ [source])).flatMap before.disk.placesAbove ∧
        before.disk.get? place = none ∧ after.get? place = some .directory ∨
      place = before.disk.placeOf (generator.settings.layout.pagePath source) ∧
        generator.HoldsPart before (first ++ source :: rest) first source failure after

theorem placeOf_mem_outputs {disk : Disk} {first : List Text} {source : Text}
    (h : disk.placeOf (generator.settings.layout.pagePath source) ∈
      (generator.outputs first).map disk.placeOf) :
    generator.settings.layout.pagePath source ∈
      first.map generator.settings.layout.pagePath := by
  obtain ⟨path, hpath, hplace⟩ := List.mem_map.1 h
  rcases List.mem_cons.1 hpath with rfl | hmem
  · exact absurd hplace.symm (Layout.placeOf_pagePath_ne disk generator.settings.layout source)
  · obtain ⟨other, hother, rfl⟩ := List.mem_map.1 hmem
    rw [← Layout.placeOf_pagePath_inj hplace]
    exact hmem

/-- How a run comes to fail at `source`: it is prepared, it documents `first`, and the last of
its changes are directories and what was written of the page of `source`. -/
structure StopsAt (generator : Generator) (before : RunState) (first : List Text)
    (source : Text) (rest : List Text) (failure : Failure) (styled now : RunState)
    (documented : List (Text × Documented)) (torn : List (Location × Bytes)) (after : Disk) :
    Prop where
  free : before.disk.LinkFree
  comesTo : generator.ComesTo before (first ++ source :: rest) first now
  prepares : generator.Prepares before (first ++ source :: rest) styled
  names : documented.map Prod.fst = first
  progress : generator.Progress styled documented now
  breaks : ∀ file ∈ torn, torn = [file] ∧
    file.1 = before.disk.placeOf (generator.settings.layout.pagePath source) ∧
    generator.BreaksOff now.disk before.disk.cwd (first ++ source :: rest) source failure file.2
  last : Updated now.disk after
    (before.disk.placesAbove (generator.settings.layout.pagePath source)) torn

theorem exists_stopsAt_of_fails (hkeeps : generator.highlighter.runner.KeepsDisk)
    {first rest : List Text} {source : Text} {now : RunState} {language : Language}
    (hfree : before.disk.LinkFree)
    (hsome : ∀ source ∈ before.context.sources, (generator.registry.forPath source).isSome)
    (hnow : generator.ComesTo before (first ++ source :: rest) first now)
    (hlanguage : generator.registry.forPath source = some language)
    (h : generator.DocumentFails now source language failure after) :
    ∃ styled documented torn,
      generator.StopsAt before first source rest failure styled now documented torn after.disk := by
  have hcomes := hnow
  obtain ⟨styled, pages, hprepares, hfirst⟩ := hnow
  obtain ⟨_, hstart⟩ := hprepares.updated hfree
  have hknown := hprepares.forPath_isSome hsome
  obtain ⟨_, documented, hnames, hprogress⟩ := progress_mapM_document hkeeps
    (hstart.linkFree hfree) (fun other hmem => hknown other (List.mem_append_left _ hmem)) hfirst
  have hpages := hprogress.updated
  obtain ⟨torn, htorn, hlast⟩ :=
    h.updated hkeeps (hpages.linkFree (hstart.linkFree hfree)) hlanguage
  have hsources : now.context.sources = first ++ source :: rest := by
    rw [hprogress.sources_eq, hprepares.state_eq.2.1, ← hprepares.state_eq.1]
  rw [hpages.cwd_eq, hstart.cwd_eq, hsources, hpages.placeOf_eq, hstart.placeOf_eq] at htorn
  rw [hpages.placesAbove_eq, hstart.placesAbove_eq] at hlast
  exact ⟨styled, documented, torn, hfree, hcomes, hprepares, hnames, hprogress, htorn, hlast⟩

namespace StopsAt

variable {first rest : List Text} {source : Text} {styled now : RunState}
  {documented : List (Text × Documented)} {torn : List (Location × Bytes)} {left : Disk}

theorem updated_styled
    (h : generator.StopsAt before first source rest failure styled now documented torn left) :
    Updated styled.disk left
      ((first.map generator.settings.layout.pagePath).flatMap before.disk.placesAbove ++
        before.disk.placesAbove (generator.settings.layout.pagePath source))
      (documented.map (generator.pageFile styled.disk styled.context.sources) ++ torn) := by
  have hpages := h.progress.updated
  rw [pagePaths_of_names h.names, funext (h.prepares.updated h.free).2.placesAbove_eq] at hpages
  exact (hpages.mono (List.subset_append_left _ _)).trans
    (h.last.mono (List.subset_append_right _ _))

/-- The whole run so far, with all directories that it can have made. -/
theorem updated
    (h : generator.StopsAt before first source rest failure styled now documented torn left) :
    Updated before.disk left
      ((generator.outputs (first ++ [source])).flatMap before.disk.placesAbove)
      ((before.disk.placeOf generator.settings.layout.stylesheetPath,
          Utf8.encode (Stylesheet.text generator.colourRules)) ::
        (documented.map (generator.pageFile styled.disk styled.context.sources) ++ torn)) := by
  have hdirs : before.disk.placesAbove generator.settings.layout.stylesheetPath ++
      ((first.map generator.settings.layout.pagePath).flatMap before.disk.placesAbove ++
        before.disk.placesAbove (generator.settings.layout.pagePath source)) =
      (generator.outputs (first ++ [source])).flatMap before.disk.placesAbove := by
    simp [outputs]
  have hwhole := ((h.prepares.updated h.free).2.mono (List.subset_append_left _ _)).trans
    (h.updated_styled.mono (List.subset_append_right _ _))
  rwa [hdirs, List.singleton_append] at hwhole

theorem holdsPart
    (h : generator.StopsAt before first source rest failure styled now documented torn left)
    (hne : torn ≠ []) :
    generator.HoldsPart before (first ++ source :: rest) first source failure left := by
  obtain ⟨file, hmem⟩ := List.exists_mem_of_ne_nil torn hne
  obtain ⟨hsingle, hplace, hbreaks⟩ := h.breaks file hmem
  refine ⟨now, file.2, h.comesTo, hbreaks, h.last.written _ _ ?_⟩
  rw [hsingle, ← hplace, Disk.lastWritten?_singleton, if_pos rfl]

theorem stylesheet
    (h : generator.StopsAt before first source rest failure styled now documented torn left) :
    left.readFile generator.settings.layout.stylesheetPath =
      .ok (Utf8.encode (Stylesheet.text generator.colourRules)) := by
  obtain ⟨hsheet, hstart⟩ := h.prepares.updated h.free
  refine h.updated.readFile_of_last h.free
    (hsheet.mono h.updated_styled.cwd_eq h.updated_styled.kept) (List.nil_append _).symm
    fun file hfile => ?_
  rcases List.mem_append.1 hfile with hfile | hfile
  · obtain ⟨entry, _, rfl⟩ := List.mem_map.1 hfile
    rw [pageFile_fst, hstart.placeOf_eq]
    exact Layout.placeOf_pagePath_ne before.disk generator.settings.layout entry.1
  · rw [(h.breaks file hfile).2.1]
    exact Layout.placeOf_pagePath_ne before.disk generator.settings.layout source

/-- The page of a source is as the pages so far left it, or it was written last. -/
theorem page
    (h : generator.StopsAt before first source rest failure styled now documented torn left)
    {earlier later : List Text} {other : Text} (hsplit : first = earlier ++ other :: later)
    (hlater : ∀ next ∈ later, generator.settings.layout.pagePath next ≠
      generator.settings.layout.pagePath other) :
    generator.HoldsPage before (first ++ source :: rest) earlier other left ∨
      generator.settings.layout.pagePath other = generator.settings.layout.pagePath source ∧
        generator.HoldsPart before (first ++ source :: rest) first source failure left := by
  by_cases hsame : generator.settings.layout.pagePath other =
      generator.settings.layout.pagePath source ∧ torn ≠ []
  · exact Or.inr ⟨hsame.1, h.holdsPart hsame.2⟩
  · refine Or.inl (h.progress.holdsPage h.prepares h.free (h.names.trans hsplit) hlater h.last
      fun file hfile hplace => hsame ?_)
    rw [(h.breaks file hfile).2.1] at hplace
    exact ⟨(Layout.placeOf_pagePath_inj hplace).symm, List.ne_nil_of_mem hfile⟩

theorem others
    (h : generator.StopsAt before first source rest failure styled now documented torn left)
    {place : Location} (houtputs : place ∉ (generator.outputs first).map before.disk.placeOf) :
    left.get? place = before.disk.get? place ∨
      place ∈ (generator.outputs (first ++ [source])).flatMap before.disk.placesAbove ∧
        before.disk.get? place = none ∧ left.get? place = some .directory ∨
      place = before.disk.placeOf (generator.settings.layout.pagePath source) ∧
        generator.HoldsPart before (first ++ source :: rest) first source failure left := by
  by_cases hmem : place ∈ torn.map Prod.fst
  · obtain ⟨file, hfile, rfl⟩ := List.mem_map.1 hmem
    exact Or.inr (Or.inr ⟨(h.breaks file hfile).2.1, h.holdsPart (List.ne_nil_of_mem hfile)⟩)
  · refine (h.updated.rest place (Disk.lastWritten?_eq_none fun file hfile hsame => ?_)).imp_right
      Or.inl
    rcases List.mem_cons.1 hfile with rfl | hfile
    · exact houtputs (List.mem_map.2 ⟨_, List.mem_cons_self .., hsame⟩)
    · rcases List.mem_append.1 hfile with hfile | hfile
      · obtain ⟨entry, hentry, rfl⟩ := List.mem_map.1 hfile
        rw [pageFile_fst, (h.prepares.updated h.free).2.placeOf_eq] at hsame
        refine houtputs ?_
        rw [← hsame, ← h.names]
        exact List.mem_map_of_mem
          (List.mem_cons_of_mem _ (List.mem_map_of_mem (List.mem_map_of_mem hentry)))
      · exact hmem (hsame ▸ List.mem_map_of_mem hfile)

theorem leavesPrefix
    (h : generator.StopsAt before first source rest failure styled now documented torn left) :
    generator.LeavesPrefix before first source rest failure left where
  same := h.updated.same
  stylesheet := h.stylesheet
  pages := fun _ _ _ hsplit hlater => h.page hsplit hlater
  unwritten := by
    intro other _ hpage
    rcases h.others fun hplace => hpage (placeOf_mem_outputs hplace) with
      hold | ⟨_, hmade⟩ | ⟨hplace, hpart⟩
    · exact Or.inl hold
    · exact Or.inr (Or.inl hmade)
    · exact Or.inr (Or.inr ⟨Layout.placeOf_pagePath_inj hplace, hpart⟩)
  others := fun _ houtputs => h.others houtputs

end StopsAt

/-! ## A directory in place of a page -/

def crossed : Generator where
  settings := { nested := true }
  highlighter := Highlighter.ofLines

/-- A source whose page has a longer name than a directory can hold. -/
def longSource : Text := "x.html/".toList ++ List.replicate 252 'y' ++ ".py".toList

def crossedSources : List Text := ["a.py".toList, longSource, "x.py".toList]

/-- The files of the sources, and these outputs. -/
def crossedDisk (outputs : List (Location × Node)) : Disk where
  entries := [(["a.py".toList], .file (Utf8.encode "#x\n".toList)),
    (["x.html".toList], .directory),
    (["x.html".toList, List.replicate 252 'y' ++ ".py".toList],
      .file (Utf8.encode "#x\n".toList)),
    (["x.py".toList], .file [])] ++ outputs

theorem linkFree_crossedDisk : (crossedDisk []).LinkFree :=
  Disk.linkFree_of_entries (by decide) rfl

/-- The output directory with a stylesheet and the page of the first source. -/
def crossedOutputs (css page : Bytes) : List (Location × Node) :=
  [(["docs".toList], .directory), (["docs".toList, "docco.css".toList], .file css),
    (["docs".toList, "a.html".toList], .file page)]

theorem forPath_crossed : ∀ source ∈ crossedSources,
    crossed.registry.forPath source = some Highlighter.firstStandard := by
  have hextension : ∀ source ∈ crossedSources, Path.extension source = ".py".toList := by
    decide +kernel
  exact fun source h => Registry.forPath_standard_of_py (hextension source h)

set_option maxRecDepth 20000 in
theorem collect_crossed : (Context.collect crossed.registry (crossedDisk [])
    { pending := crossedSources }).1 = { sources := crossedSources } := by
  have hfile : ∀ source ∈ crossedSources, (crossedDisk []).directoryAt? source = none := by
    simp only [crossedSources, List.forall_mem_cons]
    refine ⟨?_, ?_, ?_, List.forall_mem_nil _⟩ <;> cbv
  have hknown : ∀ source ∈ crossedSources, (crossed.registry.forPath source).isSome := by
    intro source h
    rw [forPath_crossed source h]
    rfl
  rw [Context.collect_of_files hfile hknown]
  rfl

def longPage : Text := "docs/x.html/".toList ++ List.replicate 252 'y' ++ ".html".toList

/-- What is left after the page of the long name was refused. -/
def crossedDiskLast (css page : Bytes) : Disk :=
  crossedDisk (crossedOutputs css page ++ [(["docs".toList, "x.html".toList], .directory)])

theorem pagePath_longSource : crossed.settings.layout.pagePath longSource = longPage := by
  decide +kernel

set_option maxRecDepth 20000 in
theorem failsToWrite_longPage (css page : Bytes) (text : Text) :
    (crossedDisk (crossedOutputs css page)).FailsToWrite longPage text
      (.refused .nameTooLong longPage) (crossedDiskLast css page) := by
  have hdirectory : Path.directoryOf longPage = "docs/x.html".toList := by decide +kernel
  have habove : Disk.splitLast "docs/x.html".toList = ("docs".toList, "x.html".toList) := by
    decide
  refine Or.inr ⟨crossedDiskLast css page, ?_, (Disk.writeText_of_strays rfl _ _).trans (by cbv)⟩
  rw [hdirectory, Disk.makeDirs_of_exists (by rw [habove]; cbv)]
  cbv

theorem readSource_crossed {disk : Disk} {source : Text}
    (h : disk.readFile source = .ok (Utf8.encode "#x\n".toList)) :
    crossed.readSource disk source = .ok "#x\n".toList := by
  have hcodec : crossed.highlighter.codecs crossed.settings.encoding =
      some Encoding.utf8.codec := Encoding.codec?_utf8
  have htext : Encoding.utf8.read (Utf8.encode "#x\n".toList) = .ok "#x\n".toList := by decide
  exact readSource_of_readFile h hcodec (Encoding.read_codec_eq_ok.2 htext)

theorem disk_of_highlight_crossed (disk : Disk) (language : Language) (sections : List Section) :
    (crossed.highlighter.highlight disk language sections).disk = disk :=
  Highlighter.disk_of_highlight (Runner.keepsDisk_ofReplies _) disk sections

set_option maxRecDepth 20000 in
theorem exists_prepares_crossed : ∃ styled css, crossed.Prepares
    { disk := crossedDisk [], context := { pending := crossedSources } } crossedSources styled ∧
      styled.disk = crossedDisk [(["docs".toList], .directory),
        (["docs".toList, "docco.css".toList], .file css)] := by
  obtain ⟨_, hcollect, notices, rfl⟩ := exists_gives_collect crossed
    { disk := crossedDisk [], context := { pending := crossedSources } }
  simp only [collect_crossed] at hcollect
  have hready : (crossedDisk []).makeDirs "docs".toList =
      (.ok (), crossedDisk [(["docs".toList], .directory)]) := by
    rw [makeDirs_docs]
    cbv
  have habove : (crossedDisk [(["docs".toList], .directory)]).makeDirs
      (Path.directoryOf crossed.settings.layout.stylesheetPath) =
        (.ok (), crossedDisk [(["docs".toList], .directory)]) := by
    have houtput : Path.directoryOf crossed.settings.layout.stylesheetPath = "docs".toList := by
      decide
    rw [houtput, makeDirs_docs]
    cbv
  have hstyled (css : Bytes) : (crossedDisk [(["docs".toList], .directory)]).writeFile
      crossed.settings.layout.stylesheetPath css =
        (.ok (), crossedDisk [(["docs".toList], .directory),
          (["docs".toList, "docco.css".toList], .file css)]) := by
    cbv
  exact ⟨_, _, ⟨_, _, hcollect, change_gives hready _, writeFile_gives habove
    ((Disk.writeText_of_strays rfl _ _).trans (hstyled _))⟩, rfl⟩

set_option maxRecDepth 20000 in
theorem exists_comesTo_crossed : ∃ now css page, crossed.ComesTo
    { disk := crossedDisk [], context := { pending := crossedSources } } crossedSources
      ["a.py".toList] now ∧ now.disk = crossedDisk (crossedOutputs css page) := by
  obtain ⟨styled, css, hprepares, hdisk⟩ := exists_prepares_crossed
  have hread : styled.disk.readFile "a.py".toList = .ok (Utf8.encode "#x\n".toList) := by
    rw [hdisk]
    cbv
  have hpage : crossed.settings.layout.pagePath "a.py".toList = "docs/a.html".toList := by decide
  have hmade : styled.disk.makeDirs (Path.directoryOf "docs/a.html".toList) =
      (.ok (), styled.disk) := by
    have houtput : Path.directoryOf "docs/a.html".toList = "docs".toList := by decide
    rw [houtput, makeDirs_docs, hdisk]
    cbv
  have hwritten (page : Text) : styled.disk.writeText "docs/a.html".toList page =
      (.ok (), crossedDisk (crossedOutputs css (Utf8.encode page))) := by
    rw [hdisk, Disk.writeText_of_strays rfl]
    cbv
  obtain ⟨sections, hresult⟩ :=
    Highlighter.exists_highlight_ofLines_eq_ok styled.disk "#x\n".toList
  obtain ⟨now, hgives, hnow, _⟩ := exists_gives_document
    (forPath_crossed _ (List.mem_cons_self ..)) (readSource_crossed hread) hresult
    (by rw [disk_of_highlight_crossed, hpage]; exact hmade) (by rw [hpage]; exact hwritten _)
  exact ⟨now, css, _, ⟨styled, _, hprepares,
    Step.gives_mapM_cons.2 ⟨_, now, [], hgives, Step.gives_pure.2 ⟨rfl, rfl⟩, rfl⟩⟩, hnow⟩

set_option maxRecDepth 20000 in
theorem exists_fails_crossed : ∃ now failure after css page, crossed.ComesTo
    { disk := crossedDisk [], context := { pending := crossedSources } } crossedSources
      ["a.py".toList] now ∧
    (crossed.document longSource).Fails now failure after ∧
    after.disk = crossedDiskLast css page := by
  obtain ⟨now, css, page, hnow, hdisk⟩ := exists_comesTo_crossed
  have hread : now.disk.readFile longSource = .ok (Utf8.encode "#x\n".toList) := by
    rw [hdisk]
    cbv
  obtain ⟨sections, hresult⟩ := Highlighter.exists_highlight_ofLines_eq_ok now.disk "#x\n".toList
  have hlong : longSource ∈ crossedSources :=
    List.mem_cons_of_mem _ (List.mem_cons_self ..)
  obtain ⟨after, hfails, hafter⟩ := exists_fails_document (forPath_crossed _ hlong)
    (readSource_crossed hread) hresult
    (by
      rw [disk_of_highlight_crossed, pagePath_longSource, hdisk]
      exact failsToWrite_longPage css page _)
  exact ⟨now, _, after, css, page, hnow, hfails, hafter⟩

/-! ## The whole run -/

/-- A run fails at `source` after it has documented `first`. -/
structure FailsFast (generator : Generator) (before : RunState) (first : List Text)
    (source : Text) (rest : List Text) (failure : Failure) (after : RunState) : Prop where
  written_eq : after.context.written = first.map generator.settings.layout.pagePath
  stage : ∃ now, generator.ComesTo before (first ++ source :: rest) first now ∧
    (generator.document source).Fails now failure after ∧
    ((generator.readSource now.disk source = .error failure ∨
          generator.FailsToSend now.disk source failure) ∧
        generator.CallsFor before (first ++ source :: rest) first after.calls ∨
      (∃ text, generator.readSource now.disk source = .ok text) ∧
        generator.CallsFor before (first ++ source :: rest) (first ++ [source]) after.calls)
  disk : generator.highlighter.runner.KeepsDisk → before.disk.LinkFree →
    generator.LeavesPrefix before first source rest failure after.disk

/-- A fresh run that fails does so before its first source, or it fails fast at
one of the sources that it collected. -/
theorem execute_failsFast
    (hsame : generator.highlighter.encoding = generator.settings.encoding) {disk : Disk}
    {inputs : List Text}
    (h : generator.execute.Fails { disk, context := { pending := inputs } } failure after) :
    generator.FailsToPrepare { disk, context := { pending := inputs } } failure after ∨
      ∃ first source rest,
        (Context.collect generator.registry disk { pending := inputs }).1.sources =
          first ++ source :: rest ∧
        generator.FailsFast { disk, context := { pending := inputs } } first source rest
          failure after := by
  rcases fails_execute h with hprepare | ⟨sources, first, source, rest, now, rfl, hnow, hfails⟩
  · exact Or.inl hprepare
  · obtain ⟨hwritten, hcalls⟩ := hnow.record rfl
    obtain ⟨styled, pages, hprepares, hfirst⟩ := hnow
    have hnow : generator.ComesTo _ _ first now := ⟨styled, pages, hprepares, hfirst⟩
    have hknown := hprepares.forPath_isSome fun _ hnil => by cases hnil
    obtain ⟨language, hlanguage⟩ := Option.isSome_iff_exists.1
      (hknown source (List.mem_append_right _ (List.mem_cons_self ..)))
    have hdocument := fails_document hlanguage hfails
    obtain ⟨hcontext, hstage⟩ := hdocument.record hsame hlanguage
    refine Or.inr ⟨first, source, rest, hprepares.state_eq.1.symm, ?_, ⟨now, hnow, hfails, ?_⟩,
      fun hkeeps hfree => ?_⟩
    · rw [hcontext, hwritten]
    · rcases hstage with ⟨hunsent, hsame⟩ | ⟨hread, call, hcall, hmore⟩
      · exact Or.inl ⟨hunsent, by rwa [hsame]⟩
      · exact Or.inr ⟨hread, by rw [hmore]; exact hcalls.concat hnow hcall⟩
    · obtain ⟨_, _, _, hstops⟩ :=
        exists_stopsAt_of_fails hkeeps hfree (fun _ hnil => by cases hnil) hnow hlanguage hdocument
      exact hstops.leavesPrefix

theorem execute_failsFast_crossed : ∃ failure after first source rest,
    crossed.execute.Fails { disk := crossedDisk [], context := { pending := crossedSources } }
      failure after ∧
    crossedSources = first ++ source :: rest ∧
    crossed.FailsFast { disk := crossedDisk [], context := { pending := crossedSources } }
      first source rest failure after ∧
    crossed.LeavesPrefix { disk := crossedDisk [], context := { pending := crossedSources } }
      first source rest failure after.disk := by
  obtain ⟨now, failure, after, _, _, hnow, hfails, _⟩ := exists_fails_crossed
  have h := execute_fails hnow rfl hfails
  rcases execute_failsFast rfl h with hprepare | ⟨first, source, rest, hsources, hfast⟩
  · obtain ⟨styled, _, hprepares, _⟩ := hnow
    exact absurd hprepare hprepares.not_fails
  · rw [collect_crossed] at hsources
    exact ⟨failure, after, first, source, rest, h, hsources, hfast,
      hfast.disk (Runner.keepsDisk_ofReplies _) linkFree_crossedDisk⟩

set_option maxRecDepth 20000 in
/-- When its second source fails, a run can have made a directory in the place of
a page that only its third source has. -/
theorem execute_makes_directory_of_page : ∃ now failure after,
    crossed.execute.Fails { disk := crossedDisk [], context := { pending := crossedSources } }
      failure after ∧
    crossed.ComesTo { disk := crossedDisk [], context := { pending := crossedSources } }
      (["a.py".toList] ++ longSource :: ["x.py".toList]) ["a.py".toList] now ∧
    (crossed.document longSource).Fails now failure after ∧
    let page := crossed.settings.layout.pagePath "x.py".toList
    let place := (crossedDisk []).placeOf page
    page ∉ ["a.py".toList].map crossed.settings.layout.pagePath ∧
      (crossedDisk []).get? place = none ∧ after.disk.get? place = some .directory := by
  obtain ⟨now, failure, after, css, page, hnow, hfails, hdisk⟩ := exists_fails_crossed
  have hplace : (crossedDisk []).placeOf (crossed.settings.layout.pagePath "x.py".toList) =
      ["docs".toList, "x.html".toList] := by decide
  refine ⟨now, failure, after, execute_fails hnow rfl hfails, hnow, hfails, by decide, ?_, ?_⟩
  · rw [hplace]
    cbv
  · rw [hplace, hdisk]
    cbv

end Generator
end Marginalia
