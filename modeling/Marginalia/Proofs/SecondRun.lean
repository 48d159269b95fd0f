import Marginalia.Proofs.SettledDisks

/-!
# Running again

A run that has succeeded can be repeated, also where its output directory lies among
the documented ones: a fresh run from the same inputs finds the same sources, in the
same order and under the same paths, and on the disk that the first run has settled
it changes nothing.

There is one exception. An output directory can have the name of a source, and then
the second traversal must see that it is a directory. If the traversal comes to it
under a path that is too long for the system, it takes it for a source that cannot be
read. Nothing else can keep the second run from its result.
-/

namespace Marginalia

open Marginalia.Disk (names Updated)
open Marginalia.Path (IsOrdinary)
open Marginalia.Step (gives_mapM_cons gives_pure)

namespace Generator

variable {generator : Generator}

/-! ## What a run says about the traversals before and after it -/

/-- A run that has succeeded leaves a disk that can be traversed again. -/
theorem outgrows_execute {reply : List Text → Bytes → Except RunnerFault Reply}
    (hreply : generator.highlighter.runner = .ofReplies reply) {before after : RunState}
    {result : RunResult} (hfree : before.disk.LinkFree) (hwell : before.disk.WellFormed)
    (hsome : ∀ source ∈ before.context.sources, (generator.registry.forPath source).isSome)
    (h : generator.execute.Gives before result after) :
    Outgrows generator.registry before.disk after.disk := by
  have hkeeps : generator.highlighter.runner.KeepsDisk := hreply ▸ Runner.keepsDisk_ofReplies reply
  obtain ⟨_, _, documented, hnames, _, _, hnone, hdone⟩ := settled_execute hreply h hfree hsome
  obtain ⟨dirs, files, hupdated, hfiles⟩ : ∃ dirs files,
      Updated before.disk after.disk dirs files ∧ ∀ file ∈ files,
        ∃ path ∈ generator.outputs (documented.map Prod.fst),
          file.1 = before.disk.placeOf path := by
    by_cases hempty : (before.context.collect generator.registry before.disk).1.sources = []
    · rw [hnone hempty]
      exact ⟨[], [], .refl _ _, fun _ hnil => by cases hnil⟩
    · obtain ⟨_, _, hupdated⟩ := hdone hempty
      refine ⟨_, _, hupdated, fun file hfile => ?_⟩
      obtain ⟨path, hpath, heq⟩ := List.mem_map.1 (map_fst_files before.disk documented ▸
        List.mem_map_of_mem hfile)
      exact ⟨path, hpath, heq.symm⟩
  refine ⟨hfree, hwell, hupdated.cwd_eq, Step.Gives.leaves h (execute_grows hkeeps hfree hwell),
    hupdated.kept, fun place hold hnode => ?_, fun path content hnew hfile => ?_⟩
  · rcases hupdated.get?_of_directory hnode with hvacant | hdirectory
    · rw [Disk.holds, hvacant] at hold
      cases hold
    · exact hdirectory
  · cases hlanguage : generator.registry.forPath path with
    | none => rfl
    | some language =>
        -- the file was there before, because no output has the place of a source
        have hother : ∀ file ∈ files, file.1 ≠ before.disk.placeOf path := by
          intro file hmem
          obtain ⟨output, houtput, heq⟩ := hfiles file hmem
          rw [heq]
          exact placeOf_ne_of_mem_outputs (by rw [hlanguage]; rfl) before.disk houtput
        rw [Disk.knows, Disk.holds_of_get? (hupdated.get?_of_file hfile hother)] at hnew
        cases hnew

/-- A run that gives a result has come to no directory that it takes for a source. -/
theorem unhindered_of_execute {reply : List Text → Bytes → Except RunnerFault Reply}
    (hreply : generator.highlighter.runner = .ofReplies reply) {before after : RunState}
    {result : RunResult} (h : generator.execute.Gives before result after)
    (hfree : before.disk.LinkFree)
    (hsome : ∀ source ∈ before.context.sources, (generator.registry.forPath source).isSome)
    {taken : List Text} {final : Context}
    (htakes : Context.Takes generator.registry before.disk before.context taken final)
    {path : Text} (hmem : path ∈ taken) (hknown : (generator.registry.forPath path).isSome) :
    before.disk.Unhindered path := by
  intro place hfinds
  cases hplace : before.disk.directoryAt? path with
  | some found =>
      rw [(Disk.findsDirectory_of_directoryAt? hplace).eq_placeOf hfree, hfinds.eq_placeOf hfree]
  | none =>
      obtain ⟨_, _, documented, hnames, hdocuments, _⟩ := documents_execute hreply hfree hsome h
      have hsource : path ∈ documented.map Prod.fst := by
        rw [hnames, htakes.collect_eq, htakes.final_eq]
        refine List.mem_append_right _ (List.mem_filter.2 ⟨hmem, ?_⟩)
        rw [Context.isSource, hplace, hknown]
        rfl
      obtain ⟨entry, hentry, rfl⟩ := List.mem_map.1 hsource
      have hfile := (hdocuments entry hentry).content_eq
      rw [← hfinds.eq_placeOf hfree, hfinds.2.2.2] at hfile
      cases hfile

/-! ## An output directory with the name of a source -/

def namedLikeSource : Generator where
  settings := { outputDir := "docs.py".toList }
  highlighter := Highlighter.ofLines

/-- One source, and these outputs. -/
def oneSource (outputs : List (Location × Node)) : Disk where
  entries := (["a.py".toList], .file (Utf8.encode "#x\n".toList)) :: outputs

def styledOutputs (css : Bytes) (pages : List (Location × Node)) : List (Location × Node) :=
  (["docs.py".toList], .directory) :: (["docs.py".toList, "docco.css".toList], .file css) :: pages

def onePage (page : Bytes) : List (Location × Node) :=
  [(["docs.py".toList, "a.html".toList], .file page)]

/-- The current directory, under a path with this many slashes. -/
def slashed (count : Nat) : Text :=
  '.' :: List.replicate count '/'

theorem slashed_succ (count : Nat) : slashed (count + 1) = slashed count ++ ['/'] := by
  rw [slashed, slashed, List.replicate_succ', List.cons_append]

theorem join_slashed {name : Text} (h : Path.isAbsolute name = false) (count : Nat) :
    Path.join (slashed (count + 1)) name = slashed (count + 1) ++ name := by
  rw [Path.join, if_neg (by simp [h]), if_pos]
  rw [slashed_succ, List.getLast?_concat]
  simp

theorem names_slashed (count : Nat) : names (slashed count) = [['.']] := by
  induction count with
  | zero => decide
  | succ count ih => rw [slashed_succ, Path.names_concat, ih]

theorem length_encode_slashed (count : Nat) :
    (Utf8.encode (slashed count)).length = count + 1 := by
  induction count with
  | zero => decide
  | succ count ih =>
      rw [Utf8.encode] at ih ⊢
      rw [slashed_succ, List.flatMap_append, List.length_append, ih]
      rfl

theorem isLongPath_slashed (count : Nat) (name : Text) :
    Disk.isLongPath (slashed count ++ name) =
      decide (4096 ≤ count + 1 + (Utf8.encode name).length) := by
  rw [Disk.isLongPath, ← length_encode_slashed count, Utf8.encode, Utf8.encode, Utf8.encode,
    List.flatMap_append, List.length_append]

theorem directoryAt?_slashed {disk : Disk} (hfree : disk.LinkFree) (hcwd : disk.cwd = [])
    {count : Nat} (hcount : count < 4094) : disk.directoryAt? (slashed (count + 1)) = some [] := by
  have hstart : disk.start (slashed (count + 1)) = [] := by
    rw [Disk.start, hcwd]
    rfl
  have hplace : disk.placeOf (slashed (count + 1)) = [] := by
    rw [Disk.placeOf, hstart, names_slashed]
    rfl
  have hsteps : Disk.steps (slashed (count + 1)) = [['.'], ['.']] := by
    rw [Disk.steps, names_slashed, Disk.endsInSlash, slashed_succ, List.getLast?_concat]
    rfl
  have hshort : Disk.isLongPath (slashed (count + 1)) = false := by
    have hlong := isLongPath_slashed (count + 1) []
    have hlength : (Utf8.encode []).length = 0 := rfl
    rw [List.append_nil] at hlong
    rw [hlong, decide_eq_false_iff_not]
    omega
  refine (Disk.directoryAt?_eq_some hfree).2 ⟨⟨?_, List.cons_ne_nil _ _, hshort, ?_, ?_⟩,
    hplace.symm, rfl⟩
  · simp [Disk.hasNull_eq_false, slashed, List.mem_replicate]
  · rw [hsteps]
    decide
  · rw [hsteps, hstart]
    exact .cons rfl (.cons rfl .nil)

theorem linkFree_oneSource {outputs : List (Location × Node)}
    (h : ∀ entry ∈ outputs, entry.2.isLink = false) : (oneSource outputs).LinkFree :=
  Disk.linkFree_of_entries (List.forall_mem_cons.2 ⟨rfl, h⟩) rfl

theorem linkFree_oneSource_nil : (oneSource []).LinkFree :=
  linkFree_oneSource fun _ hnil => by cases hnil

theorem linkFree_styledOutputs (css : Bytes) {pages : List (Location × Node)}
    (h : ∀ entry ∈ pages, entry.2.isLink = false) :
    (oneSource (styledOutputs css pages)).LinkFree :=
  linkFree_oneSource (List.forall_mem_cons.2 ⟨rfl, List.forall_mem_cons.2 ⟨rfl, h⟩⟩)

theorem linkFree_onePage (css page : Bytes) :
    (oneSource (styledOutputs css (onePage page))).LinkFree :=
  linkFree_styledOutputs css (List.forall_mem_singleton.2 rfl)

theorem wellFormed_oneSource : (oneSource []).WellFormed where
  named := by decide
  rooted := by decide

theorem exists?_slashed {count : Nat} (hcount : count < 4094) :
    ∀ path ∈ [slashed (count + 1)], (oneSource []).exists? path = true :=
  List.forall_mem_singleton.2
    (Disk.exists?_of_directoryAt? (directoryAt?_slashed linkFree_oneSource_nil rfl hcount))

/-- The source, under the path that a run from the current directory takes it by. -/
def slashedSource (count : Nat) : Text :=
  Path.join (slashed (count + 1)) "a.py".toList

theorem name_slashedSource (count : Nat) : Path.name (slashedSource count) = "a.py".toList :=
  Path.name_join (by decide) _

theorem forPath_slashedSource (count : Nat) :
    namedLikeSource.registry.forPath (slashedSource count) = some Highlighter.firstStandard := by
  refine Registry.forPath_standard_of_py ?_
  rw [Path.extension, name_slashedSource]
  decide

theorem pagePath_slashedSource (count : Nat) :
    namedLikeSource.settings.layout.pagePath (slashedSource count) = "docs.py/a.html".toList := by
  have hflat : namedLikeSource.settings.layout.nested = false := rfl
  rw [Layout.pagePath, hflat]
  simp only [Bool.false_eq_true, if_false, name_slashedSource]
  decide

theorem reaches_slashedSource {outputs : List (Location × Node)} {count : Nat}
    (hfree : (oneSource outputs).LinkFree) (hcount : count < 4090) :
    (oneSource outputs).Reaches (slashedSource count) := by
  refine .join hfree (directoryAt?_slashed hfree rfl (by omega)) (by decide) (by decide)
    (by decide) ?_
  rw [join_slashed (by decide), isLongPath_slashed, decide_eq_false_iff_not]
  have hlength : (Utf8.encode "a.py".toList).length = 4 := by decide
  omega

theorem placeOf_slashedSource (outputs : List (Location × Node)) {count : Nat} :
    (oneSource outputs).placeOf (slashedSource count) = ["a.py".toList] := by
  rw [slashedSource, Disk.placeOf_join_name (by decide), Disk.placeOf, names_slashed]
  rfl

theorem collect_slashed {count : Nat} (hcount : count < 4090) :
    (Context.collect namedLikeSource.registry (oneSource [])
      { pending := [slashed (count + 1)] }).1.sources = [slashedSource count] := by
  have hfree := linkFree_oneSource_nil
  have hdirectory := directoryAt?_slashed hfree rfl (show count < 4094 by omega)
  have hfile : (oneSource []).directoryAt? (slashedSource count) = none := by
    rw [Option.eq_none_iff_forall_ne_some]
    intro place hplace
    obtain ⟨_, rfl, hnode⟩ := (Disk.directoryAt?_eq_some hfree).1 hplace
    rw [placeOf_slashedSource] at hnode
    cases hnode
  have hnames : (oneSource []).children [] = ["a.py".toList].mergeSort Text.isLe := rfl
  have hchildren : ((oneSource []).children []).map (Path.join (slashed (count + 1))) =
      [slashedSource count] := by
    rw [hnames, List.mergeSort_singleton]
    rfl
  have htakes : Context.Takes namedLikeSource.registry (oneSource [])
      { pending := [slashed (count + 1)] } [slashed (count + 1), slashedSource count]
      { expanded := [[]], sources := [slashedSource count] } := by
    refine .next rfl ?_
    rw [Context.visit_directory _ hdirectory List.not_mem_nil, hchildren]
    refine .next rfl ?_
    rw [Context.visit_source hfile (forPath_slashedSource count)]
    exact .done rfl
  rw [htakes.collect_eq]

theorem exists_gives_documents_slashed {count : Nat} (hcount : count < 4090) (before : RunState)
    {css : Bytes} (hdisk : before.disk = oneSource (styledOutputs css [])) :
    ∃ pages page after,
      ([slashedSource count].mapM namedLikeSource.document).Gives before pages after ∧
      after.disk = oneSource (styledOutputs css (onePage page)) := by
  have hfree : (oneSource (styledOutputs css [])).LinkFree :=
    linkFree_styledOutputs css fun _ hnil => by cases hnil
  have hread : (oneSource (styledOutputs css [])).readFile (slashedSource count) =
      .ok (Utf8.encode "#x\n".toList) := by
    refine (Disk.readFile_iff hfree).2 ⟨reaches_slashedSource hfree hcount, ?_⟩
    rw [placeOf_slashedSource]
    rfl
  have hcodec : namedLikeSource.highlighter.codecs namedLikeSource.settings.encoding =
      some Encoding.utf8.codec := Encoding.codec?_utf8
  have htext : Encoding.utf8.read (Utf8.encode "#x\n".toList) = .ok "#x\n".toList := by decide
  have hmade : (oneSource (styledOutputs css [])).makeDirs
      (Path.directoryOf "docs.py/a.html".toList) = (.ok (), oneSource (styledOutputs css [])) := by
    have houtput : Path.directoryOf "docs.py/a.html".toList = "docs.py".toList := by decide
    rw [houtput, Disk.makeDirs_of_splitLast (by decide)]
    cbv
  have hwrite (page : Bytes) : (oneSource (styledOutputs css [])).writeFile
      "docs.py/a.html".toList page = (.ok (), oneSource (styledOutputs css (onePage page))) := by
    cbv
  obtain ⟨page, after, hgives, hafter⟩ := exists_gives_document_ofLines rfl
    (forPath_slashedSource count)
    (readSource_of_readFile (hdisk ▸ hread) hcodec (Encoding.read_codec_eq_ok.2 htext))
    (pagePath_slashedSource count) (hdisk ▸ rfl) (hdisk ▸ hmade) (hdisk ▸ hwrite)
  exact ⟨_, page, after, gives_mapM_cons.2 ⟨_, after, [], hgives, gives_pure.2 ⟨rfl, rfl⟩, rfl⟩,
    hafter⟩

theorem exists_gives_execute_slashed {count : Nat} (hcount : count < 4090) :
    ∃ css page result state, namedLikeSource.execute.Gives
        { disk := oneSource [], context := { pending := [slashed (count + 1)] } } result state ∧
      state.disk = oneSource (styledOutputs css (onePage page)) := by
  obtain ⟨_, hcollect, notices, rfl⟩ := exists_gives_collect namedLikeSource
    { disk := oneSource [], context := { pending := [slashed (count + 1)] } }
  simp only [collect_slashed hcount] at hcollect
  have hready : (oneSource []).makeDirs "docs.py".toList =
      (.ok (), oneSource [(["docs.py".toList], .directory)]) := by
    rw [Disk.makeDirs_of_splitLast (by decide)]
    cbv
  have habove : (oneSource [(["docs.py".toList], .directory)]).makeDirs
      (Path.directoryOf namedLikeSource.settings.layout.stylesheetPath) =
        (.ok (), oneSource [(["docs.py".toList], .directory)]) := by
    have houtput : Path.directoryOf namedLikeSource.settings.layout.stylesheetPath =
        "docs.py".toList := by
      decide
    rw [houtput, Disk.makeDirs_of_splitLast (by decide)]
    cbv
  have hstyled (css : Bytes) : (oneSource [(["docs.py".toList], .directory)]).writeFile
      namedLikeSource.settings.layout.stylesheetPath css =
        (.ok (), oneSource (styledOutputs css [])) := by
    cbv
  obtain ⟨pages, page, documented, hpages, hdisk⟩ := exists_gives_documents_slashed hcount
    { disk := oneSource (styledOutputs (Utf8.encode (Stylesheet.text [])) [])
      context := (Context.collect namedLikeSource.registry (oneSource [])
        { pending := [slashed (count + 1)] }).1
      notices } rfl
  obtain ⟨after, hafter, _, rfl⟩ := exists_gives_execute hcollect (List.cons_ne_nil _ _)
    (change_gives hready _)
    (writeFile_gives habove ((Disk.writeText_of_strays rfl _ _).trans (hstyled _))) hpages
  exact ⟨_, page, _, _, hafter, hdisk⟩

/-- What the second run takes from the current directory. -/
def pathsAgain : List Text :=
  ["./".toList, "./a.py".toList, "./docs.py".toList, "./docs.py/a.html".toList,
    "./docs.py/docco.css".toList]

theorem takes_pathsAgain (css page : Bytes) :
    Context.Takes namedLikeSource.registry (oneSource (styledOutputs css (onePage page)))
      { pending := [slashed 1] } pathsAgain
      { expanded := [[], ["docs.py".toList]]
        sources := ["./a.py".toList]
        skipped := ["./docs.py/a.html".toList, "./docs.py/docco.css".toList] } := by
  have hroot : (oneSource (styledOutputs css (onePage page))).directoryAt? "./".toList =
      some [] := by
    cbv
  have hsource : (oneSource (styledOutputs css (onePage page))).directoryAt? "./a.py".toList =
      none := by
    cbv
  have houtput : (oneSource (styledOutputs css (onePage page))).directoryAt? "./docs.py".toList =
      some ["docs.py".toList] := by
    cbv
  have hpage : (oneSource (styledOutputs css (onePage page))).directoryAt?
      "./docs.py/a.html".toList = none := by
    cbv
  have hstylesheet : (oneSource (styledOutputs css (onePage page))).directoryAt?
      "./docs.py/docco.css".toList = none := by
    cbv
  have hsources : ((oneSource (styledOutputs css (onePage page))).children []).map
      (Path.join "./".toList) = ["./a.py".toList, "./docs.py".toList] := by
    have hnames : (oneSource (styledOutputs css (onePage page))).children [] =
        ["a.py".toList, "docs.py".toList].mergeSort Text.isLe := rfl
    have hsorted : ["a.py".toList, "docs.py".toList].mergeSort Text.isLe =
        ["a.py".toList, "docs.py".toList] := by
      simp [List.mergeSort, List.MergeSort.Internal.splitInTwo, Text.isLe]
    rw [hnames, hsorted]
    decide
  have houtputs : ((oneSource (styledOutputs css (onePage page))).children
      ["docs.py".toList]).map (Path.join "./docs.py".toList) =
        ["./docs.py/a.html".toList, "./docs.py/docco.css".toList] := by
    have hnames : (oneSource (styledOutputs css (onePage page))).children ["docs.py".toList] =
        ["docco.css".toList, "a.html".toList].mergeSort Text.isLe := rfl
    have hsorted : ["docco.css".toList, "a.html".toList].mergeSort Text.isLe =
        ["a.html".toList, "docco.css".toList] := by
      simp [List.mergeSort, List.MergeSort.Internal.splitInTwo, Text.isLe]
    rw [hnames, hsorted]
    decide
  have hpath : "./a.py".toList = slashedSource 0 := by decide
  have hknown : namedLikeSource.registry.forPath "./a.py".toList =
      some Highlighter.firstStandard := by
    rw [hpath, forPath_slashedSource]
  have hpageUnknown : namedLikeSource.registry.forPath "./docs.py/a.html".toList = none :=
    Registry.lookup_standard_eq_none _ (.inr (.inl (by decide)))
  have hstylesheetUnknown : namedLikeSource.registry.forPath "./docs.py/docco.css".toList = none :=
    Registry.lookup_standard_eq_none _ (.inr (.inr (by decide)))
  refine .next rfl ?_
  rw [Context.visit_directory _ hroot List.not_mem_nil, hsources]
  refine .next rfl ?_
  rw [Context.visit_source hsource hknown]
  refine .next rfl ?_
  rw [Context.visit_directory _ houtput (by decide), houtputs]
  refine .next rfl ?_
  rw [Context.visit_skipped hpage hpageUnknown]
  refine .next rfl ?_
  rw [Context.visit_skipped hstylesheet hstylesheetUnknown]
  exact .done rfl

theorem unhindered_pathsAgain (css page : Bytes) :
    ∀ path ∈ pathsAgain, (oneSource (styledOutputs css (onePage page))).Unhindered path := by
  have hresolve : pathsAgain.map (fun path =>
      ((oneSource (styledOutputs css (onePage page))).resolve path).isOk) =
        List.replicate 5 true := by
    cbv
  intro path hmem
  exact Disk.unhindered_of_isOk (List.eq_of_mem_replicate (hresolve ▸ List.mem_map_of_mem hmem))

theorem not_unhindered_slashed (css page : Bytes) :
    ¬ (oneSource (styledOutputs css (onePage page))).Unhindered
      (Path.join (slashed 4090) "docs.py".toList) := by
  have hfree := linkFree_onePage css page
  have hdirectory := directoryAt?_slashed hfree rfl (show 4089 < 4094 by decide)
  have hfinds : (oneSource (styledOutputs css (onePage page))).FindsDirectory
      (Path.join (slashed 4090) "docs.py".toList) ["docs.py".toList] :=
    (Disk.findsDirectory_join (by decide) (by decide)
      (Disk.findsDirectory_of_directoryAt? hdirectory)).2
      ⟨.down rfl (by decide) (by decide) (hfree.unlinked _) .stop, rfl⟩
  have hlong : Disk.isLongPath (Path.join (slashed 4090) "docs.py".toList) = true := by
    rw [join_slashed (by decide), isLongPath_slashed, decide_eq_true_iff]
    have hlength : (Utf8.encode "docs.py".toList).length = 7 := by decide
    omega
  intro hclear
  obtain ⟨hreaches, _⟩ := (Disk.directoryAt?_eq_some hfree).1 (hclear _ hfinds)
  rw [hreaches.short] at hlong
  cases hlong

/-! ## Both runs -/

/-- A run that has succeeded can be repeated: on the disk that it leaves, a fresh run from
the same inputs gives the same sources, pages and calls, and in the end every file and
directory is what it was. The inputs must all have been there, and the disk must take all
that is written. The second run is kept from its result exactly if a limit keeps its
traversal from seeing that a path with a registered extension leads to a directory. -/
theorem execute_again {reply : List Text → Bytes → Except RunnerFault Reply}
    (hreply : generator.highlighter.runner = .ofReplies reply) {disk : Disk} {inputs : List Text}
    {result : RunResult} {state : RunState} (hfree : disk.LinkFree) (hwell : disk.WellFormed)
    (htakes : disk.TakesAll) (hinputs : ∀ path ∈ inputs, disk.exists? path = true)
    (h : generator.execute.Gives { disk, context := { pending := inputs } } result state) :
    (∀ taken final,
      Context.Takes generator.registry state.disk { pending := inputs } taken final →
        ∀ path ∈ taken, (generator.registry.forPath path).isSome → state.disk.Unhindered path) ↔
    ∃ again after,
      generator.execute.Gives { disk := state.disk, context := { pending := inputs } } again after ∧
      again.sources = result.sources ∧ again.pages = result.pages ∧ after.calls = state.calls ∧
      after.disk = { state.disk with entries := after.disk.entries } ∧
      ∀ place, after.disk.get? place = state.disk.get? place := by
  have hfresh : ∀ source ∈ ({ pending := inputs } : Context).sources,
      (generator.registry.forPath source).isSome := fun _ hnil => by cases hnil
  have houtgrows := outgrows_execute hreply hfree hwell hfresh h
  refine ⟨fun hclear => ?_, fun ⟨again, after, hagain, _⟩ taken final htakes path hmem hknown =>
    unhindered_of_execute hreply hagain houtgrows.grows.linkFree hfresh htakes hmem hknown⟩
  obtain ⟨hsources, hpages, documented, hnames, hdocuments, hcalls, hnone, hdone⟩ :=
    settled_execute hreply h hfree hfresh
  have hsame := Context.sources_collect_eq houtgrows hinputs hclear
  by_cases hempty : (Context.collect generator.registry disk { pending := inputs }).1.sources = []
  · have hdisk : state.disk = disk := hnone hempty
    exact ⟨result, state, by rw [hdisk]; exact h, rfl, rfl, rfl, rfl, fun _ => rfl⟩
  · obtain ⟨hdir, hsettled, hupdated⟩ := hdone hempty
    have hsettled := hsettled htakes
    have hdocumented : ∀ entry ∈ documented,
        generator.Documents state.disk entry.1 entry.2 := fun entry hmem =>
      (hdocuments entry hmem).of_replies hreply
        ((Disk.readFile_iff hsettled.linkFree).1 (hsettled.sources entry hmem)).2
    obtain ⟨again, after, hagain⟩ : ∃ again after, generator.execute.Gives
        { disk := state.disk, context := { pending := inputs } } again after :=
      Settled.exists_gives_execute hreply hsettled hdocumented (hsame.trans hnames.symm)
        (hnames ▸ hempty) hdir
    obtain ⟨hsources', hpages', _⟩ := settled_execute hreply hagain hsettled.linkFree hfresh
    obtain ⟨hcalls', hunchanged⟩ := Settled.unchanged_of_execute hreply hagain hsettled
      hdocumented hfresh (hsame.trans hnames.symm) (hnames ▸ hempty) hupdated
    exact ⟨again, after, hagain, hsources'.trans (hsame.trans hsources.symm),
      hpages'.trans ((congrArg _ hsame).trans hpages.symm), hcalls'.trans hcalls.symm, hunchanged⟩

/-- From the current directory, the second run passes over the outputs of the first. -/
theorem execute_again_slashed : ∃ result state again after,
    namedLikeSource.execute.Gives { disk := oneSource [], context := { pending := [slashed 1] } }
      result state ∧
    namedLikeSource.execute.Gives { disk := state.disk, context := { pending := [slashed 1] } }
      again after ∧
    again.sources = result.sources ∧ after.calls = state.calls ∧
    ∀ place, after.disk.get? place = state.disk.get? place := by
  obtain ⟨css, page, result, state, h, hdisk⟩ :=
    exists_gives_execute_slashed (show 0 < 4090 by decide)
  have hreply : namedLikeSource.highlighter.runner = .ofReplies _ := rfl
  have hinputs := exists?_slashed (show 0 < 4094 by decide)
  have hagain := execute_again hreply linkFree_oneSource_nil wellFormed_oneSource
    (fun _ _ _ => rfl) hinputs h
  obtain ⟨again, after, hagain, hsources, _, hcalls, _, hplaces⟩ :=
    hagain.1 fun taken final htakes => by
      rw [hdisk] at htakes ⊢
      obtain rfl : taken = pathsAgain := htakes.unique (takes_pathsAgain css page)
      exact fun path hmem _ => unhindered_pathsAgain css page path hmem
  exact ⟨result, state, again, after, h, hagain, hsources, hcalls, hplaces⟩

/-- Under a path with very many slashes, the output directory is taken for a source. -/
theorem not_execute_again_slashed :
    (∃ reply, namedLikeSource.highlighter.runner = .ofReplies reply) ∧
    (oneSource []).LinkFree ∧ (oneSource []).WellFormed ∧ (oneSource []).TakesAll ∧
    (∀ path ∈ [slashed 4090], (oneSource []).exists? path = true) ∧
    ∃ result state,
      namedLikeSource.execute.Gives
        { disk := oneSource [], context := { pending := [slashed 4090] } } result state ∧
      ∀ again after, ¬ namedLikeSource.execute.Gives
        { disk := state.disk, context := { pending := [slashed 4090] } } again after := by
  have hreply : namedLikeSource.highlighter.runner = .ofReplies _ := rfl
  obtain ⟨css, page, result, state, h, hdisk⟩ :=
    exists_gives_execute_slashed (show 4089 < 4090 by decide)
  refine ⟨⟨_, hreply⟩, linkFree_oneSource_nil, wellFormed_oneSource, fun _ _ _ => rfl,
    exists?_slashed (by decide), result, state, h,
    fun again after hagain => not_unhindered_slashed css page ?_⟩
  have hstyled := linkFree_onePage css page
  obtain ⟨taken, htakes⟩ := Context.exists_takes namedLikeSource.registry
    (oneSource (styledOutputs css (onePage page))) { pending := [slashed 4090] }
  have hmem : Path.join (slashed 4090) "docs.py".toList ∈ taken :=
    htakes.join_mem_taken rfl (directoryAt?_slashed hstyled rfl (by decide)) List.not_mem_nil
      (Disk.mem_children.2 rfl)
  have hknown : namedLikeSource.registry.forPath (Path.join (slashed 4090) "docs.py".toList) =
      some Highlighter.firstStandard := by
    refine Registry.forPath_standard_of_py ?_
    rw [Path.extension, Path.name_join (by decide)]
    decide
  rw [← hdisk] at htakes hstyled ⊢
  exact unhindered_of_execute hreply hagain hstyled (fun _ hnil => by cases hnil) htakes hmem
    (by rw [hknown]; rfl)

end Generator
end Marginalia
