import Marginalia.Proofs.PageLinks
import Marginalia.Proofs.RunEffect

/-!
# Sources that share a page

A page is named after its source without the extension and, in a flat layout,
without the directories. So two sources can have one page, and then the page of
the first is gone when that of the second is written. The result does not show
it: it still names one page for each source. What the file at a page holds is
the last source of that page, and a menu leads from each page to all of them.
-/

namespace Marginalia

/-- A list with an element of some kind has a last one of that kind. -/
theorem exists_last_of_mem {α : Type} {p : α → Prop} {xs : List α} {x : α} (hmem : x ∈ xs)
    (hx : p x) : ∃ earlier last later, xs = earlier ++ last :: later ∧ p last ∧
      ∀ other ∈ later, ¬p other := by
  induction xs using List.reverseRecOn with
  | nil => cases hmem
  | append_singleton xs final ih =>
      by_cases hend : p final
      · exact ⟨xs, final, [], rfl, hend, fun other hnil => by cases hnil⟩
      · have hfront : x ∈ xs := by
          rcases List.mem_append.1 hmem with hfront | hlast
          · exact hfront
          · exact absurd (List.mem_singleton.1 hlast ▸ hx) hend
        obtain ⟨earlier, last, later, rfl, hlast, hlater⟩ := ih hfront
        refine ⟨earlier, last, later ++ [final], by simp, hlast, fun other hother => ?_⟩
        rcases List.mem_append.1 hother with hother | hother
        · exact hlater other hother
        · rwa [List.mem_singleton.1 hother]

theorem Utf8.encode_injective {text other : Text} (h : Utf8.encode text = Utf8.encode other) :
    text = other := by
  have hdecoded := congrArg (Encoding.decode .utf8) h
  rw [Encoding.decode_encode_utf8, Encoding.decode_encode_utf8] at hdecoded
  exact Except.ok.inj hdecoded

namespace Page

/-- Every entry of a menu leads from the page to the page that it is for. -/
theorem placeOf_menu {disk : Disk} (hcwd : ∀ name ∈ disk.cwd, Path.IsOrdinary name)
    (layout : Layout) (source : Text) (sections : List Section) (sources : List Text) :
    ((ofSource layout (Disk.pathOf disk.cwd) source sections sources).menu.map fun entry =>
        disk.placeOf (Path.join (Path.directoryOf (layout.pagePath source)) entry.1)) =
      sources.map fun other => disk.placeOf (layout.pagePath other) := by
  simp only [ofSource, List.map_map, Function.comp_def, Disk.placeOf_join_relative hcwd]

/-- The rows of a page can be read off its text if the rest of it is known. -/
theorem sectionRows_eq_of_render_eq (page : Page) {sections others : List Section}
    (h : { page with sections }.render = { page with sections := others }.render) :
    sectionRows 1 sections = sectionRows 1 others := by
  have hhead : { page with sections }.head = { page with sections := others }.head := rfl
  have htable : { page with sections }.tableHead = { page with sections := others }.tableHead :=
    rfl
  rw [render, render, hhead, htable] at h
  exact List.append_cancel_left (List.append_cancel_right h)

/-- In a row, a new line follows the docs of the section. -/
theorem exists_sectionRow_eq (number : Nat) : ∃ front : Text, ∀ s : Section, ∃ back : Text,
    sectionRow number s = front ++ (s.docsHtml.getD [] ++ '\n' :: back) := by
  have hline : "\n          </td>\n          <td class=\"code\">\n            ".toList =
      '\n' :: "          </td>\n          <td class=\"code\">\n            ".toList := by decide
  have hassoc (front docs line code back : Text) :
      front ++ docs ++ '\n' :: line ++ code ++ back =
        front ++ (docs ++ '\n' :: (line ++ code ++ back)) := by simp
  refine ⟨?front, fun s => ⟨?back, ?row⟩⟩
  case row =>
    delta sectionRow
    rw [hline]
    exact hassoc _ _ _ _ _

/-- So the docs of a first section can be read off the rows. -/
theorem exists_docs_of_sectionRows_eq {s t : Section} {sections others : List Section}
    (h : sectionRows 1 (s :: sections) = sectionRows 1 (t :: others)) :
    ∃ back other : Text,
      s.docsHtml.getD [] ++ '\n' :: back = t.docsHtml.getD [] ++ '\n' :: other := by
  obtain ⟨front, hrow⟩ := exists_sectionRow_eq 1
  obtain ⟨back, hs⟩ := hrow s
  obtain ⟨other, ht⟩ := hrow t
  rw [sectionRows, sectionRows, hs, ht] at h
  simp only [List.append_assoc, List.cons_append] at h
  exact ⟨_, _, List.append_cancel_left h⟩

end Page

namespace Generator

variable {generator : Generator}

/-! ## Two sources of one page -/

/-- What the sample makes of a source of one section: its comments are left as they are. -/
theorem exists_sections_sample {disk : Disk} {source text : Text} {d : Documented} {s : Section}
    (hsource : source ∈ sampleSources) (hd : sample.Documents disk source d)
    (hcontent : d.content = Utf8.encode text)
    (htext : Encoding.utf8.read (Utf8.encode text) = .ok text)
    (hsections : Section.ofSource Highlighter.firstStandard text = [s]) :
    ∃ filled, d.sections = [filled] ∧ filled.docsHtml = some s.docs := by
  have hlanguage : d.language = Highlighter.firstStandard :=
    Option.some.inj (hd.language_eq.symm.trans (forPath_sample hsource))
  obtain ⟨codec, hcodec, hread⟩ := hd.text_eq
  obtain rfl : codec = Encoding.utf8.codec :=
    Option.some.inj (hcodec.symm.trans Encoding.codec?_utf8)
  rw [hcontent, Encoding.read_codec_eq_ok] at hread
  have hsame : d.text = text := Except.ok.inj (hread.symm.trans htext)
  obtain ⟨_, _, pieces, _, _, hlength, hfilled⟩ := hd.sections_filled
  rw [hlanguage, hsame, hsections] at hlength hfilled
  obtain ⟨piece, rfl⟩ := List.length_eq_one_iff.1 hlength
  obtain ⟨filled, rest, ⟨docsHtml, hdocs, hfirst⟩, hrest, hall⟩ :=
    List.forall₂_cons_left_iff.1 hfilled
  rw [List.forall₂_nil_left_iff.1 hrest] at hall
  cases hdocs
  exact ⟨filled, hall, by rw [hfirst]⟩

theorem sectionRows_eq_sample {disk : Disk} {d e : Documented}
    (h : sample.pageBytes disk sampleSources "b/a.py".toList d =
      sample.pageBytes disk sampleSources "a.py".toList e) :
    Page.sectionRows 1 d.sections = Page.sectionRows 1 e.sections := by
  have hpage : sample.settings.layout.pagePath "b/a.py".toList =
      sample.settings.layout.pagePath "a.py".toList := by
    rw [pagePath_sample (List.mem_cons_self ..),
      pagePath_sample (List.mem_cons_of_mem _ (List.mem_cons_self ..))]
  have hname : Path.name "b/a.py".toList = Path.name "a.py".toList := by decide
  have hsame (sections : List Section) :
      Page.ofSource sample.settings.layout (Disk.pathOf disk.cwd) "b/a.py".toList sections
          sampleSources =
        Page.ofSource sample.settings.layout (Disk.pathOf disk.cwd) "a.py".toList sections
          sampleSources := by
    rw [Page.ofSource, Page.ofSource, hpage, hname]
  have hrender := Utf8.encode_injective h
  rw [pageHtml, pageHtml, hsame] at hrender
  exact Page.sectionRows_eq_of_render_eq
    (Page.ofSource sample.settings.layout (Disk.pathOf disk.cwd) "a.py".toList [] sampleSources)
    hrender

theorem not_holdsPage_sample {first others : List Text} {disk : Disk}
    (ha : sample.HoldsPage { disk := sampleDisk [], context := { pending := sampleSources } }
      sampleSources others "a.py".toList disk) :
    ¬sample.HoldsPage { disk := sampleDisk [], context := { pending := sampleSources } }
      sampleSources first "b/a.py".toList disk := by
  rintro ⟨_, d, _, hd, hdContent, hdPage, _⟩
  obtain ⟨_, e, _, he, heContent, hePage, _⟩ := ha
  have hb : "b/a.py".toList ∈ sampleSources := List.mem_cons_self ..
  have ha : "a.py".toList ∈ sampleSources := List.mem_cons_of_mem _ (List.mem_cons_self ..)
  have hbFile : (sampleDisk []).get? ((sampleDisk []).placeOf "b/a.py".toList) =
      some (.file (Utf8.encode "y\n".toList)) := by cbv
  have haFile : (sampleDisk []).get? ((sampleDisk []).placeOf "a.py".toList) =
      some (.file (Utf8.encode "#x\n".toList)) := by cbv
  have hdBytes : d.content = Utf8.encode "y\n".toList := by
    injection Option.some.inj (hdContent.symm.trans hbFile)
  have heBytes : e.content = Utf8.encode "#x\n".toList := by
    injection Option.some.inj (heContent.symm.trans haFile)
  obtain ⟨s, hs, hsDocs⟩ := exists_sections_sample hb hd hdBytes (by decide)
    (s := { code := "y\n".toList }) (by decide)
  obtain ⟨t, ht, htDocs⟩ := exists_sections_sample ha he heBytes (by decide)
    (s := { docs := "x\n".toList }) (by decide)
  -- one file would hold both pages, and their rows differ in the docs
  rw [pagePath_sample hb] at hdPage
  rw [pagePath_sample ha, hdPage] at hePage
  have hrows := sectionRows_eq_sample (Except.ok.inj hePage)
  rw [hs, ht] at hrows
  obtain ⟨back, other, hdocs⟩ := Page.exists_docs_of_sectionRows_eq hrows
  rw [hsDocs, htDocs] at hdocs
  exact absurd (List.cons.inj hdocs).1 (by decide)

theorem keepsDisk_sample : sample.highlighter.runner.KeepsDisk := Runner.keepsDisk_ofReplies _

/-- The last source of the sample has the page that both share. -/
theorem holdsPage_sample {result : RunResult} {state : RunState}
    (h : sample.execute.Gives
      { disk := sampleDisk [], context := { pending := sampleSources } } result state) :
    result.sources = sampleSources ∧
      result.pages = ["docs/a.html".toList, "docs/a.html".toList] ∧
      sample.HoldsPage { disk := sampleDisk [], context := { pending := sampleSources } }
        sampleSources ["b/a.py".toList] "a.py".toList state.disk := by
  obtain ⟨hsources, hpages, _, hprogress⟩ :=
    progress_execute keepsDisk_sample linkFree_sampleDisk (fun _ hnil => by cases hnil) h
  rw [collect_sample] at hsources hpages hprogress
  obtain ⟨styled, documented, hprepares, hnames, hprogress⟩ := hprogress (List.cons_ne_nil _ _)
  have hdocumented : documented.map Prod.fst = ["b/a.py".toList] ++ "a.py".toList :: [] := hnames
  exact ⟨hsources, hpages.trans (by decide), hprogress.holdsPage hprepares linkFree_sampleDisk
    hdocumented (fun other hnil => by cases hnil) (.refl state.disk [])
    fun file hnil => by cases hnil⟩

/-! ## The whole run -/

/-- A run that succeeds on a disk without links gives one page for each source, but
the file of a page holds the last source of that page. -/
theorem execute_holdsLastSource (hkeeps : generator.highlighter.runner.KeepsDisk) {disk : Disk}
    {inputs : List Text} {result : RunResult} {state : RunState} (hfree : disk.LinkFree)
    (h : generator.execute.Gives { disk, context := { pending := inputs } } result state) :
    let layout := generator.settings.layout
    result.pages = result.sources.map layout.pagePath ∧
      (∀ first source rest, result.sources = first ++ source :: rest →
        ∃ earlier last later, source :: rest = earlier ++ last :: later ∧
          layout.pagePath last = layout.pagePath source ∧
          (∀ other ∈ later, layout.pagePath other ≠ layout.pagePath source) ∧
          generator.HoldsPage { disk, context := { pending := inputs } } result.sources
            (first ++ earlier) last state.disk) ∧
      (∀ source other, layout.pagePath source = layout.pagePath other ↔
        (layout.sourceParts source).dropLast = (layout.sourceParts other).dropLast ∧
          Layout.stem (layout.sourceParts source) = Layout.stem (layout.sourceParts other)) ∧
      ((∀ name ∈ disk.cwd, Path.IsOrdinary name) → ∀ source sections,
        ((Page.ofSource layout (Disk.pathOf disk.cwd) source sections result.sources).menu.map
            fun entry =>
              disk.placeOf (Path.join (Path.directoryOf (layout.pagePath source)) entry.1)) =
          result.pages.map disk.placeOf) := by
  intro layout
  obtain ⟨hsources, hpages, _, hprogress⟩ :=
    progress_execute hkeeps hfree (fun _ hnil => by cases hnil) h
  rw [← hsources] at hpages hprogress
  refine ⟨hpages, fun first source rest hsplit => ?_, fun _ _ => Layout.pagePath_eq_iff,
    fun hcwd source sections => ?_⟩
  · obtain ⟨earlier, last, later, hrest, hlast, hlater⟩ :=
      exists_last_of_mem (p := fun other => layout.pagePath other = layout.pagePath source)
        (List.mem_cons_self (l := rest)) rfl
    obtain ⟨styled, documented, hprepares, hnames, hprogress⟩ := hprogress (by simp [hsplit])
    refine ⟨earlier, last, later, hrest, hlast, hlater, ?_⟩
    have hdocumented : documented.map Prod.fst = (first ++ earlier) ++ last :: later := by
      rw [hnames, hsplit, hrest, List.append_assoc]
    exact hprogress.holdsPage hprepares hfree hdocumented
      (fun other hmem hsame => hlater other hmem (hsame.trans hlast)) (.refl state.disk [])
      fun file hnil => by cases hnil
  · rw [Page.placeOf_menu hcwd, hpages, List.map_map]
    rfl

theorem execute_holdsLastSource_sample : ∃ result state,
    sample.execute.Gives { disk := sampleDisk [], context := { pending := sampleSources } }
      result state ∧
    result.sources = sampleSources ∧
    ∃ earlier last later, sampleSources = earlier ++ last :: later ∧
      sample.settings.layout.pagePath last = "docs/a.html".toList ∧
      (∀ other ∈ later, sample.settings.layout.pagePath other ≠ "docs/a.html".toList) ∧
      sample.HoldsPage { disk := sampleDisk [], context := { pending := sampleSources } }
        sampleSources earlier last state.disk := by
  obtain ⟨result, state, h⟩ := exists_gives_execute_sample
  obtain ⟨hsources, _⟩ := holdsPage_sample h
  obtain ⟨_, hholds, _⟩ := execute_holdsLastSource keepsDisk_sample linkFree_sampleDisk h
  rw [hsources] at hholds
  have hlast := hholds [] "b/a.py".toList ["a.py".toList] rfl
  rw [pagePath_sample (List.mem_cons_self ..)] at hlast
  exact ⟨result, state, h, hsources, hlast⟩

/-- The first of two sources of a page has lost it when the run is over. -/
theorem execute_overwrites_page : ∃ result state,
    sample.execute.Gives { disk := sampleDisk [], context := { pending := sampleSources } }
      result state ∧
    result.sources = sampleSources ∧ sampleSources.Nodup ∧
    (∀ source ∈ sampleSources, ∃ content, (sampleDisk []).readFile source = .ok content) ∧
    result.pages = ["docs/a.html".toList, "docs/a.html".toList] ∧
    ¬sample.HoldsPage { disk := sampleDisk [], context := { pending := sampleSources } }
      result.sources [] "b/a.py".toList state.disk := by
  obtain ⟨result, state, h⟩ := exists_gives_execute_sample
  obtain ⟨hsources, hpages, hlast⟩ := holdsPage_sample h
  refine ⟨result, state, h, hsources, by decide, fun source hmem => ?_, hpages, ?_⟩
  · rcases List.mem_cons.1 hmem with rfl | hmem
    · exact ⟨Utf8.encode "y\n".toList, by cbv⟩
    · rw [List.mem_singleton.1 hmem]
      exact ⟨Utf8.encode "#x\n".toList, by cbv⟩
  · rw [hsources]
    exact not_holdsPage_sample hlast

end Generator
end Marginalia
