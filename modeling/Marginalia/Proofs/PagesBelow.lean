import Marginalia.Proofs.NormalPaths

/-!
# Pages stay below the output directory

Whatever a source is called, the names of its page below the output directory
are ordinary ones, so no step of them leads out again. A source of a known
language has a name with a registered extension. Then the page has that name
with its own ending in place of the extension, and a nested page lies in the
directories of the source.
-/

namespace Marginalia

open Marginalia.Disk (names)
open Marginalia.Path (IsOrdinary)

namespace Layout

/-- The page of a source of a known language has the name of the source, and if it is
nested it lies in the directories of the source. -/
theorem pageParts_of_forPath {classes : List Text} {source : Text} {language : Language}
    (h : (Registry.standard classes).forPath source = some language) (layout : Layout) :
    layout.pageParts source =
      (if layout.nested then
        ((names (Path.normalize source)).dropWhile (· = "..".toList)).dropLast else []) ++
      [(Path.splitName (Path.name source)).1 ++ pageEnding] := by
  have hname := Registry.ordinary_name_of_forPath h
  obtain ⟨front, hfront⟩ := Path.components_eq_concat hname
  have hlast : [Path.name source].filter (· ≠ "..".toList) = [Path.name source] :=
    List.filter_eq_self.2 fun _ hmem => decide_eq_true
      (List.mem_singleton.1 hmem ▸ hname.2.2.2)
  have hparts : layout.sourceParts source =
      (if layout.nested then front.filter (· ≠ "..".toList) else []) ++ [Path.name source] := by
    rw [sourceParts]
    split
    · have hfilter : (Path.components source).filter (· ≠ "..".toList) =
          front.filter (· ≠ "..".toList) ++ [Path.name source] := by
        rw [hfront, List.filter_append, hlast]
      split
      · next hnil =>
          rw [hfilter] at hnil
          exact absurd (List.append_eq_nil_iff.1 hnil).2 (List.cons_ne_nil _ _)
      · exact hfilter
    · rfl
  have hnormal : ((names (Path.normalize source)).dropWhile (· = "..".toList)).dropLast =
      front.filter (· ≠ "..".toList) := by
    rw [Path.names_normalize (Or.inr (by simp [hfront])), ← Path.filter_components, hfront,
      List.filter_append, hlast, List.dropLast_concat]
  rw [pageParts, hparts, List.dropLast_concat, stem_concat, hnormal]

/-- The page of a source lies below the output directory under ordinary names, in a flat
layout directly. If the source is of a known language, its page has its name with another
ending, in a nested layout below its directories. -/
theorem names_absolute_pagePath (layout : Layout) {cwd : Text}
    (hcwd : Path.isAbsolute cwd = true) (source : Text) :
    ∃ directories page,
      names (Path.absolute cwd (layout.pagePath source)) =
        names (Path.absolute cwd layout.outputDir) ++ (directories ++ [page]) ∧
      (∀ name ∈ directories ++ [page], IsOrdinary name) ∧ pageEnding <:+ page ∧
      (layout.nested = false → directories = []) ∧
      ∀ classes language, (Registry.standard classes).forPath source = some language →
        ∃ stem extension, Path.name source = stem ++ extension ∧ stem ≠ [] ∧
          extension = Path.extension source ∧ Text.lower extension = language.extension ∧
          page = stem ++ pageEnding ∧
          (layout.nested = true → directories =
            ((names (Path.normalize source)).dropWhile (· = "..".toList)).dropLast) := by
  have hordinary := layout.ordinary_pageParts source
  have hflat : layout.nested = false → (layout.sourceParts source).dropLast = [] := by
    intro hnested
    rw [sourceParts, hnested]
    rfl
  refine ⟨(layout.sourceParts source).dropLast, stem (layout.sourceParts source) ++ pageEnding,
    ?_, hordinary, List.suffix_append _ _, hflat, fun classes language h => ?_⟩
  · rw [Path.names_absolute hcwd, Path.names_absolute hcwd, pagePath_eq,
      Path.components_join_intercalate hcwd _ hordinary, pageParts]
  · have hextension := Registry.extension_ne_nil_of_forPath h
    have hparts := pageParts_of_forPath h layout
    rw [pageParts] at hparts
    obtain ⟨hdirectories, hpage⟩ := List.append_inj' hparts rfl
    refine ⟨_, _, (Path.splitName_append (Path.name source)).symm,
      Path.splitName_fst_ne_nil hextension, rfl, Registry.lower_eq_of_lookup_standard h,
      List.singleton_inj.1 hpage, fun hnested => ?_⟩
    rw [hdirectories, if_pos hnested]

/-- A source from above the current directory, with an extension in capitals. -/
theorem names_absolute_pagePath_nested :
    let layout : Layout := { outputDir := "../out//".toList, nested := true }
    let source := "./../../lib/x/../a.b.PY".toList
    ∃ directories page,
      names (Path.absolute "/w/p".toList (layout.pagePath source)) =
        ["w", "out"].map String.toList ++ (directories ++ [page]) ∧
      (∀ name ∈ directories ++ [page], IsOrdinary name) ∧
      directories = ["lib".toList] ∧ page = "a.b.html".toList := by
  intro layout source
  have hpy : Registry.standard.forPath source = some
      { extension := ".py".toList, name := "python".toList, symbol := "#".toList } := by
    decide +kernel
  have houtput : names (Path.absolute "/w/p".toList layout.outputDir) =
      ["w", "out"].map String.toList := by decide
  obtain ⟨directories, page, hnames, hordinary, _, _, hsource⟩ :=
    layout.names_absolute_pagePath (show Path.isAbsolute "/w/p".toList = true by decide) source
  obtain ⟨stem, extension, hname, _, hextension, _, hpage, hdirectories⟩ := hsource _ _ hpy
  have hsplit : Path.name source = "a.b".toList ++ Path.extension source := by decide
  obtain rfl : "a.b".toList = stem :=
    List.append_cancel_right (hsplit.symm.trans (hname.trans (by rw [hextension])))
  refine ⟨directories, page, houtput ▸ hnames, hordinary, ?_, hpage⟩
  exact (hdirectories rfl).trans (by decide)

end Layout
end Marginalia
