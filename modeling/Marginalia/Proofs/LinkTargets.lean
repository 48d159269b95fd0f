import Marginalia.Page.Basic
import Marginalia.Proofs.NormalPaths
import Mathlib.Data.List.Forall2

/-!
# Links lead to their targets

Whoever follows a link resolves it as a text against the directory of the page,
with no look at a disk. A page has two kinds of links: relative paths, which go
up as far as the page and the target share nothing, and the link to the
stylesheet, which goes up by a counted number of steps. For both it is enough to
know the components of the directory of a page, which are those of the output
directory with further ones behind them.

That what a link comes to is the absolute form of the target itself, and not only
a path of the same names, rests on the root slashes: pages and stylesheet start
with those of the output directory.
-/

namespace Marginalia

open Marginalia.Disk (names)
open Marginalia.Path (IsName IsOrdinary)

namespace Path

/-! ## The directory of a path -/

theorem components_absolute {cwd : Text} (hcwd : isAbsolute cwd = true) (path : Text) :
    components (absolute cwd path) = components (join cwd path) := by
  rw [components_of_isAbsolute (isAbsolute_absolute hcwd path), names_absolute hcwd,
    Location.follow_of_ordinary (ordinary_components (isAbsolute_join_left hcwd path)),
    List.nil_append]

/-- An ordinary last name is all that a path has beyond the directory that it lies in. -/
theorem components_join_directoryOf {cwd : Text} (hcwd : isAbsolute cwd = true) {path : Text}
    (h : IsOrdinary (name path)) :
    components (join cwd path) = components (join cwd (directoryOf path)) ++ [name path] := by
  have hdirectory : components (join cwd (directoryOf path)) =
      Location.follow (if isAbsolute path then [] else components cwd) (names (parent path)) := by
    rw [components_join hcwd, directoryOf]
    split
    · next hnil =>
        rw [hnil, isAbsolute_of_parent_eq_nil hnil]
        rfl
    · next hne => rw [isAbsolute_parent hne]
  rw [hdirectory, components_join hcwd, ← names_parent_append path, names_name h.1,
    Location.follow_append]
  exact Location.follow_of_ordinary (fun other hmem => List.mem_singleton.1 hmem ▸ h) _

/-- The directory of an absolute form has all components but the last one. -/
theorem components_parent_absolute {cwd : Text} (hcwd : isAbsolute cwd = true) {path last : Text}
    {front : List Text} (h : components (join cwd path) = front ++ [last]) :
    isAbsolute (parent (absolute cwd path)) = true ∧
      components (parent (absolute cwd path)) = front := by
  have habsolute := isAbsolute_absolute hcwd path
  have hnames : names (absolute cwd path) = front ++ [last] := (names_absolute hcwd path).trans h
  have hslash : Disk.endsInSlash (absolute cwd path) = false := by
    rw [absolute, normalize_eq (Or.inl (isAbsolute_join_left hcwd path))]
    refine endsInSlash_append_intercalate _ ?_ (isName_components _)
    rw [h]
    exact List.append_ne_nil_of_right_ne_nil front (List.cons_ne_nil last [])
  have hname : name (absolute cwd path) = last := name_of_names_eq hslash hnames
  have hlast : name (absolute cwd path) ≠ [] := by
    rw [hname]
    exact ne_nil_of_mem_names (hnames ▸ List.mem_append_right front (List.mem_singleton_self last))
  have hparent : isAbsolute (parent (absolute cwd path)) = true := by
    refine (isAbsolute_parent fun hnil => ?_).trans habsolute
    rw [isAbsolute_of_parent_eq_nil hnil] at habsolute
    cases habsolute
  have hordinary : ∀ other ∈ front, IsOrdinary other := fun other hmem =>
    ordinary_components (isAbsolute_join_left hcwd path) other
      (h ▸ List.mem_append_left [last] hmem)
  refine ⟨hparent, ?_⟩
  rw [components_of_isAbsolute hparent, names_parent hlast, hnames, List.dropLast_concat,
    Location.follow_of_ordinary hordinary, List.nil_append]

theorem dropCommon_append (common below : List Text) :
    dropCommon common (common ++ below) = ([], below) := by
  induction common with
  | nil => rfl
  | cons part common ih => rw [List.cons_append, dropCommon, if_pos rfl, ih]

/-- The slashes in front of an absolute form do not depend on what is joined behind. -/
theorem rootSlashes_join_join (cwd base : Text) {path : Text} (h : isAbsolute path = false) :
    rootSlashes (join cwd (join base path)) = rootSlashes (join cwd base) := by
  have hjoin : isAbsolute (join base path) = isAbsolute base := isAbsolute_join h
  cases hbase : isAbsolute base with
  | true =>
      rw [hbase] at hjoin
      rw [join, if_pos hjoin, rootSlashes_join h, join, if_pos hbase]
  | false => rw [rootSlashes_join (hjoin.trans hbase), rootSlashes_join hbase]

end Path

/-- Whether a link, read as a text against the directory that a page lies in, comes to
a target. -/
def LeadsTo (cwd page link target : Text) : Prop :=
  Path.absolute (Path.parent (Path.absolute cwd page)) link = Path.absolute cwd target

/-- A relative link leads to its target if its steps lead there, from the directory of the
page, and both ends start at the same root. -/
theorem leadsTo_of_follow {cwd page link target last : Text} {front : List Text}
    (hcwd : Path.isAbsolute cwd = true) (hlink : Path.isAbsolute link = false)
    (hpage : Path.components (Path.join cwd page) = front ++ [last])
    (hroot : Path.rootSlashes (Path.join cwd page) = Path.rootSlashes (Path.join cwd target))
    (hfollow : Location.follow front (names link) = Path.components (Path.join cwd target)) :
    LeadsTo cwd page link target := by
  obtain ⟨habsolute, hdirectory⟩ := Path.components_parent_absolute hcwd hpage
  refine Path.absolute_eq_absolute ?_ ?_
  · rw [Path.rootSlashes_join hlink, Path.rootSlashes_parent, Path.rootSlashes_absolute hcwd, hroot]
  · rw [Path.components_join habsolute, hlink, hdirectory]
    exact hfollow

namespace Layout

variable (layout : Layout) {cwd : Text}

theorem components_join_pagePath (hcwd : Path.isAbsolute cwd = true) (source : Text) :
    Path.components (Path.join cwd (layout.pagePath source)) =
      Path.components (Path.join cwd layout.outputDir) ++ (layout.sourceParts source).dropLast ++
        [stem (layout.sourceParts source) ++ pageEnding] := by
  rw [pagePath_eq, Path.components_join_intercalate hcwd _ (layout.ordinary_pageParts source),
    pageParts, List.append_assoc]

theorem rootSlashes_join_pagePath (cwd source : Text) :
    Path.rootSlashes (Path.join cwd (layout.pagePath source)) =
      Path.rootSlashes (Path.join cwd layout.outputDir) := by
  rw [pagePath_eq]
  exact Path.rootSlashes_join_join cwd _ <|
    Path.isAbsolute_intercalate fun part hmem => (layout.ordinary_pageParts source part hmem).isName

theorem name_pagePath (source : Text) :
    Path.name (layout.pagePath source) = stem (layout.sourceParts source) ++ pageEnding := by
  rw [pagePath_eq, pageParts]
  exact Path.name_join_intercalate _ fun part hmem =>
    (layout.ordinary_pageParts source part hmem).isName

/-- The directory of a page lies below the output directory. -/
theorem components_directoryOf_pagePath (hcwd : Path.isAbsolute cwd = true) (source : Text) :
    Path.components (Path.join cwd (Path.directoryOf (layout.pagePath source))) =
      Path.components (Path.join cwd layout.outputDir) ++
        (layout.sourceParts source).dropLast := by
  have hordinary : IsOrdinary (Path.name (layout.pagePath source)) := by
    rw [name_pagePath]
    exact layout.ordinary_pageParts source _ (List.mem_append_right _ (List.mem_singleton_self _))
  have hdirectory := Path.components_join_directoryOf hcwd hordinary
  rw [components_join_pagePath layout hcwd, name_pagePath] at hdirectory
  exact (List.append_inj' hdirectory rfl).1.symm

/-- A page lies as deep as it has directories below the output directory. -/
theorem depth_pagePath (hcwd : Path.isAbsolute cwd = true) (source : Text) :
    layout.depth cwd (layout.pagePath source) =
      ((layout.sourceParts source).dropLast).length := by
  rw [depth, Path.relativeComponents, components_directoryOf_pagePath layout hcwd,
    Path.dropCommon_append]
  rfl

/-! ## The links of a page -/

/-- Relative links between pages lead to these. -/
theorem leadsTo_relative (hcwd : Path.isAbsolute cwd = true) (source other : Text) :
    LeadsTo cwd (layout.pagePath source)
      (Path.relative cwd (layout.pagePath other) (Path.directoryOf (layout.pagePath source)))
      (layout.pagePath other) := by
  refine leadsTo_of_follow hcwd (Path.isAbsolute_relative _ _ _)
    (layout.components_join_pagePath hcwd source) ?_ ?_
  · rw [rootSlashes_join_pagePath, rootSlashes_join_pagePath]
  · rw [← components_directoryOf_pagePath layout hcwd]
    exact Path.follow_relative hcwd _ _

theorem names_stylesheetLink (page : Page) :
    names page.stylesheetLink = List.replicate page.depth "..".toList ++ [stylesheetName] ∧
      Path.isAbsolute page.stylesheetLink = false := by
  have hstep (rest : Text) : "../".toList ++ rest = "..".toList ++ '/' :: rest := rfl
  rw [Page.stylesheetLink]
  induction page.depth with
  | zero => decide
  | succ depth ih =>
      rw [List.replicate_succ, List.flatten_cons, List.append_assoc, hstep, Path.names_append_cons,
        ih.1]
      exact ⟨rfl, rfl⟩

/-- The counted steps of a page lead up to the directory of the stylesheet. -/
theorem leadsTo_stylesheetLink (hcwd : Path.isAbsolute cwd = true) (source : Text)
    (sections : List Section) (sources : List Text) :
    LeadsTo cwd (layout.pagePath source)
      (Page.ofSource layout cwd source sections sources).stylesheetLink
      layout.stylesheetPath := by
  obtain ⟨hnames, hlink⟩ := names_stylesheetLink (Page.ofSource layout cwd source sections sources)
  have hdepth : (Page.ofSource layout cwd source sections sources).depth =
      ((layout.sourceParts source).dropLast).length := layout.depth_pagePath hcwd source
  refine leadsTo_of_follow hcwd hlink (layout.components_join_pagePath hcwd source) ?_ ?_
  · rw [rootSlashes_join_pagePath, stylesheetPath]
    exact (Path.rootSlashes_join_join cwd _ (by decide)).symm
  · rw [hnames, hdepth, ← List.map_const', Location.follow_append, Location.follow_parents,
      Location.follow_of_ordinary ordinary_stylesheetName, stylesheetPath_eq,
      Path.components_join_intercalate hcwd _ ordinary_stylesheetName]

end Layout

/-- Every link that there is leads to its target: the links between pages and the entries
of a menu, the link to the stylesheet, and by names any link from a page to a target. -/
theorem Layout.links_leadTo {cwd : Text} (hcwd : Path.isAbsolute cwd = true) (layout : Layout) :
    (∀ source other, ∃ link,
      relativeLink? cwd (layout.pagePath other) (layout.pagePath source) = some link ∧
      LeadsTo cwd (layout.pagePath source) link (layout.pagePath other)) ∧
    (∀ source sections sources, List.Forall₂ (fun other entry => entry.2 = Path.name other ∧
        LeadsTo cwd (layout.pagePath source) entry.1 (layout.pagePath other))
      sources (Page.ofSource layout cwd source sections sources).menu) ∧
    (∀ source sections sources, LeadsTo cwd (layout.pagePath source)
      (Page.ofSource layout cwd source sections sources).stylesheetLink layout.stylesheetPath) ∧
    ∀ target page, target ≠ [] → ∃ link, relativeLink? cwd target page = some link ∧
      names (Path.absolute (Path.absolute cwd (Path.directoryOf page)) link) =
        names (Path.absolute cwd target) := by
  refine ⟨fun source other => ⟨_, if_neg ?_, layout.leadsTo_relative hcwd source other⟩,
    fun source sections sources => ?_, layout.leadsTo_stylesheetLink hcwd,
    fun target page htarget => ⟨_, if_neg htarget, ?_⟩⟩
  · intro hnil
    have hempty : Path.name [] = [] := rfl
    have hending : pageEnding ≠ [] := by decide
    have hname := layout.name_pagePath other
    rw [hnil, hempty] at hname
    exact List.append_ne_nil_of_right_ne_nil _ hending hname.symm
  · rw [Page.ofSource, List.forall₂_map_right_iff, List.forall₂_same]
    refine fun other _ => ⟨rfl, ?_⟩
    dsimp only
    exact layout.leadsTo_relative hcwd source other
  · have hdirectory := Path.isAbsolute_absolute hcwd (Path.directoryOf page)
    rw [Path.names_absolute hdirectory, Path.components_join hdirectory,
      Path.isAbsolute_relative, Path.components_absolute hcwd]
    exact (Path.follow_relative hcwd _ _).trans (Path.names_absolute hcwd _).symm

/-- A page two directories below an output directory that lies beside the current one. -/
theorem Layout.links_leadTo_beside :
    let layout : Layout := { outputDir := "../out//".toList, nested := true }
    let cwd := "/w/p".toList
    let page := layout.pagePath "lib/sub/a.py".toList
    LeadsTo cwd page "../b.html".toList (layout.pagePath "lib/./b.py".toList) ∧
    LeadsTo cwd page "../../docco.css".toList "../out//docco.css".toList := by
  intro layout cwd page
  obtain ⟨hpages, _, hstylesheet, _⟩ :=
    Layout.links_leadTo (show Path.isAbsolute cwd = true by decide) layout
  obtain ⟨link, hlink, hleads⟩ := hpages "lib/sub/a.py".toList "lib/./b.py".toList
  have hshown : relativeLink? cwd (layout.pagePath "lib/./b.py".toList) page =
      some "../b.html".toList := by decide
  have hlinkStylesheet : (Page.ofSource layout cwd "lib/sub/a.py".toList [] []).stylesheetLink =
      "../../docco.css".toList := by decide
  have hstylesheet := hstylesheet "lib/sub/a.py".toList [] []
  rw [hlinkStylesheet] at hstylesheet
  exact ⟨Option.some.inj (hlink.symm.trans hshown) ▸ hleads, hstylesheet⟩

end Marginalia
