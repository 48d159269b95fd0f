import Marginalia.Proofs.DiskUpdate
import Marginalia.Proofs.RegistryRows

/-!
# Where a run writes

All output lies below the output directory, under names that no step can lead
out of: a page is an ordinary name that ends in `.html`, perhaps below ordinary
directories, and the stylesheet is one name. From this follows what a run relies
on without ever checking it. Different page paths are different places, no page
is the stylesheet, and neither is a source, because a source has an extension
that a language is registered for.

The argument is about last names only. Whatever steps lead up to them, a place
ends in the last name of its path when that is an ordinary one.
-/

namespace Marginalia

open Marginalia.Disk (names)
open Marginalia.Path (IsOrdinary)

namespace Layout

/-! ## The names of a page -/

theorem mem_pushComponent {absolute : Bool} {components : List Text} {component part : Text}
    (h : part ∈ Path.pushComponent absolute components component) :
    part ∈ components ∨ part = component ∧ component ≠ [] ∧ component ≠ ['.'] := by
  unfold Path.pushComponent at h
  split at h
  · exact Or.inl h
  · next hstep =>
      obtain ⟨hne, hdot⟩ : component ≠ [] ∧ component ≠ ['.'] := by
        simpa [not_or] using hstep
      have hself : ∀ {others : List Text}, part ∈ component :: others →
          part ∈ others ∨ part = component ∧ component ≠ [] ∧ component ≠ ['.'] := by
        intro others hmem
        rcases List.mem_cons.1 hmem with rfl | hmem
        · exact Or.inr ⟨rfl, hne, hdot⟩
        · exact Or.inl hmem
      split at h
      · exact hself h
      · split at h
        · split at h
          · cases h
          · exact hself h
        · split at h
          · exact hself h
          · exact Or.inl (List.mem_cons_of_mem _ h)

/-- The components of a path are pieces of it, and none is empty or a step on the spot. -/
theorem mem_splitOn_of_mem_components {path part : Text} (h : part ∈ Path.components path) :
    part ∈ Text.splitOn '/' path ∧ part ≠ [] ∧ part ≠ ['.'] := by
  have hfold : ∀ (parts components : List Text),
      ∀ part ∈ parts.foldl (Path.pushComponent (Path.isAbsolute path)) components,
        part ∈ components ∨ part ∈ parts ∧ part ≠ [] ∧ part ≠ ['.'] := by
    intro parts
    induction parts with
    | nil => exact fun components part hmem => Or.inl hmem
    | cons first parts ih =>
        intro components part hmem
        rcases ih _ part hmem with hmem | ⟨hmem, hne⟩
        · rcases mem_pushComponent hmem with hold | ⟨rfl, hne⟩
          · exact Or.inl hold
          · exact Or.inr ⟨List.mem_cons_self .., hne⟩
        · exact Or.inr ⟨List.mem_cons_of_mem _ hmem, hne⟩
  rcases hfold _ [] part (List.mem_reverse.1 h) with hnil | hmem
  · cases hnil
  · exact hmem

/-- The components of a path are names, and none is a step on the spot. -/
theorem name_of_mem_components {path part : Text} (h : part ∈ Path.components path) :
    part ≠ [] ∧ '/' ∉ part ∧ part ≠ ['.'] := by
  obtain ⟨hpiece, hne, hdot⟩ := mem_splitOn_of_mem_components h
  exact ⟨hne, Text.not_mem_of_mem_splitOn hpiece, hdot⟩

theorem ordinary_ending {stem : Text} (h : '/' ∉ stem) : IsOrdinary (stem ++ pageEnding) := by
  have hlength : 5 ≤ (stem ++ pageEnding).length := by
    have hending : pageEnding.length = 5 := by decide
    rw [List.length_append]
    omega
  refine ⟨fun hnil => ?_, fun hslash => ?_, fun hdot => ?_, fun hdots => ?_⟩
  · rw [hnil] at hlength
    exact absurd hlength (by decide)
  · rcases List.mem_append.1 hslash with hmem | hmem
    · exact h hmem
    · exact absurd hmem (by decide)
  · rw [hdot] at hlength
    exact absurd hlength (by decide)
  · rw [hdots] at hlength
    exact absurd hlength (by decide)

theorem slash_not_mem_stem (path : Text) : '/' ∉ (Path.splitName (Path.name path)).1 := by
  intro hmem
  refine Path.slash_not_mem_name path ?_
  rw [← Path.splitName_append (Path.name path)]
  exact List.mem_append_left _ hmem

/-- A path without directories and with the ending of pages in place of its extension. -/
theorem withoutExtension_name (path : Text) :
    Path.withoutExtension (Path.name path) = (Path.splitName (Path.name path)).1 := by
  have hname := Path.name_of_not_mem (Path.slash_not_mem_name path)
  have hself : Path.name path = [] ++ Path.name (Path.name path) := hname.symm
  rw [Path.withoutExtension_of_name hself, hname]
  rfl

theorem withoutExtension_intercalate {front : List Text} {last : Text} (h : '/' ∉ last) :
    Path.withoutExtension (List.intercalate ['/'] (front ++ [last])) ++ pageEnding =
      List.intercalate ['/'] (front ++ [(Path.splitName last).1 ++ pageEnding]) := by
  cases front with
  | nil =>
      have hname := withoutExtension_name last
      rw [Path.name_of_not_mem h] at hname
      rw [List.nil_append, List.intercalate_singleton, hname, List.nil_append,
        List.intercalate_singleton]
  | cons first front =>
      have hjoin : ∀ tail : Text, List.intercalate ['/'] (first :: front ++ [tail]) =
          List.intercalate ['/'] (first :: front) ++ '/' :: tail := by
        intro tail
        rw [Text.intercalate_append (List.cons_ne_nil _ _) (List.cons_ne_nil _ _),
          List.intercalate_singleton]
        rfl
      have hname := Path.name_append_cons (List.intercalate ['/'] (first :: front)) h
      have hpath : List.intercalate ['/'] (first :: front) ++ '/' :: last =
          (List.intercalate ['/'] (first :: front) ++ ['/']) ++
            Path.name (List.intercalate ['/'] (first :: front) ++ '/' :: last) := by
        simp [hname]
      rw [hjoin, hjoin, Path.withoutExtension_of_name hpath, hname]
      simp

/-- The names that a source has below the output directory: its own alone or, where
pages are nested, its components without parent steps. -/
def sourceParts (layout : Layout) (source : Text) : List Text :=
  if layout.nested then
    match (Path.components source).filter (· ≠ "..".toList) with
    | [] => [Path.name source]
    | parts => parts
  else [Path.name source]

/-- The last of some names, without its extension. -/
def stem (parts : List Text) : Text :=
  (Path.splitName (parts.getLastD [])).1

/-- The names of a page below the output directory: those of its source, the last
one with the ending of pages in place of its extension. -/
def pageParts (layout : Layout) (source : Text) : List Text :=
  (layout.sourceParts source).dropLast ++ [stem (layout.sourceParts source) ++ pageEnding]

theorem sourceParts_cases (layout : Layout) (source : Text) :
    layout.sourceParts source = [Path.name source] ∨
      layout.sourceParts source ≠ [] ∧ ∀ part ∈ layout.sourceParts source, IsOrdinary part := by
  rw [sourceParts]
  split
  · split
    · exact Or.inl rfl
    · next hparts =>
        refine Or.inr ⟨hparts, fun part hmem => ?_⟩
        obtain ⟨hcomponent, hdots⟩ := List.mem_filter.1 hmem
        obtain ⟨hne, hslash, hdot⟩ := name_of_mem_components hcomponent
        exact ⟨hne, hslash, hdot, of_decide_eq_true hdots⟩
  · exact Or.inl rfl

/-- A source has names, and none of them has a slash. -/
theorem exists_sourceParts_eq (layout : Layout) (source : Text) :
    ∃ front last, layout.sourceParts source = front ++ [last] ∧ '/' ∉ last ∧
      ∀ part ∈ front, IsOrdinary part := by
  rcases layout.sourceParts_cases source with hname | ⟨hne, hordinary⟩
  · exact ⟨[], Path.name source, hname, Path.slash_not_mem_name source,
      fun part hnil => by cases hnil⟩
  · obtain hnil | ⟨front, last, hparts⟩ := List.eq_nil_or_concat' (layout.sourceParts source)
    · exact absurd hnil hne
    · rw [hparts] at hordinary
      exact ⟨front, last, hparts, (hordinary last (by simp)).2.1,
        fun part hmem => hordinary part (List.mem_append_left _ hmem)⟩

theorem stem_concat (front : List Text) (last : Text) :
    stem (front ++ [last]) = (Path.splitName last).1 := by
  rw [stem, List.getLastD_concat]

theorem ordinary_pageParts (layout : Layout) (source : Text) :
    ∀ part ∈ layout.pageParts source, IsOrdinary part := by
  obtain ⟨front, last, hparts, hslash, hordinary⟩ := layout.exists_sourceParts_eq source
  have hstem := slash_not_mem_stem last
  rw [Path.name_of_not_mem hslash] at hstem
  intro part hmem
  rw [pageParts, hparts, stem_concat, List.dropLast_concat] at hmem
  rcases List.mem_append.1 hmem with hmem | hmem
  · exact hordinary part hmem
  · rw [List.mem_singleton.1 hmem]
    exact ordinary_ending hstem

/-- A page lies below the output directory under its names. -/
theorem pagePath_eq (layout : Layout) (source : Text) :
    layout.pagePath source =
      Path.join layout.outputDir (List.intercalate ['/'] (layout.pageParts source)) := by
  obtain ⟨front, last, hparts, hslash, _⟩ := layout.exists_sourceParts_eq source
  have hname : (if layout.nested then relativeSource source else Path.name source) =
      List.intercalate ['/'] (layout.sourceParts source) := by
    unfold sourceParts relativeSource
    split
    · cases (Path.components source).filter (· ≠ "..".toList) with
      | nil => exact (List.intercalate_singleton ..).symm
      | cons first parts => rfl
    · exact (List.intercalate_singleton ..).symm
  rw [pagePath, hname, pageParts, hparts, stem_concat, List.dropLast_concat,
    withoutExtension_intercalate hslash]

theorem exists_pagePath_eq (layout : Layout) (source : Text) :
    ∃ front stem, (∀ part ∈ front ++ [stem ++ pageEnding], IsOrdinary part) ∧
      layout.pagePath source =
        Path.join layout.outputDir (List.intercalate ['/'] (front ++ [stem ++ pageEnding])) :=
  ⟨_, _, layout.ordinary_pageParts source, layout.pagePath_eq source⟩

/-- Two sources have one page if and only if they have the same names, up to the
extensions of the last ones. -/
theorem pagePath_eq_iff {layout : Layout} {source other : Text} :
    layout.pagePath source = layout.pagePath other ↔
      (layout.sourceParts source).dropLast = (layout.sourceParts other).dropLast ∧
        stem (layout.sourceParts source) = stem (layout.sourceParts other) := by
  have hnames (path : Text) : names (layout.pagePath path) =
      names layout.outputDir ++ layout.pageParts path := by
    rw [pagePath_eq, Path.names_join_intercalate _ fun part hmem =>
      (layout.ordinary_pageParts path part hmem).isName]
  constructor
  · intro h
    have hall := hnames source
    rw [h, hnames other] at hall
    have hparts : layout.pageParts source = layout.pageParts other :=
      (List.append_cancel_left hall).symm
    obtain ⟨hfront, hlast⟩ := List.append_inj' hparts rfl
    exact ⟨hfront, List.append_cancel_right (List.singleton_inj.1 hlast)⟩
  · rintro ⟨hfront, hlast⟩
    rw [pagePath_eq, pagePath_eq, pageParts, pageParts, hfront, hlast]

end Layout

namespace Disk

/-! ## Places -/

theorem start_join_intercalate (disk : Disk) (base : Text) {parts : List Text}
    (h : ∀ part ∈ parts, Path.IsName part) :
    disk.start (Path.join base (List.intercalate ['/'] parts)) = disk.start base := by
  rw [start, start, Path.isAbsolute_join (Path.isAbsolute_intercalate h)]

/-- A path that goes on from another one is where its names lead from there. -/
theorem placeOf_join (disk : Disk) (base : Text) {parts : List Text}
    (h : ∀ part ∈ parts, Path.IsName part) :
    disk.placeOf (Path.join base (List.intercalate ['/'] parts)) =
      Location.follow (disk.placeOf base) parts := by
  rw [placeOf, start_join_intercalate disk base h, Path.names_join_intercalate base h,
    Location.follow_append, placeOf]

/-- A path below another one is at the place of the other one and the names below it. -/
theorem placeOf_join_of_ordinary (disk : Disk) (base : Text) {parts : List Text}
    (h : ∀ part ∈ parts, IsOrdinary part) :
    disk.placeOf (Path.join base (List.intercalate ['/'] parts)) = disk.placeOf base ++ parts := by
  rw [placeOf_join disk base fun part hmem => (h part hmem).isName,
    Location.follow_of_ordinary h]

end Disk

namespace Layout

theorem ordinary_stylesheetName : ∀ part ∈ [stylesheetName], IsOrdinary part := by
  intro part hmem
  rw [List.mem_singleton.1 hmem]
  exact ⟨by decide, by decide, by decide, by decide⟩

theorem stylesheetPath_eq (layout : Layout) :
    layout.stylesheetPath =
      Path.join layout.outputDir (List.intercalate ['/'] [stylesheetName]) := by
  rw [List.intercalate_singleton]
  rfl

theorem placeOf_stylesheetPath (disk : Disk) (layout : Layout) :
    disk.placeOf layout.stylesheetPath = disk.placeOf layout.outputDir ++ [stylesheetName] := by
  rw [stylesheetPath_eq, disk.placeOf_join_of_ordinary _ ordinary_stylesheetName]

/-- Pages of different paths are at different places. -/
theorem placeOf_pagePath_inj {disk : Disk} {layout : Layout} {source other : Text}
    (h : disk.placeOf (layout.pagePath source) = disk.placeOf (layout.pagePath other)) :
    layout.pagePath source = layout.pagePath other := by
  obtain ⟨front, stem, hordinary, heq⟩ := exists_pagePath_eq layout source
  obtain ⟨front', stem', hordinary', heq'⟩ := exists_pagePath_eq layout other
  rw [heq, heq', disk.placeOf_join_of_ordinary _ hordinary, disk.placeOf_join_of_ordinary _ hordinary'] at h
  rw [heq, heq', List.append_cancel_left h]

theorem exists_placeOf_pagePath (disk : Disk) (layout : Layout) (source : Text) :
    ∃ front stem, disk.placeOf (layout.pagePath source) = front ++ [stem ++ pageEnding] := by
  obtain ⟨front, stem, hordinary, heq⟩ := exists_pagePath_eq layout source
  refine ⟨disk.placeOf layout.outputDir ++ front, stem, ?_⟩
  rw [heq, disk.placeOf_join_of_ordinary _ hordinary, List.append_assoc]

/-- A page is not the stylesheet. -/
theorem placeOf_pagePath_ne (disk : Disk) (layout : Layout) (source : Text) :
    disk.placeOf (layout.pagePath source) ≠ disk.placeOf layout.stylesheetPath := by
  obtain ⟨front, stem, heq⟩ := exists_placeOf_pagePath disk layout source
  rw [heq, placeOf_stylesheetPath]
  intro hsame
  have hlast : stem ++ pageEnding = stylesheetName :=
    List.singleton_inj.1 (List.append_inj' hsame rfl).2
  have hpage : pageEnding.getLast? = some 'l' := by decide
  have hstylesheet : stylesheetName.getLast? = some 's' := by decide
  rw [← hlast, List.getLast?_append, hpage, Option.some_or] at hstylesheet
  exact absurd hstylesheet (by decide)

/-- The places on the way to the stylesheet are those on the way to the output
directory and that directory itself. -/
theorem placesAbove_stylesheetPath (disk : Disk) (layout : Layout) :
    disk.placesAbove layout.stylesheetPath = disk.placesAlong layout.outputDir := by
  have hname : ∀ part ∈ [stylesheetName], Path.IsName part := fun part hmem =>
    (ordinary_stylesheetName part hmem).isName
  rw [Disk.placesAbove, Disk.placesAlong, stylesheetPath_eq, disk.start_join_intercalate _ hname,
    Path.names_join_intercalate _ hname, List.dropLast_concat]

end Layout

/-! ## Sources -/

namespace Registry

theorem extension_ne_nil_of_forPath {classes : List Text} {source : Text} {language : Language}
    (h : (standard classes).forPath source = some language) : Path.extension source ≠ [] := by
  intro hnil
  rw [forPath, lookup_standard_eq_none classes (Or.inl hnil)] at h
  cases h

/-- The last component of a source of a known language is a name, and not a step. -/
theorem ordinary_name_of_forPath {classes : List Text} {source : Text} {language : Language}
    (h : (standard classes).forPath source = some language) : IsOrdinary (Path.name source) := by
  have hdiffer : ∀ name : Text, (Path.splitName name).2 = [] → Path.name source ≠ name := by
    intro name hextension hname
    exact extension_ne_nil_of_forPath h (by rw [Path.extension, hname, hextension])
  exact ⟨hdiffer [] rfl, Path.slash_not_mem_name source, hdiffer ['.'] (by decide),
    hdiffer ['.', '.'] (by decide)⟩

/-- A source ends in its name, which has a registered extension. -/
theorem exists_placeOf_eq {classes : List Text} {source : Text} {language : Language}
    (h : (standard classes).forPath source = some language) (disk : Disk) :
    ∃ front, disk.placeOf source = front ++ [Path.name source] := by
  have hname := ordinary_name_of_forPath h
  have hlast : (names source).getLast? = some (Path.name source) := by
    rw [← Path.names_parent_append source, Path.names_name hname.1, List.getLast?_concat]
  exact ⟨_, Disk.placeOf_of_getLast? hlast hname⟩

/-- A source is at no place whose last name has the extension of an output file. -/
theorem placeOf_ne_of_ending {classes : List Text} {source : Text} {language : Language}
    (h : (standard classes).forPath source = some language) (disk : Disk) (front : Location)
    (stem : Text) {ending : Text} (hdot : '.' ∉ ending)
    (hending : '.' :: ending = ".html".toList ∨ '.' :: ending = ".css".toList) :
    disk.placeOf source ≠ front ++ [stem ++ '.' :: ending] := by
  obtain ⟨start, heq⟩ := exists_placeOf_eq h disk
  rw [heq]
  intro hsame
  have hname : Path.name source = stem ++ '.' :: ending :=
    List.singleton_inj.1 (List.append_inj' hsame rfl).2
  have hnone : (standard classes).lookup (Path.extension source) = none := by
    refine lookup_standard_eq_none classes ?_
    rw [Path.extension, hname]
    rcases Path.splitName_ending hdot stem with hnil | hsome
    · exact Or.inl hnil
    · rw [hsome]
      exact Or.inr hending
  rw [forPath, hnone] at h
  cases h

theorem placeOf_ne_pagePath {classes : List Text} {source : Text} {language : Language}
    (h : (standard classes).forPath source = some language) (disk : Disk) (layout : Layout)
    (other : Text) : disk.placeOf (layout.pagePath other) ≠ disk.placeOf source := by
  obtain ⟨front, stem, heq⟩ := Layout.exists_placeOf_pagePath disk layout other
  have hending : pageEnding = '.' :: "html".toList := by decide
  rw [heq, hending]
  exact (placeOf_ne_of_ending h disk front stem (by decide) (by decide)).symm

theorem placeOf_ne_stylesheetPath {classes : List Text} {source : Text} {language : Language}
    (h : (standard classes).forPath source = some language) (disk : Disk) (layout : Layout) :
    disk.placeOf layout.stylesheetPath ≠ disk.placeOf source := by
  have hname : stylesheetName = "docco".toList ++ '.' :: "css".toList := by decide
  rw [Layout.placeOf_stylesheetPath, hname]
  exact (placeOf_ne_of_ending h disk _ _ (by decide) (by decide)).symm

end Registry
end Marginalia
