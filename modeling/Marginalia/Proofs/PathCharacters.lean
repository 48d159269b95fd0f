import Marginalia.Disk.Lemmas
import Marginalia.Proofs.PagePlaces

/-!
# The characters of a path

Taking paths apart and putting them together brings in no characters but slashes
and dots, and building the path of a page or of the stylesheet no others but those
of its name. So what none of these characters is, no character of a path is that is
made from paths without it. A run whose output directory and sources have no NUL
character in their paths never asks the system for a path that has one.
-/

namespace Marginalia

open Marginalia.Disk (hasNull hasNull_eq_false)

namespace Text

/-- No character of a text has a property. -/
def Lacks (p : Char → Bool) (text : Text) : Prop :=
  ∀ c ∈ text, p c = false

variable {p : Char → Bool}

theorem Lacks.of_subset {text part : Text} (h : Lacks p text) (hpart : part ⊆ text) :
    Lacks p part :=
  fun c hmem => h c (hpart hmem)

theorem Lacks.append {text other : Text} (h : Lacks p text) (hother : Lacks p other) :
    Lacks p (text ++ other) :=
  fun c hmem => (List.mem_append.1 hmem).elim (h c) (hother c)

theorem Lacks.intercalate {separator : Text} {pieces : List Text} (h : Lacks p separator)
    (hpieces : ∀ piece ∈ pieces, Lacks p piece) : Lacks p (List.intercalate separator pieces) := by
  intro c hmem
  rcases mem_intercalate hmem with hseparator | ⟨piece, hpiece, hc⟩
  · exact h c hseparator
  · exact hpieces piece hpiece c hc

theorem hasNull_eq_false_iff {text : Text} : hasNull text = false ↔ Lacks (· == '\x00') text := by
  rw [hasNull_eq_false]
  constructor
  · intro h c hmem
    rw [beq_eq_false_iff_ne]
    rintro rfl
    exact h hmem
  · intro h hmem
    simpa using h _ hmem

end Text

open Text (Lacks)

namespace Path

theorem name_subset (path : Text) : name path ⊆ path := by
  intro c hmem
  exact List.mem_reverse.1 ((List.takeWhile_sublist _).subset (List.mem_reverse.1 hmem))

theorem parent_subset (path : Text) : parent path ⊆ path := by
  have hhead : (path.reverse.dropWhile fun c => !isSlash c).reverse ⊆ path := fun c hmem =>
    List.mem_reverse.1 ((List.dropWhile_sublist _).subset (List.mem_reverse.1 hmem))
  intro c hmem
  rw [parent] at hmem
  split at hmem
  · exact hhead hmem
  · exact hhead (List.mem_reverse.1 ((List.dropWhile_sublist _).subset (List.mem_reverse.1 hmem)))

theorem splitLast_fst_subset (path : Text) : (Disk.splitLast path).1 ⊆ path := by
  rw [Disk.splitLast]
  split
  · exact List.Subset.trans (parent_subset _) (parent_subset path)
  · exact parent_subset path

/-- None of the characters has a property that paths are put together with. -/
def Ignores (p : Char → Bool) : Prop :=
  Lacks p ('/' :: pageEnding ++ stylesheetName)

variable {p : Char → Bool} (h : Ignores p)

include h

theorem Ignores.slash : p '/' = false := h _ (by decide)

theorem Ignores.dot : p '.' = false := h _ (by decide)

theorem Ignores.directoryOf {path : Text} (hpath : Lacks p path) : Lacks p (directoryOf path) := by
  rw [Path.directoryOf]
  split
  · exact List.forall_mem_singleton.2 h.dot
  · exact hpath.of_subset (parent_subset path)

theorem Ignores.join {base path : Text} (hbase : Lacks p base) (hpath : Lacks p path) :
    Lacks p (join base path) := by
  obtain ⟨front, heq, hfront⟩ := exists_join_eq base path
  rw [heq]
  refine Text.Lacks.append (fun c hmem => ?_) hpath
  rcases hfront c hmem with hmem | rfl
  · exact hbase c hmem
  · exact h.slash

omit h in
theorem lacks_of_mem_components {path part : Text} (hpath : Lacks p path)
    (hpart : part ∈ components path) : Lacks p part :=
  hpath.of_subset (Text.subset_of_mem_splitOn (Layout.mem_splitOn_of_mem_components hpart).1)

end Path

namespace Layout

open Path (Ignores)

variable {p : Char → Bool} (h : Ignores p)

include h

theorem lacks_relativeSource {source : Text} (hsource : Lacks p source) :
    Lacks p (relativeSource source) := by
  rw [relativeSource]
  split
  · exact hsource.of_subset (Path.name_subset source)
  · exact Text.Lacks.intercalate (List.forall_mem_singleton.2 h.slash) fun part hpart =>
      Path.lacks_of_mem_components hsource (List.mem_filter.1 hpart).1

theorem lacks_pagePath {layout : Layout} {source : Text} (houtput : Lacks p layout.outputDir)
    (hsource : Lacks p source) : Lacks p (layout.pagePath source) := by
  rw [pagePath]
  refine h.join houtput (Text.Lacks.append (Text.Lacks.of_subset ?_ (List.take_subset _ _)) ?_)
  · split
    · exact lacks_relativeSource h hsource
    · exact hsource.of_subset (Path.name_subset source)
  · exact h.of_subset fun c hmem => List.mem_append_left _ (List.mem_cons_of_mem _ hmem)

end Layout

/-! ## NUL characters -/

theorem Path.ignores_null : Ignores (· == '\x00') :=
  Text.hasNull_eq_false_iff.1 (by decide)

theorem Path.hasNull_join {base path : Text} (hbase : hasNull base = false)
    (hpath : hasNull path = false) : hasNull (join base path) = false := by
  rw [Text.hasNull_eq_false_iff] at *
  exact ignores_null.join hbase hpath

theorem Path.hasNull_directoryOf {path : Text} (h : hasNull path = false) :
    hasNull (directoryOf path) = false := by
  rw [Text.hasNull_eq_false_iff] at *
  exact ignores_null.directoryOf h

theorem Layout.hasNull_pagePath {layout : Layout} {source : Text}
    (houtput : hasNull layout.outputDir = false) (hsource : hasNull source = false) :
    hasNull (layout.pagePath source) = false := by
  rw [Text.hasNull_eq_false_iff] at *
  exact lacks_pagePath Path.ignores_null houtput hsource

end Marginalia
