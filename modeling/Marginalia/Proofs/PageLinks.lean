import Marginalia.Proofs.PagePlaces

/-!
# Where links lead

A link is made of normal components alone: parent steps from the directory of a
page up to what it shares with the target, and the rest of the target down. The
components of an absolute path are the names of its place, so both ends of a link
can be read as places, and a walk along the link from the one comes to the other.

All this is about paths as texts. It needs no more of the disk than that the
current directory is a place which names can lead to.
-/

namespace Marginalia

open Marginalia.Disk (names)
open Marginalia.Path (IsName IsOrdinary)

namespace Location

theorem ordinary_follow {here : Location} {route : List Text}
    (hhere : ∀ name ∈ here, IsOrdinary name) (hroute : ∀ name ∈ route, IsName name) :
    ∀ name ∈ follow here route, IsOrdinary name := by
  induction route generalizing here with
  | nil => exact hhere
  | cons next route ih =>
      obtain ⟨hne, hslash⟩ := hroute next (List.mem_cons_self ..)
      refine ih (fun name hmem => ?_) fun name hmem => hroute name (List.mem_cons_of_mem _ hmem)
      rw [step] at hmem
      split at hmem
      · exact hhere name hmem
      · next hdot =>
          split at hmem
          · exact hhere name (List.dropLast_subset _ hmem)
          · next hdots =>
              rcases List.mem_append.1 hmem with hmem | hmem
              · exact hhere name hmem
              · rw [List.mem_singleton.1 hmem]
                exact ⟨hne, hslash, hdot, hdots⟩

/-- As many parent steps as there are names lead back to where these began. -/
theorem follow_parents (here below : Location) :
    follow (here ++ below) (below.map fun _ => "..".toList) = here := by
  rw [List.map_const']
  induction below using List.reverseRecOn with
  | nil => exact List.append_nil here
  | append_singleton below last ih =>
      have hstep : step (here ++ (below ++ [last])) "..".toList = here ++ below := by
        rw [← List.append_assoc]
        exact List.dropLast_concat
      rw [List.length_append, List.length_singleton, List.replicate_succ, follow_cons, hstep, ih]

end Location

namespace Path

/-! ## Components -/

/-- Below the root, a component is added as a walk takes a step. -/
theorem reverse_pushComponent {components : List Text} {part : Text} (hne : part ≠ [])
    (hdots : "..".toList ∉ components) :
    "..".toList ∉ pushComponent true components part ∧
      (pushComponent true components part).reverse = Location.step components.reverse part := by
  unfold pushComponent Location.step
  by_cases hdot : part = ['.']
  · rw [if_pos (by rw [hdot]; decide), if_pos hdot]
    exact ⟨hdots, rfl⟩
  · rw [if_neg (by simpa using ⟨hne, hdot⟩), if_neg hdot]
    by_cases hparent : part = ['.', '.']
    · rw [if_neg (by rw [hparent]; decide), if_pos hparent]
      cases components with
      | nil => exact ⟨List.not_mem_nil, rfl⟩
      | cons last components =>
          have hlast : last ≠ "..".toList := fun h => hdots (h ▸ List.mem_cons_self ..)
          simp only [if_neg hlast]
          rw [List.reverse_cons, List.dropLast_concat]
          exact ⟨fun hmem => hdots (List.mem_cons_of_mem _ hmem), rfl⟩
    · have hne : (part != "..".toList) = true := bne_iff_ne.2 hparent
      rw [if_pos hne, if_neg hparent, List.reverse_cons]
      refine ⟨fun hmem => ?_, rfl⟩
      rcases List.mem_cons.1 hmem with hpart | hmem
      · exact hparent hpart.symm
      · exact hdots hmem

/-- Below the root, normal components are the names of a walk. -/
theorem components_of_isAbsolute {path : Text} (h : isAbsolute path = true) :
    components path = Location.follow [] (names path) := by
  have hpush : ∀ (parts components : List Text), "..".toList ∉ components →
      (parts.foldl (pushComponent true) components).reverse =
        Location.follow components.reverse (parts.filter (· ≠ [])) := by
    intro parts
    induction parts with
    | nil => exact fun components _ => rfl
    | cons part parts ih =>
        intro components hdots
        rw [List.foldl_cons]
        by_cases hnil : part = []
        · rw [hnil]
          exact ih components hdots
        · have hfilter : (part :: parts).filter (· ≠ []) = part :: parts.filter (· ≠ []) :=
            List.filter_cons_of_pos (decide_eq_true hnil)
          obtain ⟨hdots, hreverse⟩ := reverse_pushComponent hnil hdots
          rw [hfilter, Location.follow_cons, ih _ hdots, hreverse]
  rw [components, h, hpush _ [] (List.not_mem_nil), names]
  rfl

theorem exists_dropCommon_eq (as bs : List Text) :
    ∃ common, as = common ++ (dropCommon as bs).1 ∧ bs = common ++ (dropCommon as bs).2 := by
  fun_induction dropCommon as bs with
  | case1 as a bs ih =>
      obtain ⟨common, has, hbs⟩ := ih
      exact ⟨a :: common, congrArg (a :: ·) has, congrArg (a :: ·) hbs⟩
  | case2 a as b bs hne => exact ⟨[], rfl, rfl⟩
  | case3 as bs h => exact ⟨[], rfl, rfl⟩

theorem ordinary_components {path : Text} (h : isAbsolute path = true) :
    ∀ name ∈ components path, IsOrdinary name := by
  rw [components_of_isAbsolute h]
  refine Location.ordinary_follow (fun name hnil => by cases hnil) fun name hmem => ?_
  exact ⟨ne_nil_of_mem_names hmem, slash_not_mem_of_mem_names hmem⟩

theorem isAbsolute_join_left {base : Text} (h : isAbsolute base = true) (path : Text) :
    isAbsolute (join base path) = true := by
  cases habsolute : isAbsolute path with
  | true => rw [join, if_pos habsolute, habsolute]
  | false => rw [isAbsolute_join habsolute, h]

/-! ## Relative paths -/

theorem isName_components (path : Text) : ∀ part ∈ components path, IsName part := by
  intro part hmem
  obtain ⟨hne, hslash, _⟩ := Layout.name_of_mem_components hmem
  exact ⟨hne, hslash⟩

/-- The steps go up from the directory to what it shares with the path, and then down. -/
theorem exists_relativeComponents_eq (cwd path start : Text) :
    ∃ common up down, components (join cwd start) = common ++ up ∧
      components (join cwd path) = common ++ down ∧
      relativeComponents cwd path start = up.map (fun _ => "..".toList) ++ down := by
  obtain ⟨common, hup, hdown⟩ :=
    exists_dropCommon_eq (components (join cwd start)) (components (join cwd path))
  exact ⟨common, _, _, hup, hdown, rfl⟩

/-- A relative path is written from its steps, or is a dot if there are none. -/
theorem exists_relative_eq (cwd target directory : Text) :
    ∃ parts, relative cwd target directory = List.intercalate ['/'] parts ∧
      (∀ part ∈ parts, IsName part) ∧
      ∀ here, Location.follow here parts =
        Location.follow here (relativeComponents cwd target directory) := by
  have hnames : ∀ part ∈ relativeComponents cwd target directory, IsName part := by
    obtain ⟨common, up, down, _, hdown, hsteps⟩ :=
      exists_relativeComponents_eq cwd target directory
    intro part hmem
    rw [hsteps] at hmem
    rcases List.mem_append.1 hmem with hmem | hmem
    · obtain ⟨_, _, rfl⟩ := List.mem_map.1 hmem
      exact ⟨by decide, by decide⟩
    · refine isName_components (join cwd target) part ?_
      rw [hdown]
      exact List.mem_append_right common hmem
  rw [relative]
  split
  · next hnil =>
      rw [hnil]
      refine ⟨[['.']], (List.intercalate_singleton ..).symm, fun part hmem => ?_, fun here => rfl⟩
      rw [List.mem_singleton.1 hmem]
      exact ⟨by decide, by decide⟩
  · exact ⟨_, rfl, hnames, fun here => rfl⟩

theorem isAbsolute_relative (cwd target directory : Text) :
    isAbsolute (relative cwd target directory) = false := by
  obtain ⟨parts, heq, hparts, _⟩ := exists_relative_eq cwd target directory
  rw [heq, isAbsolute_intercalate hparts]

/-- A relative path leads, from the directory that it is relative to, to its target. -/
theorem follow_relative {cwd : Text} (hcwd : isAbsolute cwd = true) (target directory : Text) :
    Location.follow (components (join cwd directory)) (names (relative cwd target directory)) =
      components (join cwd target) := by
  obtain ⟨parts, heq, hparts, hfollow⟩ := exists_relative_eq cwd target directory
  obtain ⟨common, up, down, hup, hdown, hsteps⟩ :=
    exists_relativeComponents_eq cwd target directory
  have hordinary : ∀ name ∈ down, IsOrdinary name := by
    intro name hmem
    refine ordinary_components (isAbsolute_join_left hcwd target) name ?_
    rw [hdown]
    exact List.mem_append_right common hmem
  rw [heq, names_intercalate hparts, hfollow, hsteps, Location.follow_append, hup,
    Location.follow_parents, Location.follow_of_ordinary hordinary, hdown]

end Path

namespace Disk

variable {disk : Disk}

/-- The components of a path as seen from the current directory are its place. -/
theorem components_join_pathOf (hcwd : ∀ name ∈ disk.cwd, IsOrdinary name) (path : Text) :
    Path.components (Path.join (pathOf disk.cwd) path) = disk.placeOf path := by
  have hroot : Path.isAbsolute (pathOf disk.cwd) = true := rfl
  cases habsolute : Path.isAbsolute path with
  | true =>
      have hjoin : Path.join (pathOf disk.cwd) path = path := by
        rw [Path.join, if_pos habsolute]
      rw [hjoin, Path.components_of_isAbsolute habsolute, placeOf, start, if_pos habsolute]
  | false =>
      have hnames : names (pathOf disk.cwd) = disk.cwd := by
        rw [pathOf, ← List.nil_append ('/' :: _), Path.names_append_cons,
          Path.names_intercalate fun name hmem => (hcwd name hmem).isName]
        rfl
      rw [Path.components_of_isAbsolute ((Path.isAbsolute_join habsolute).trans hroot),
        Path.names_join habsolute, Location.follow_append, hnames,
        Location.follow_of_ordinary hcwd, List.nil_append, placeOf, start,
        if_neg (by simp [habsolute])]

/-- The same where a disk is: a relative path leads from its directory to its target. -/
theorem placeOf_join_relative (hcwd : ∀ name ∈ disk.cwd, IsOrdinary name)
    (target directory : Text) :
    disk.placeOf (Path.join directory (Path.relative (pathOf disk.cwd) target directory)) =
      disk.placeOf target := by
  have hroot : Path.isAbsolute (pathOf disk.cwd) = true := rfl
  have hrelative := Path.isAbsolute_relative (pathOf disk.cwd) target directory
  have hstart : disk.start (Path.join directory
      (Path.relative (pathOf disk.cwd) target directory)) = disk.start directory := by
    rw [start, start, Path.isAbsolute_join hrelative]
  rw [placeOf, hstart, Path.names_join hrelative, Location.follow_append, ← placeOf,
    ← components_join_pathOf hcwd, ← components_join_pathOf hcwd, Path.follow_relative hroot]

end Disk
end Marginalia
