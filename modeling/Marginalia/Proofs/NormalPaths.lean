import Marginalia.Proofs.PageLinks

/-!
# The normal form of a path

A normal path is written from its root slashes and its components, and both can
be read off it again. So the names of an absolute normal path are where a walk
from the root along the original one would end, and what a path as seen from a
directory comes to is a matter of names alone.

Parent steps are the one thing that a normal path can keep, and it keeps them in
front only: a parent step behind a component takes that component away.
-/

namespace Marginalia

open Marginalia.Disk (names)
open Marginalia.Path (IsName IsOrdinary)

/-- In a list that has all its `a` in front, dropping these is dropping them everywhere. -/
theorem filter_eq_dropWhile_replicate {α : Type} [DecidableEq α] (a : α) (k : Nat) {rest : List α}
    (h : a ∉ rest) : (List.replicate k a ++ rest).filter (· ≠ a) =
      (List.replicate k a ++ rest).dropWhile (· = a) := by
  have hrest : rest.filter (· ≠ a) = rest :=
    List.filter_eq_self.2 fun other hmem => decide_eq_true fun hsame => h (hsame ▸ hmem)
  have hdrop : rest.dropWhile (· = a) = rest := by
    cases rest with
    | nil => rfl
    | cons first rest =>
        exact List.dropWhile_cons_of_neg
          (by simpa using fun hsame : first = a => h (hsame ▸ List.mem_cons_self ..))
  induction k with
  | zero => rw [List.replicate_zero, List.nil_append, hrest, hdrop]
  | succ k ih =>
      rw [List.replicate_succ, List.cons_append, List.filter_cons_of_neg (by simp),
        List.dropWhile_cons_of_pos (by simp), ih]

theorem takeWhile_append_of_exists {α : Type} {p : α → Bool} {front : List α}
    (h : ∃ x ∈ front, p x = false) (rest : List α) :
    (front ++ rest).takeWhile p = front.takeWhile p := by
  obtain ⟨x, hx, hp⟩ := h
  rw [List.takeWhile_append, if_neg]
  intro hlength
  have hself := (List.takeWhile_prefix p).eq_of_length hlength
  rw [← hself] at hx
  rw [List.mem_takeWhile_imp hx] at hp
  cases hp

namespace Path

/-! ## Components -/

theorem pushComponent_of_ordinary {part : Text} (h : IsOrdinary part) (absolute : Bool)
    (components : List Text) : pushComponent absolute components part = part :: components := by
  obtain ⟨hne, _, hdot, hdots⟩ := h
  have hparent : (part != "..".toList) = true := bne_iff_ne.2 hdots
  unfold pushComponent
  rw [if_neg (by simpa using ⟨hne, hdot⟩), if_pos hparent]

/-- A step keeps the parent steps at the far end of the components so far. -/
theorem pushComponent_append_replicate (absolute : Bool) {rest : List Text} (k : Nat) (part : Text)
    (h : "..".toList ∉ rest) :
    ∃ k' rest', pushComponent absolute (rest ++ List.replicate k "..".toList) part =
      rest' ++ List.replicate k' "..".toList ∧ "..".toList ∉ rest' := by
  unfold pushComponent
  split
  · exact ⟨k, rest, rfl, h⟩
  · split
    · next hdots =>
        refine ⟨k, part :: rest, rfl, fun hmem => ?_⟩
        rcases List.mem_cons.1 hmem with hsame | hmem
        · exact bne_iff_ne.1 hdots hsame.symm
        · exact h hmem
    · next hdots =>
        obtain rfl : part = "..".toList := by simpa using hdots
        cases rest with
        | cons last rest =>
            have hlast : last ≠ "..".toList := fun hsame => h (hsame ▸ List.mem_cons_self ..)
            exact ⟨k, rest, if_neg hlast, fun hmem => h (List.mem_cons_of_mem _ hmem)⟩
        | nil =>
            cases k with
            | zero =>
                cases absolute with
                | true => exact ⟨0, [], rfl, h⟩
                | false => exact ⟨1, [], rfl, h⟩
            | succ k => exact ⟨k + 2, [], if_pos rfl, h⟩

/-- The parent steps among the components of a path are all in front. -/
theorem exists_components_eq (path : Text) :
    ∃ k rest, components path = List.replicate k "..".toList ++ rest ∧ "..".toList ∉ rest := by
  have hfold : ∀ (parts rest : List Text) (k : Nat), "..".toList ∉ rest →
      ∃ k' rest', parts.foldl (pushComponent (isAbsolute path))
          (rest ++ List.replicate k "..".toList) =
        rest' ++ List.replicate k' "..".toList ∧ "..".toList ∉ rest' := by
    intro parts
    induction parts with
    | nil => exact fun rest k h => ⟨k, rest, rfl, h⟩
    | cons part parts ih =>
        intro rest k h
        obtain ⟨k', rest', heq, hrest⟩ :=
          pushComponent_append_replicate (isAbsolute path) k part h
        rw [List.foldl_cons, heq]
        exact ih rest' k' hrest
  obtain ⟨k, rest, heq, hrest⟩ := hfold (Text.splitOn '/' path) [] 0 List.not_mem_nil
  refine ⟨k, rest.reverse, ?_, fun hmem => hrest (List.mem_reverse.1 hmem)⟩
  have hstack : (Text.splitOn '/' path).foldl (pushComponent (isAbsolute path)) [] =
      rest ++ List.replicate k "..".toList := heq
  rw [components, hstack, List.reverse_append, List.reverse_replicate]

theorem filter_components (path : Text) :
    (components path).filter (· ≠ "..".toList) = (components path).dropWhile (· = "..".toList) := by
  obtain ⟨k, rest, heq, hrest⟩ := exists_components_eq path
  rw [heq]
  exact filter_eq_dropWhile_replicate _ k hrest

/-- An ordinary last name is the last component. -/
theorem components_eq_concat {path : Text} (h : IsOrdinary (name path)) :
    ∃ front, components path = front ++ [name path] := by
  have hpieces : ∃ front, Text.splitOn '/' path = front ++ [name path] := by
    rcases name_cases path with ⟨hslash, hname, _⟩ | ⟨front, hpath, hslash, _⟩
    · exact ⟨[], by rw [Text.splitOn_of_not_mem hslash, hname, List.nil_append]⟩
    · refine ⟨Text.splitOn '/' front, ?_⟩
      have hsplit := Text.splitOn_append_cons '/' front (name path)
      rwa [← hpath, Text.splitOn_of_not_mem hslash] at hsplit
  obtain ⟨front, hfront⟩ := hpieces
  rw [components, hfront, List.foldl_append, List.foldl_cons, List.foldl_nil,
    pushComponent_of_ordinary h, List.reverse_cons]
  exact ⟨_, rfl⟩

/-! ## Root slashes -/

theorem rootSlashes_cases (path : Text) :
    rootSlashes path = [] ∧ isAbsolute path = false ∨
      (rootSlashes path = ['/'] ∨ rootSlashes path = ['/', '/']) ∧ isAbsolute path = true := by
  cases path with
  | nil => exact Or.inl ⟨rfl, rfl⟩
  | cons c path =>
      rw [rootSlashes, isAbsolute_cons]
      cases hc : isSlash c with
      | false =>
          rw [List.takeWhile_cons_of_neg (by simp [hc])]
          exact Or.inl ⟨rfl, rfl⟩
      | true =>
          rw [List.takeWhile_cons_of_pos hc, isSlash_iff.1 hc]
          refine Or.inr ⟨?_, rfl⟩
          split
          · next hnil => cases hnil
          · exact Or.inr rfl
          · exact Or.inl rfl

theorem names_rootSlashes_append (path rest : Text) :
    names (rootSlashes path ++ rest) = names rest := by
  have hslash (rest : Text) : names ('/' :: rest) = names rest := names_append_cons [] rest
  rcases rootSlashes_cases path with ⟨hroot, _⟩ | ⟨hroot | hroot, _⟩ <;> rw [hroot]
  · rfl
  · exact hslash rest
  · exact (hslash _).trans (hslash rest)

/-- What is joined to a path leaves its slashes in front as they are. -/
theorem rootSlashes_join {base path : Text} (h : isAbsolute path = false) :
    rootSlashes (join base path) = rootSlashes base := by
  have htake : (join base path).takeWhile isSlash = base.takeWhile isSlash := by
    have hpath : path.takeWhile isSlash = [] := by
      cases path with
      | nil => rfl
      | cons c path =>
          rw [isAbsolute_cons] at h
          exact List.takeWhile_cons_of_neg (by simp [h])
    rw [join, if_neg (by simp [h])]
    split
    · rw [List.takeWhile_append, hpath, List.append_nil]
      split
      · next hall => exact ((List.takeWhile_prefix _).eq_of_length hall).symm
      · rfl
    · next hbase =>
        obtain ⟨hne, hlast⟩ : base ≠ [] ∧ base.getLast? ≠ some '/' := by
          simpa [not_or] using hbase
        refine takeWhile_append_of_exists ⟨_, List.getLast_mem hne, ?_⟩ _
        rw [Bool.eq_false_iff]
        intro hslash
        rw [List.getLast?_eq_some_getLast hne, isSlash_iff.1 hslash] at hlast
        exact hlast rfl
  rw [rootSlashes, rootSlashes, htake]

/-- The directory that a path lies in starts with the same slashes. -/
theorem rootSlashes_parent (path : Text) : rootSlashes (parent path) = rootSlashes path := by
  have htake : (parent path).takeWhile isSlash = path.takeWhile isSlash := by
    rcases name_cases path with ⟨hslash, _, hparent⟩ | ⟨front, hpath, hslash, hparent⟩
    · rw [hparent]
      cases path with
      | nil => rfl
      | cons c path =>
          refine (List.takeWhile_cons_of_neg fun hc => hslash ?_).symm
          rw [isSlash_iff.1 hc]
          exact List.mem_cons_self ..
    · have hname : (name path).takeWhile isSlash = [] := by
        cases hcons : name path with
        | nil => rfl
        | cons c rest =>
            refine List.takeWhile_cons_of_neg fun hc => hslash ?_
            rw [hcons, isSlash_iff.1 hc]
            exact List.mem_cons_self ..
      conv_rhs => rw [hpath]
      rw [hparent]
      split
      · next hall =>
          have hfront : ∀ c ∈ front, isSlash c = true := List.all_eq_true.1 hall
          rw [List.takeWhile_append_of_pos hfront, List.takeWhile_append_of_pos hfront,
            List.takeWhile_cons_of_pos (by decide), List.takeWhile_cons_of_pos (by decide), hname]
          rfl
      · next hall =>
          obtain ⟨c, hc, hother⟩ : ∃ c ∈ front, isSlash c = false := by simpa using hall
          have hsplit : front = Text.dropEndWhile isSlash front ++
              (front.reverse.takeWhile isSlash).reverse := by
            rw [Text.dropEndWhile, ← List.reverse_append, List.takeWhile_append_dropWhile,
              List.reverse_reverse]
          have hkept : ∃ c ∈ Text.dropEndWhile isSlash front, isSlash c = false := by
            rw [hsplit] at hc
            rcases List.mem_append.1 hc with hc | hc
            · exact ⟨c, hc, hother⟩
            · rw [List.mem_takeWhile_imp (List.mem_reverse.1 hc)] at hother
              cases hother
          rw [takeWhile_append_of_exists ⟨c, hc, hother⟩]
          conv_rhs => rw [hsplit]
          exact (takeWhile_append_of_exists hkept _).symm
  rw [rootSlashes, rootSlashes, htake]

/-! ## Normal forms -/

theorem normalize_eq {path : Text} (h : isAbsolute path = true ∨ components path ≠ []) :
    normalize path = rootSlashes path ++ List.intercalate ['/'] (components path) := by
  have hne : rootSlashes path ++ List.intercalate ['/'] (components path) ≠ [] := by
    intro hnil
    obtain ⟨hroot, hparts⟩ := List.append_eq_nil_iff.1 hnil
    rcases h with habsolute | hcomponents
    · rcases rootSlashes_cases path with ⟨_, hrelative⟩ | ⟨hslash | hslash, _⟩
      · rw [habsolute] at hrelative
        cases hrelative
      · rw [hslash] at hroot
        cases hroot
      · rw [hslash] at hroot
        cases hroot
    · have hnames := names_intercalate (isName_components path)
      rw [hparts] at hnames
      exact hcomponents hnames.symm
  rw [normalize]
  split
  · next hnil => exact absurd hnil hne
  · rfl

/-- The components of a path are the names of its normal form. -/
theorem names_normalize {path : Text} (h : isAbsolute path = true ∨ components path ≠ []) :
    names (normalize path) = components path := by
  rw [normalize_eq h, names_rootSlashes_append,
    names_intercalate (isName_components path)]

/-! ## A path as seen from a directory -/

theorem components_join {cwd : Text} (hcwd : isAbsolute cwd = true) (path : Text) :
    components (join cwd path) =
      Location.follow (if isAbsolute path then [] else components cwd) (names path) := by
  cases habsolute : isAbsolute path with
  | true => rw [join, if_pos habsolute, components_of_isAbsolute habsolute, if_pos rfl]
  | false =>
      rw [components_of_isAbsolute (isAbsolute_join_left hcwd path), names_join habsolute,
        Location.follow_append, ← components_of_isAbsolute hcwd]
      rfl

theorem names_absolute {cwd : Text} (hcwd : isAbsolute cwd = true) (path : Text) :
    names (absolute cwd path) = components (join cwd path) :=
  names_normalize (Or.inl (isAbsolute_join_left hcwd path))

/-- A normal path is told by its root slashes and its components. -/
theorem absolute_eq_absolute {cwd path other start : Text}
    (hroot : rootSlashes (join cwd path) = rootSlashes (join start other))
    (hcomponents : components (join cwd path) = components (join start other)) :
    absolute cwd path = absolute start other := by
  rw [absolute, absolute, normalize, normalize, hroot, hcomponents]

theorem rootSlashes_absolute {cwd : Text} (hcwd : isAbsolute cwd = true) (path : Text) :
    rootSlashes (absolute cwd path) = rootSlashes (join cwd path) := by
  have hjoin := isAbsolute_join_left hcwd path
  have hrest := isAbsolute_intercalate (isName_components (join cwd path))
  rw [absolute, normalize_eq (Or.inl hjoin)]
  generalize List.intercalate ['/'] (components (join cwd path)) = rest at hrest
  have htake : rest.takeWhile isSlash = [] := by
    cases rest with
    | nil => rfl
    | cons c rest =>
        rw [isAbsolute_cons] at hrest
        exact List.takeWhile_cons_of_neg (by simp [hrest])
  rcases rootSlashes_cases (join cwd path) with ⟨_, hrelative⟩ | ⟨hroot | hroot, _⟩
  · rw [hjoin] at hrelative
    cases hrelative
  all_goals
    rw [hroot, rootSlashes, List.takeWhile_append_of_pos (by simp [isSlash_iff]), htake]
    rfl

theorem isAbsolute_absolute {cwd : Text} (hcwd : isAbsolute cwd = true) (path : Text) :
    isAbsolute (absolute cwd path) = true := by
  have hroot := rootSlashes_absolute hcwd path
  rcases rootSlashes_cases (absolute cwd path) with ⟨hnil, _⟩ | ⟨_, habsolute⟩
  · rcases rootSlashes_cases (join cwd path) with ⟨_, hrelative⟩ | ⟨hslash | hslash, _⟩
    · rw [isAbsolute_join_left hcwd] at hrelative
      cases hrelative
    all_goals
      rw [hnil, hslash] at hroot
      cases hroot
  · exact habsolute

/-- A path that goes on from another one goes on from where that one is. -/
theorem components_join_intercalate {cwd : Text} (hcwd : isAbsolute cwd = true) (base : Text)
    {parts : List Text} (h : ∀ part ∈ parts, IsOrdinary part) :
    components (join cwd (join base (List.intercalate ['/'] parts))) =
      components (join cwd base) ++ parts := by
  have hnames : ∀ part ∈ parts, IsName part := fun part hmem => (h part hmem).isName
  rw [components_join hcwd, components_join hcwd, isAbsolute_join (isAbsolute_intercalate hnames),
    names_join_intercalate base hnames, Location.follow_append, Location.follow_of_ordinary h]

end Path
end Marginalia
