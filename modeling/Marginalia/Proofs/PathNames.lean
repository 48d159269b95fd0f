import Marginalia.Layout
import Marginalia.Disk.Write
import Marginalia.Proofs.TextLines

/-!
# The names of a path

A walk does not see a path but its names, the parts between slashes that are not
empty. This file says what the operations on paths do to the names: the last one
is split off, paths are joined, extensions are taken off and put on. None of it
looks at a disk.
-/

namespace Marginalia

open Marginalia.Disk (names)

namespace Path

/-- What can stand between two slashes of a path. -/
def IsName (name : Text) : Prop :=
  name ≠ [] ∧ '/' ∉ name

instance : DecidablePred IsName := fun _ => inferInstanceAs (Decidable (_ ∧ _))

/-- A name that stands for something in a directory, and not for a step on the
spot or up. -/
def IsOrdinary (name : Text) : Prop :=
  name ≠ [] ∧ '/' ∉ name ∧ name ≠ ['.'] ∧ name ≠ ['.', '.']

instance : DecidablePred IsOrdinary := fun _ => inferInstanceAs (Decidable (_ ∧ _))

theorem IsOrdinary.isName {name : Text} (h : IsOrdinary name) : IsName name :=
  ⟨h.1, h.2.1⟩

theorem isSlash_iff {c : Char} : isSlash c = true ↔ c = '/' := beq_iff_eq

theorem isAbsolute_cons (c : Char) (path : Text) : isAbsolute (c :: path) = isSlash c := by
  by_cases hc : c = '/'
  · rw [hc]
    rfl
  · simp [isAbsolute, isSlash, hc]

/-! ## Names of a longer path -/

@[simp] theorem names_nil : names [] = [] := rfl

theorem names_append_cons (front rest : Text) :
    names (front ++ '/' :: rest) = names front ++ names rest := by
  rw [names, Text.splitOn_append_cons, List.filter_append]
  rfl

theorem names_concat (path : Text) : names (path ++ ['/']) = names path := by
  rw [names_append_cons]
  exact List.append_nil _

theorem names_of_not_mem {name : Text} (hslash : '/' ∉ name) (hne : name ≠ []) :
    names name = [name] := by
  rw [names, Text.splitOn_of_not_mem hslash]
  simp [hne]

theorem slash_not_mem_of_mem_names {path name : Text} (h : name ∈ names path) : '/' ∉ name :=
  Text.not_mem_of_mem_splitOn (List.mem_filter.1 h).1

theorem ne_nil_of_mem_names {path name : Text} (h : name ∈ names path) : name ≠ [] := by
  simpa using (List.mem_filter.1 h).2

theorem names_dropEndWhile (path : Text) :
    names (Text.dropEndWhile isSlash path) = names path := by
  induction path using List.reverseRecOn with
  | nil => rfl
  | append_singleton path c ih =>
      cases hc : isSlash c with
      | true =>
          rw [Text.dropEndWhile_concat_of_pos hc, ih, isSlash_iff.1 hc, names_concat]
      | false => rw [Text.dropEndWhile_concat_of_neg hc]

/-! ## The last component -/

/-- A path is its last component, or that follows a slash. -/
theorem name_cases (path : Text) :
    '/' ∉ path ∧ name path = path ∧ parent path = [] ∨
      ∃ front, path = front ++ '/' :: name path ∧ '/' ∉ name path ∧
        parent path =
          if front.all isSlash then front ++ ['/'] else Text.dropEndWhile isSlash front := by
  by_cases hmem : '/' ∈ path.reverse
  · obtain ⟨enil, front, heq, hline⟩ := List.eq_append_cons_of_mem hmem
    have hpath : path = front.reverse ++ '/' :: enil.reverse := by
      rw [← List.reverse_reverse path, heq]
      simp
    have hall : ∀ c ∈ enil, (!isSlash c) = true := by
      intro c hc
      rw [Bool.not_eq_true', Bool.eq_false_iff]
      exact fun hslash => hline (isSlash_iff.1 hslash ▸ hc)
    have hname : name path = enil.reverse := by
      rw [name, heq, List.takeWhile_append_of_pos hall, List.takeWhile_cons_of_neg (by decide),
        List.append_nil]
    refine Or.inr ⟨front.reverse, hname ▸ hpath, by simpa [hname] using hline, ?_⟩
    have hhead : (path.reverse.dropWhile fun c => !isSlash c).reverse =
        front.reverse ++ ['/'] := by
      rw [heq, List.dropWhile_append_of_pos hall, List.dropWhile_cons_of_neg (by decide)]
      simp
    have hslash : isSlash '/' = true := by decide
    rw [parent, hhead, List.all_append, Text.dropEndWhile_concat_of_pos hslash]
    simp [hslash]
  · have hall : ∀ c ∈ path.reverse, (!isSlash c) = true := by
      intro c hc
      rw [Bool.not_eq_true', Bool.eq_false_iff]
      exact fun hslash => hmem (isSlash_iff.1 hslash ▸ hc)
    refine Or.inl ⟨by simpa using hmem, ?_, ?_⟩
    · rw [name, List.takeWhile_eq_self_iff.2 hall, List.reverse_reverse]
    · rw [parent, List.dropWhile_eq_nil_iff.2 hall]
      rfl

theorem slash_not_mem_name (path : Text) : '/' ∉ name path := by
  rcases name_cases path with ⟨hslash, hname, _⟩ | ⟨_, _, hslash, _⟩
  · rw [hname]
    exact hslash
  · exact hslash

theorem names_parent_append (path : Text) :
    names (parent path) ++ names (name path) = names path := by
  rcases name_cases path with ⟨_, hname, hparent⟩ | ⟨front, hpath, _, hparent⟩
  · rw [hname, hparent]
    rfl
  · have hfront : names (parent path) = names front := by
      rw [hparent]
      split
      · exact names_concat front
      · exact names_dropEndWhile front
    calc names (parent path) ++ names (name path)
        = names (front ++ '/' :: name path) := by rw [hfront, names_append_cons]
      _ = names path := by rw [← hpath]

theorem isAbsolute_parent {path : Text} (h : parent path ≠ []) :
    isAbsolute (parent path) = isAbsolute path := by
  rcases name_cases path with ⟨_, _, hparent⟩ | ⟨front, hpath, _, hparent⟩
  · exact absurd hparent h
  · have hfront : isAbsolute (parent path) = isAbsolute (front ++ ['/']) := by
      rw [hparent]
      split
      · rfl
      · next hall =>
          rw [hparent, if_neg hall] at h
          cases front with
          | nil => exact absurd rfl hall
          | cons c front =>
              rw [Text.dropEndWhile_cons] at h ⊢
              split
              · next hnil => rw [if_pos hnil] at h; exact absurd rfl h
              · rw [List.cons_append, isAbsolute_cons, isAbsolute_cons]
    rw [hfront]
    conv_rhs => rw [hpath]
    cases front with
    | nil => rfl
    | cons c front =>
        rw [List.cons_append, List.cons_append, isAbsolute_cons, isAbsolute_cons]

theorem names_name {path : Text} (h : name path ≠ []) : names (name path) = [name path] :=
  names_of_not_mem (slash_not_mem_name path) h

theorem names_splitLast {path : Text} (h : (Disk.splitLast path).2 ≠ []) :
    names (Disk.splitLast path).1 ++ [(Disk.splitLast path).2] = names path := by
  rw [Disk.splitLast] at h ⊢
  split
  · next hname =>
      rw [if_pos hname] at h
      rw [← names_parent_append path, hname, names_nil, List.append_nil,
        ← names_parent_append (parent path), names_name h]
  · next hname => rw [← names_parent_append path, names_name hname]

theorem isAbsolute_splitLast {path : Text} (h : (Disk.splitLast path).1 ≠ []) :
    isAbsolute (Disk.splitLast path).1 = isAbsolute path := by
  rw [Disk.splitLast] at h ⊢
  split
  · next hname =>
      rw [if_pos hname] at h
      have hparent : parent path ≠ [] := by
        intro hnil
        rw [hnil] at h
        exact h rfl
      rw [isAbsolute_parent h, isAbsolute_parent hparent]
  · next hname =>
      rw [if_neg hname] at h
      exact isAbsolute_parent h

theorem name_ne_nil {path : Text} (hne : path ≠ []) (hslash : Disk.endsInSlash path = false) :
    name path ≠ [] := by
  intro hname
  rcases name_cases path with ⟨_, hself, _⟩ | ⟨front, hpath, _, _⟩
  · exact hne (hself.symm.trans hname)
  · rw [hpath, hname, Disk.endsInSlash, List.getLast?_concat] at hslash
    exact absurd hslash (by decide)

theorem names_parent {path : Text} (hname : name path ≠ []) :
    names (parent path) = (names path).dropLast := by
  rw [← names_parent_append path, names_name hname, List.dropLast_concat]

theorem isAbsolute_of_not_mem {path : Text} (h : '/' ∉ path) : isAbsolute path = false := by
  cases path with
  | nil => rfl
  | cons c path =>
      rw [isAbsolute_cons, Bool.eq_false_iff]
      exact fun hc => h (isSlash_iff.1 hc ▸ List.mem_cons_self ..)

theorem isAbsolute_of_parent_eq_nil {path : Text} (h : parent path = []) :
    isAbsolute path = false := by
  rcases name_cases path with ⟨hslash, _, _⟩ | ⟨front, _, _, hparent⟩
  · exact isAbsolute_of_not_mem hslash
  · exfalso
    rw [hparent] at h
    split at h
    · simp at h
    · next hall =>
        refine hall (List.all_eq_true.2 ?_)
        exact Text.dropEndWhile_eq_nil.1 h

/-! ## Joining -/

/-- A path that is joined to another one is the end of the result. -/
theorem exists_join_eq (base path : Text) :
    ∃ front, join base path = front ++ path ∧ ∀ c ∈ front, c ∈ base ∨ c = '/' := by
  rw [join]
  split
  · exact ⟨[], rfl, fun c hmem => by cases hmem⟩
  · split
    · exact ⟨base, rfl, fun c hmem => Or.inl hmem⟩
    · refine ⟨base ++ ['/'], by rw [List.append_assoc]; rfl, fun c hmem => ?_⟩
      exact (List.mem_append.1 hmem).imp_right List.mem_singleton.1

theorem names_join {base path : Text} (h : isAbsolute path = false) :
    names (join base path) = names base ++ names path := by
  rw [join, if_neg (by simp [h])]
  split
  · next hbase =>
      rcases Bool.or_eq_true_iff.1 hbase with hnil | hlast
      · rw [of_decide_eq_true hnil]
        rfl
      · obtain ⟨front, rfl⟩ := List.getLast?_eq_some_iff.1 (of_decide_eq_true hlast)
        rw [List.append_assoc, List.singleton_append, names_append_cons, names_concat]
  · exact names_append_cons base path

theorem isAbsolute_join {base path : Text} (h : isAbsolute path = false) :
    isAbsolute (join base path) = isAbsolute base := by
  rw [join, if_neg (by simp [h])]
  cases base with
  | nil => exact h
  | cons c base => split <;> rw [List.cons_append, isAbsolute_cons, isAbsolute_cons]

/-- A path that is written from names. -/
theorem names_intercalate {parts : List Text} (h : ∀ part ∈ parts, IsName part) :
    names (List.intercalate ['/'] parts) = parts := by
  induction parts with
  | nil => rfl
  | cons part parts ih =>
      obtain ⟨hne, hslash⟩ := h part (List.mem_cons_self ..)
      have hrest := ih fun other hmem => h other (List.mem_cons_of_mem _ hmem)
      cases parts with
      | nil => rw [List.intercalate_singleton, names_of_not_mem hslash hne]
      | cons next parts =>
          rw [List.intercalate_cons_cons, List.append_assoc, List.singleton_append,
            names_append_cons, hrest, names_of_not_mem hslash hne]
          rfl

theorem isAbsolute_intercalate {parts : List Text} (h : ∀ part ∈ parts, IsName part) :
    isAbsolute (List.intercalate ['/'] parts) = false := by
  cases parts with
  | nil => rfl
  | cons part parts =>
      obtain ⟨hne, hslash⟩ := h part (List.mem_cons_self ..)
      obtain ⟨c, part, rfl⟩ := List.exists_cons_of_ne_nil hne
      have hc : isSlash c = false :=
        Bool.eq_false_iff.2 fun hc => hslash (isSlash_iff.1 hc ▸ List.mem_cons_self ..)
      cases parts with
      | nil => rw [List.intercalate_singleton, isAbsolute_cons, hc]
      | cons next parts =>
          rw [List.intercalate_cons_cons, List.cons_append, List.cons_append, isAbsolute_cons, hc]

theorem names_join_intercalate (base : Text) {parts : List Text}
    (h : ∀ part ∈ parts, IsName part) :
    names (join base (List.intercalate ['/'] parts)) = names base ++ parts := by
  rw [names_join (isAbsolute_intercalate h), names_intercalate h]

/-- A path that is written from names does not end in a slash. -/
theorem endsInSlash_append_intercalate (base : Text) {parts : List Text} (hne : parts ≠ [])
    (h : ∀ part ∈ parts, IsName part) :
    Disk.endsInSlash (base ++ List.intercalate ['/'] parts) = false := by
  induction parts generalizing base with
  | nil => exact absurd rfl hne
  | cons part parts ih =>
      cases parts with
      | nil =>
          obtain ⟨hpart, hslash⟩ := h part (List.mem_cons_self ..)
          have hlast : part.getLast hpart ≠ '/' := fun hlast =>
            hslash (hlast ▸ List.getLast_mem hpart)
          rw [List.intercalate_singleton, Disk.endsInSlash, List.getLast?_append,
            List.getLast?_eq_some_getLast hpart]
          exact beq_eq_false_iff_ne.2 fun heq => hlast (Option.some.inj heq)
      | cons next parts =>
          rw [List.intercalate_cons_cons, ← List.append_assoc]
          exact ih _ (List.cons_ne_nil _ _) fun other hmem => h other (List.mem_cons_of_mem _ hmem)

theorem name_of_names_eq {path last : Text} {front : List Text}
    (hslash : Disk.endsInSlash path = false) (h : names path = front ++ [last]) :
    name path = last := by
  have hne : path ≠ [] := by
    rintro rfl
    exact List.append_ne_nil_of_right_ne_nil front (List.cons_ne_nil last []) h.symm
  have hsplit := names_parent_append path
  rw [names_name (name_ne_nil hne hslash), h] at hsplit
  exact List.singleton_inj.1 (List.append_inj' hsplit rfl).2

theorem endsInSlash_join_intercalate (base : Text) {parts : List Text} (hne : parts ≠ [])
    (h : ∀ part ∈ parts, IsName part) :
    Disk.endsInSlash (join base (List.intercalate ['/'] parts)) = false := by
  obtain ⟨front, heq, _⟩ := exists_join_eq base (List.intercalate ['/'] parts)
  rw [heq]
  exact endsInSlash_append_intercalate front hne h

theorem name_join_intercalate (base : Text) {front : List Text} {last : Text}
    (h : ∀ part ∈ front ++ [last], IsName part) :
    name (join base (List.intercalate ['/'] (front ++ [last]))) = last := by
  have hne : front ++ [last] ≠ [] :=
    List.append_ne_nil_of_right_ne_nil front (List.cons_ne_nil last [])
  have hnames := names_join_intercalate base h
  rw [← List.append_assoc] at hnames
  exact name_of_names_eq (endsInSlash_join_intercalate base hne h) hnames

theorem name_join {last : Text} (h : IsName last) (base : Text) : name (join base last) = last := by
  have hparts : ∀ part ∈ [] ++ [last], IsName part := List.forall_mem_singleton.2 h
  have hname := name_join_intercalate base hparts
  rwa [List.nil_append, List.intercalate_singleton] at hname

/-! ## Extensions -/

theorem name_of_not_mem {path : Text} (h : '/' ∉ path) : name path = path := by
  rcases name_cases path with ⟨_, hname, _⟩ | ⟨front, hpath, _, _⟩
  · exact hname
  · refine absurd ?_ h
    rw [hpath]
    exact List.mem_append_right front (List.mem_cons_self ..)

theorem name_append_cons (front : Text) {last : Text} (h : '/' ∉ last) :
    name (front ++ '/' :: last) = last := by
  have hall : ∀ c ∈ last.reverse, (!isSlash c) = true := by
    intro c hc
    rw [Bool.not_eq_true', Bool.eq_false_iff]
    exact fun hslash => h (isSlash_iff.1 hslash ▸ List.mem_reverse.1 hc)
  rw [name, List.reverse_append, List.reverse_cons, List.append_assoc,
    List.takeWhile_append_of_pos hall, List.singleton_append,
    List.takeWhile_cons_of_neg (by decide), List.append_nil, List.reverse_reverse]

theorem splitName_append (name : Text) : (splitName name).1 ++ (splitName name).2 = name := by
  have hparts := congrArg List.reverse (List.takeWhile_append_dropWhile (p := (· != '.'))
    (l := name.reverse))
  rw [List.reverse_append, List.reverse_reverse] at hparts
  rw [splitName]
  split
  · exact List.append_nil name
  · next c before heq =>
      have hc : c = '.' := by
        have hhead := List.head?_dropWhile_not (· != '.') name.reverse
        rw [heq] at hhead
        simpa using hhead
      split
      · exact List.append_nil name
      · rw [heq, List.reverse_cons, List.append_assoc, hc] at hparts
        exact hparts

/-- What is in front of an extension is not empty. -/
theorem splitName_fst_ne_nil {name : Text} (h : (splitName name).2 ≠ []) :
    (splitName name).1 ≠ [] := by
  rw [splitName] at h ⊢
  split
  · next hnone =>
      rw [hnone] at h
      exact absurd rfl h
  · next c before heq =>
      rw [heq] at h
      split
      · next hdots =>
          simp only [if_pos hdots] at h
          exact absurd rfl h
      · next hdots =>
          intro hnil
          rw [List.reverse_eq_nil_iff.1 hnil] at hdots
          exact hdots rfl

/-- An ending that is put behind a name is its extension unless the name is all dots. -/
theorem splitName_append_cons {ending : Text} (h : '.' ∉ ending) (stem : Text) :
    splitName (stem ++ '.' :: ending) =
      if stem.all (· == '.') then (stem ++ '.' :: ending, []) else (stem, '.' :: ending) := by
  have hall : ∀ c ∈ ending.reverse, (c != '.') = true := by
    intro c hc
    rw [bne_iff_ne]
    rintro rfl
    exact h (List.mem_reverse.1 hc)
  have hreverse : (stem ++ '.' :: ending).reverse = ending.reverse ++ '.' :: stem.reverse := by
    simp
  rw [splitName, hreverse, List.dropWhile_append_of_pos hall, List.takeWhile_append_of_pos hall,
    List.dropWhile_cons_of_neg (by decide), List.takeWhile_cons_of_neg (by decide),
    List.append_nil, List.reverse_reverse]
  simp only [List.all_reverse, List.reverse_reverse]

theorem splitName_ending {ending : Text} (h : '.' ∉ ending) (stem : Text) :
    (splitName (stem ++ '.' :: ending)).2 = [] ∨
      (splitName (stem ++ '.' :: ending)).2 = '.' :: ending := by
  rw [splitName_append_cons h]
  split
  · exact Or.inl rfl
  · exact Or.inr rfl

theorem withoutExtension_of_name {front : Text} {path : Text} (h : path = front ++ name path) :
    withoutExtension path = front ++ (splitName (name path)).1 := by
  have hpath : path = (front ++ (splitName (name path)).1) ++ extension path := by
    rw [extension, List.append_assoc, splitName_append, ← h]
  have htake : ∀ stem ending : Text, (stem ++ ending).take ((stem ++ ending).length -
      ending.length) = stem := by
    intro stem ending
    rw [List.length_append, Nat.add_sub_cancel, List.take_left]
  have hcut := htake (front ++ (splitName (name path)).1) (extension path)
  rwa [← hpath] at hcut

end Path
end Marginalia
