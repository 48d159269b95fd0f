import Marginalia.Proofs.LinkedWalks
import Marginalia.Proofs.RegistryRows
import Marginalia.Run.Context

/-!
# The order in which sources are collected

The queue of a run is first in, first out, and a directory puts its children at
the end of it the first time that one of its paths is taken. So the paths that
are taken are the inputs and then, directory after directory in the order of
their first paths, the paths of the children: level by level.

What one path adds depends only on the directories that are known when it is
taken. `freshDirectories` picks these first paths out of a list, and it is the
one function that the context after a whole list of paths is written with.

Which directories are expanded does not depend on the paths at all: they are
those that can be reached from the inputs through entries of directories.
-/

namespace Marginalia

namespace Text

theorem isLe_total (s t : Text) : (isLe s t || isLe t s) = true := by
  induction s generalizing t with
  | nil => rfl
  | cons a s ih =>
      cases t with
      | nil => rfl
      | cons b t =>
          by_cases hab : a = b
          · rw [isLe, isLe, if_pos hab, if_pos hab.symm]
            exact ih t
          · have hne : a.toNat ≠ b.toNat := fun h => hab (Char.toNat_inj.1 h)
            rw [isLe, isLe, if_neg hab, if_neg (Ne.symm hab)]
            simp only [Bool.or_eq_true, decide_eq_true_eq]
            omega

theorem isLe_trans {s t u : Text} (hst : isLe s t = true) (htu : isLe t u = true) :
    isLe s u = true := by
  induction s generalizing t u with
  | nil => rfl
  | cons a s ih =>
      cases t with
      | nil => cases hst
      | cons b t =>
          cases u with
          | nil => cases htu
          | cons c u =>
              rw [isLe] at hst htu ⊢
              split at hst <;> split at htu <;> split
              all_goals simp_all
              all_goals grind

theorem isLe_antisymm {s t : Text} (hst : isLe s t = true) (hts : isLe t s = true) : s = t := by
  induction s generalizing t with
  | nil =>
      cases t with
      | nil => rfl
      | cons b t => cases hts
  | cons a s ih =>
      cases t with
      | nil => cases hst
      | cons b t =>
          by_cases hab : a = b
          · rw [isLe, if_pos hab] at hst
            rw [isLe, if_pos hab.symm] at hts
            rw [hab, ih hst hts]
          · rw [isLe, if_neg hab, decide_eq_true_eq] at hst
            rw [isLe, if_neg (Ne.symm hab), decide_eq_true_eq] at hts
            omega

end Text

namespace Disk

/-- The children of a directory are in order. -/
theorem pairwise_children (disk : Disk) (place : Location) :
    (disk.children place).Pairwise fun name next => Text.isLe name next = true := by
  have htrans (s t u : Text) : Text.isLe s t = true → Text.isLe t u = true →
      Text.isLe s u = true := Text.isLe_trans
  exact List.pairwise_mergeSort htrans Text.isLe_total _

/-- The places of the directories that can be reached from inputs through the
entries of directories. -/
inductive Reachable (disk : Disk) (inputs : List Text) : Location → Prop
  | input {path : Text} {place : Location} : path ∈ inputs → disk.FindsDirectory path place →
      Reachable disk inputs place
  | entry {place inner : Location} {name : Text} : Reachable disk inputs place →
      name ∈ disk.children place → disk.LeadsToDirectory place [name] inner →
      Reachable disk inputs inner

/-- The paths among the given ones that are the first of a directory that was not
known before, with its place. -/
def freshDirectories (disk : Disk) (known : List Location) : List Text → List (Text × Location)
  | [] => []
  | path :: paths =>
    match disk.directoryAt? path with
    | none => freshDirectories disk known paths
    | some place =>
      if known.contains place then freshDirectories disk known paths
      else (path, place) :: freshDirectories disk (known ++ [place]) paths

/-- The paths of the children of a directory, below one of its own paths. -/
def childPaths (disk : Disk) (directory : Text × Location) : List Text :=
  (disk.children directory.2).map (Path.join directory.1)

variable {disk : Disk} {known : List Location}

theorem freshDirectories_append (disk : Disk) (known : List Location) (front rest : List Text) :
    disk.freshDirectories known (front ++ rest) =
      disk.freshDirectories known front ++
        disk.freshDirectories (known ++ (disk.freshDirectories known front).map Prod.snd) rest := by
  fun_induction freshDirectories disk known front with
  | case1 known => simp
  | case2 known path front hnone ih =>
      rw [List.cons_append, freshDirectories, hnone]
      exact ih
  | case3 known path front place hplace hold ih =>
      rw [List.cons_append, freshDirectories, hplace]
      simp only [if_pos hold]
      exact ih
  | case4 known path front place hplace hnew ih =>
      rw [List.cons_append, freshDirectories, hplace]
      simp only [if_neg hnew, ih, List.cons_append, List.map_cons, List.append_assoc,
        List.nil_append]

theorem mem_freshDirectories {paths : List Text} {path : Text} {place : Location} :
    (path, place) ∈ disk.freshDirectories known paths ↔
      place ∉ known ∧ paths.find? (fun other => disk.directoryAt? other = some place) =
        some path := by
  fun_induction freshDirectories disk known paths with
  | case1 known => simp
  | case2 known first paths hnone ih => simp [ih, hnone]
  | case3 known first paths found hfound hold ih =>
      by_cases hplace : found = place
      · subst hplace
        simp [ih, List.contains_iff_mem.1 hold]
      · simp [ih, hfound, hplace]
  | case4 known first paths found hfound hnew ih =>
      by_cases hplace : found = place
      · subst hplace
        simp [ih, hfound, mt List.contains_iff_mem.2 hnew, eq_comm]
      · simp [ih, hfound, hplace, Ne.symm hplace]

theorem of_mem_freshDirectories {paths : List Text} {path : Text} {place : Location}
    (h : (path, place) ∈ disk.freshDirectories known paths) :
    disk.directoryAt? path = some place ∧ path ∈ paths := by
  have hfind := (mem_freshDirectories.1 h).2
  have hplace := List.find?_some hfind
  exact ⟨of_decide_eq_true hplace, List.mem_of_find?_eq_some hfind⟩

/-- Every directory of the paths that was not known is fresh under one of them. -/
theorem mem_map_freshDirectories {paths : List Text} {place : Location} :
    place ∈ (disk.freshDirectories known paths).map Prod.snd ↔
      place ∉ known ∧ ∃ path ∈ paths, disk.directoryAt? path = some place := by
  constructor
  · intro hmem
    obtain ⟨⟨path, _⟩, hfresh, rfl⟩ := List.mem_map.1 hmem
    obtain ⟨hplace, hpath⟩ := of_mem_freshDirectories hfresh
    exact ⟨(mem_freshDirectories.1 hfresh).1, path, hpath, hplace⟩
  · rintro ⟨hnew, path, hmem, hplace⟩
    have hsome : (paths.find? fun other => disk.directoryAt? other = some place).isSome := by
      rw [List.find?_isSome]
      exact ⟨path, hmem, decide_eq_true hplace⟩
    obtain ⟨first, hfirst⟩ := Option.isSome_iff_exists.1 hsome
    exact List.mem_map.2 ⟨(first, place), mem_freshDirectories.2 ⟨hnew, hfirst⟩, rfl⟩

theorem nodup_freshDirectories (disk : Disk) (known : List Location) (paths : List Text) :
    ((disk.freshDirectories known paths).map Prod.snd).Nodup := by
  fun_induction freshDirectories disk known paths with
  | case1 known => exact List.nodup_nil
  | case2 known path paths hnone ih => exact ih
  | case3 known path paths place hplace hold ih => exact ih
  | case4 known path paths place hplace hnew ih =>
      refine List.nodup_cons.2 ⟨fun hmem => ?_, ih⟩
      obtain ⟨⟨other, _⟩, hother, rfl⟩ := List.mem_map.1 hmem
      exact (mem_freshDirectories.1 hother).1 (by simp)

end Disk

namespace Context

open Marginalia.Disk (Reachable freshDirectories childPaths)

/-- What a run does with a path that it has taken from its queue. -/
def visit (registry : Registry) (disk : Disk) (context : Context) (path : Text) : Context :=
  match disk.directoryAt? path with
  | some place =>
    if context.expanded.contains place then context
    else
      { context with
        pending := context.pending ++ (disk.children place).map (Path.join path)
        expanded := context.expanded ++ [place] }
  | none =>
    match registry.forPath path with
    | none => { context with skipped := context.skipped ++ [path] }
    | some _ => { context with sources := context.sources ++ [path] }

/-- Paths are taken from the queue in their order, each the first of the queue as
it then is, until the queue is empty. -/
inductive Takes (registry : Registry) (disk : Disk) : Context → List Text → Context → Prop
  | done {context : Context} : context.pending = [] → Takes registry disk context [] context
  | next {context final : Context} {path : Text} {pending paths : List Text} :
      context.pending = path :: pending →
      Takes registry disk (visit registry disk { context with pending } path) paths final →
      Takes registry disk context (path :: paths) final

/-- Whether a path is that of a source. -/
def isSource (registry : Registry) (disk : Disk) (path : Text) : Bool :=
  (disk.directoryAt? path).isNone && (registry.forPath path).isSome

/-- Whether a path is skipped. -/
def isSkipped (registry : Registry) (disk : Disk) (path : Text) : Bool :=
  (disk.directoryAt? path).isNone && (registry.forPath path).isNone

/-- The paths of a list of levels, where each level holds the children of the
directories that were found first on the level before it. -/
inductive Levels (disk : Disk) : List Location → List Text → List (List Text) → Prop
  | last {known : List Location} : Levels disk known [] []
  | next {known : List Location} {level : List Text} {levels : List (List Text)} : level ≠ [] →
      Levels disk (known ++ (freshDirectories disk known level).map Prod.snd)
        ((freshDirectories disk known level).flatMap disk.childPaths) levels →
      Levels disk known level (level :: levels)

variable {registry : Registry} {disk : Disk} {context final : Context} {taken : List Text}

/-! ## One path -/

/-- Working off the queue takes paths from it until it is empty. -/
theorem exists_takes (registry : Registry) (disk : Disk) (context : Context) :
    ∃ taken, Takes registry disk context taken (context.collect registry disk).1 := by
  fun_induction collect registry disk context with
  | case1 context hpending => exact ⟨[], .done hpending⟩
  | case2 context path pending hpending place hplace hold rest notices hrest ih =>
      obtain ⟨taken, htaken⟩ := ih
      rw [hrest] at htaken
      refine ⟨path :: taken, .next hpending ?_⟩
      rw [visit, hplace]
      simpa only [if_pos (List.contains_iff_mem.2 hold)] using htaken
  | case3 context path pending hpending place hplace hnew ih =>
      obtain ⟨taken, htaken⟩ := ih
      refine ⟨path :: taken, .next hpending ?_⟩
      rw [visit, hplace]
      simpa only [if_neg (mt List.contains_iff_mem.1 hnew)] using htaken
  | case4 context path pending hpending hplace hnone rest notices hrest ih =>
      obtain ⟨taken, htaken⟩ := ih
      rw [hrest] at htaken
      refine ⟨path :: taken, .next hpending ?_⟩
      rw [visit, hplace, hnone]
      exact htaken
  | case5 context path pending hpending hplace language hlanguage ih =>
      obtain ⟨taken, htaken⟩ := ih
      refine ⟨path :: taken, .next hpending ?_⟩
      rw [visit, hplace, hlanguage]
      exact htaken

theorem visit_directory {path : Text} {place : Location} (registry : Registry)
    (hplace : disk.directoryAt? path = some place) (hnew : place ∉ context.expanded) :
    visit registry disk context path =
      { context with
        pending := context.pending ++ (disk.children place).map (Path.join path)
        expanded := context.expanded ++ [place] } := by
  rw [visit, hplace]
  exact if_neg (mt List.contains_iff_mem.1 hnew)

theorem visit_known {path : Text} {place : Location} (registry : Registry)
    (hplace : disk.directoryAt? path = some place) (hold : place ∈ context.expanded) :
    visit registry disk context path = context := by
  rw [visit, hplace]
  exact if_pos (List.contains_iff_mem.2 hold)

theorem visit_source {path : Text} {language : Language} (hplace : disk.directoryAt? path = none)
    (hlanguage : registry.forPath path = some language) :
    visit registry disk context path =
      { context with sources := context.sources ++ [path] } := by
  rw [visit, hplace, hlanguage]

theorem visit_skipped {path : Text} (hplace : disk.directoryAt? path = none)
    (hnone : registry.forPath path = none) :
    visit registry disk context path =
      { context with skipped := context.skipped ++ [path] } := by
  rw [visit, hplace, hnone]

/-- Where a run stands after some paths, with what it finds below them in its queue. -/
def afterPaths (registry : Registry) (disk : Disk) (context : Context) (paths : List Text) :
    Context :=
  let fresh := disk.freshDirectories context.expanded paths
  { context with
    pending := context.pending ++ fresh.flatMap disk.childPaths
    expanded := context.expanded ++ fresh.map Prod.snd
    sources := context.sources ++ paths.filter (isSource registry disk)
    skipped := context.skipped ++ paths.filter (isSkipped registry disk) }

theorem visit_eq (registry : Registry) (disk : Disk) (context : Context) (path : Text) :
    visit registry disk context path = afterPaths registry disk context [path] := by
  cases hplace : disk.directoryAt? path with
  | some place =>
      by_cases hold : place ∈ context.expanded <;>
        simp [visit, afterPaths, freshDirectories, isSource, isSkipped, childPaths, hplace, hold]
  | none =>
      cases hlanguage : registry.forPath path <;>
        simp [visit, afterPaths, freshDirectories, isSource, isSkipped, hplace, hlanguage]

theorem afterPaths_append (registry : Registry) (disk : Disk) (context : Context)
    (front rest : List Text) :
    afterPaths registry disk context (front ++ rest) =
      afterPaths registry disk (afterPaths registry disk context front) rest := by
  simp [afterPaths, Disk.freshDirectories_append]

theorem afterPaths_nil (registry : Registry) (disk : Disk) (context : Context) :
    afterPaths registry disk context [] = context := by
  simp [afterPaths, freshDirectories]

/-! ## All paths -/

/-- The paths that stand first in the queue are taken first, and what they add is
what their list adds. -/
theorem takes_level {level later : List Text}
    (h : Takes registry disk context taken final) (hpending : context.pending = level ++ later) :
    ∃ rest, taken = level ++ rest ∧
      Takes registry disk (afterPaths registry disk { context with pending := later } level)
        rest final := by
  induction level generalizing context taken later with
  | nil =>
      refine ⟨taken, rfl, ?_⟩
      obtain rfl : context.pending = later := hpending
      rw [afterPaths_nil]
      exact h
  | cons path level ih =>
      cases h with
      | done hnil => rw [hpending] at hnil; cases hnil
      | next hcons hrest =>
          rw [hpending] at hcons
          cases hcons
          rw [visit_eq] at hrest
          have hvisited : (afterPaths registry disk
              { context with pending := level ++ later } [path]).pending =
              level ++ (afterPaths registry disk
                { context with pending := later } [path]).pending :=
            List.append_assoc ..
          obtain ⟨rest, rfl, htakes⟩ := ih hrest hvisited
          refine ⟨rest, rfl, ?_⟩
          rw [← List.singleton_append, afterPaths_append]
          exact htakes

/-- What is taken is what was in the queue and then, for every directory that was
not known, the children below its first path. -/
theorem Takes.taken_eq (h : Takes registry disk context taken final) :
    taken = context.pending ++
      (disk.freshDirectories context.expanded taken).flatMap disk.childPaths := by
  induction h with
  | done hpending => rw [hpending]; rfl
  | @next context final path pending paths hpending hrest ih =>
      rw [visit_eq] at ih
      rw [hpending, ← List.singleton_append, Disk.freshDirectories_append]
      simp only [afterPaths] at ih
      conv_lhs => rw [ih]
      simp

theorem Takes.final_eq (h : Takes registry disk context taken final) :
    final = { afterPaths registry disk context taken with pending := [] } := by
  induction h with
  | done hpending => rw [afterPaths_nil, ← hpending]
  | @next context final path pending paths hpending hrest ih =>
      have htaken : path :: paths = [path] ++ paths := rfl
      rw [ih, visit_eq, htaken, afterPaths_append]
      rfl

theorem written_collect (registry : Registry) (disk : Disk) (context : Context) :
    (context.collect registry disk).1.written = context.written := by
  obtain ⟨_, h⟩ := exists_takes registry disk context
  rw [h.final_eq]
  rfl

theorem Takes.unique {other : Context} {paths : List Text}
    (h : Takes registry disk context taken final) (hother : Takes registry disk context paths other) :
    taken = paths := by
  induction h generalizing paths with
  | done hpending =>
      cases hother with
      | done => rfl
      | next hcons => rw [hpending] at hcons; cases hcons
  | next hpending _ ih =>
      cases hother with
      | done hnil => rw [hpending] at hnil; cases hnil
      | next hcons hrest =>
          rw [hpending] at hcons
          cases hcons
          rw [ih hrest]

/-- What is in a new directory that stands first in the queue is taken. -/
theorem Takes.join_mem_taken (h : Takes registry disk context taken final) {path name : Text}
    {pending : List Text} (hpending : context.pending = path :: pending) {place : Location}
    (hplace : disk.directoryAt? path = some place) (hnew : place ∉ context.expanded)
    (hname : name ∈ disk.children place) : Path.join path name ∈ taken := by
  cases h with
  | done hnil => rw [hpending] at hnil; cases hnil
  | next hcons hrest =>
      rw [hpending] at hcons
      cases hcons
      have hvisited : visit registry disk { context with pending } path = _ :=
        visit_directory registry hplace hnew
      rw [hvisited] at hrest
      rw [hrest.taken_eq]
      exact List.mem_cons_of_mem _ (List.mem_append_left _
        (List.mem_append_right _ (List.mem_map_of_mem hname)))

/-- Taking paths until the queue is empty ends where collecting ends. -/
theorem Takes.collect_eq (h : Takes registry disk context taken final) :
    (context.collect registry disk).1 = final := by
  obtain ⟨paths, hcollect⟩ := exists_takes registry disk context
  obtain rfl : taken = paths := h.unique hcollect
  rw [h.final_eq, hcollect.final_eq]

/-- What is taken falls into levels. -/
theorem Takes.exists_levels (h : Takes registry disk context taken final) :
    ∃ levels, Levels disk context.expanded context.pending levels ∧ taken = levels.flatten := by
  induction hlength : taken.length using Nat.strong_induction_on generalizing context taken with
  | _ length ih =>
      by_cases hnil : context.pending = []
      · cases h with
        | done => exact ⟨[], hnil ▸ .last, rfl⟩
        | next hcons => rw [hnil] at hcons; cases hcons
      · obtain ⟨rest, rfl, hrest⟩ := takes_level h (List.append_nil _).symm
        -- a level has paths, so fewer are taken after it
        have hshorter : rest.length < length := by
          have hpos := List.length_pos_iff.2 hnil
          rw [← hlength, List.length_append]
          omega
        obtain ⟨levels, hlevels, hflatten⟩ := ih _ hshorter hrest rfl
        exact ⟨context.pending :: levels, .next hnil hlevels, by rw [List.flatten_cons, hflatten]⟩

/-- If the directories in the queue have a property that the directories in a
directory take over from it, then so have all that are taken. -/
theorem Takes.directories {P : Location → Prop} (h : Takes registry disk context taken final)
    (hnames : disk.WellNamed)
    (hpending : ∀ path ∈ context.pending, ∀ place, disk.FindsDirectory path place → P place)
    (hentry : ∀ place inner name, P place → name ∈ disk.children place →
      disk.LeadsToDirectory place [name] inner → P inner) :
    ∀ path ∈ taken, ∀ place, disk.FindsDirectory path place → P place := by
  induction h with
  | done => exact fun _ hmem => by cases hmem
  | @next context final path pending paths hcons hrest ih =>
      rw [hcons] at hpending
      have hfirst := hpending path (List.mem_cons_self ..)
      have hvisited : ∀ other ∈ (visit registry disk { context with pending } path).pending,
          ∀ place, disk.FindsDirectory other place → P place := by
        intro other hmem inner hinner
        rw [visit_eq] at hmem
        rcases List.mem_append.1 hmem with hmem | hmem
        · exact hpending other (List.mem_cons_of_mem _ hmem) inner hinner
        · obtain ⟨⟨first, place⟩, hfresh, hchild⟩ := List.mem_flatMap.1 hmem
          obtain ⟨name, hname, rfl⟩ := List.mem_map.1 hchild
          obtain ⟨hplace, hmem⟩ := Disk.of_mem_freshDirectories hfresh
          rw [List.mem_singleton.1 hmem] at hplace hinner
          have hfound := Disk.findsDirectory_of_directoryAt? hplace
          obtain ⟨hordinary, hnull⟩ := hnames.of_mem_children hname
          -- a child leads where its name leads from the place, through links or not
          exact hentry place inner name (hfirst place hfound) hname
            ((Disk.findsDirectory_join hordinary hnull hfound).1 hinner)
      intro other hmem
      rcases List.mem_cons.1 hmem with rfl | hmem
      · exact hfirst
      · exact ih hvisited other hmem

/-! ## From a fresh queue -/

/-- The paths `taken` traverse the directories below the inputs breadth first.
`firsts` are these directories, each with the path under which it is first taken. -/
structure BreadthFirst (registry : Registry) (disk : Disk) (inputs taken : List Text)
    (firsts : List (Text × Location)) (final : Context) : Prop where
  takes : Takes registry disk { pending := inputs } taken final
  pending_eq : final.pending = []
  first_iff : ∀ path place, (path, place) ∈ firsts ↔
    taken.find? (fun other => disk.directoryAt? other = some place) = some path
  expanded_eq : final.expanded = firsts.map Prod.snd
  expanded_nodup : final.expanded.Nodup
  taken_eq : taken = inputs ++ firsts.flatMap disk.childPaths
  sorted : ∀ directory ∈ firsts,
    (disk.children directory.2).Pairwise fun name next => Text.isLe name next = true
  levels : ∃ levels, Levels disk [] inputs levels ∧ taken = levels.flatten
  sources_eq : final.sources = taken.filter (isSource registry disk)
  skipped_eq : final.skipped = taken.filter (isSkipped registry disk)
  reachable : ∀ place ∈ final.expanded, disk.Reachable inputs place
  complete : (∀ path ∈ taken, disk.Unhindered path) →
    ∀ place, disk.Reachable inputs place → place ∈ final.expanded

/-- Every directory that can be reached is among those of the paths that are taken. -/
theorem Takes.exists_of_reachable {inputs : List Text}
    (h : Takes registry disk { pending := inputs } taken final) (hnames : disk.WellNamed)
    (hlimits : ∀ path ∈ taken, disk.Unhindered path) {place : Location}
    (hreachable : disk.Reachable inputs place) :
    ∃ path ∈ taken, disk.directoryAt? path = some place := by
  have htaken := h.taken_eq
  induction hreachable with
  | @input path place hmem hfinds =>
      have hpath : path ∈ taken := by
        rw [htaken]
        exact List.mem_append_left _ hmem
      exact ⟨path, hpath, hlimits path hpath place hfinds⟩
  | @entry place inner name _ hname hleads ih =>
      obtain ⟨_, hother, hplace⟩ := ih
      -- the outer directory was expanded under its first path, which need not be this one
      have hmem := Disk.mem_map_freshDirectories.2
        ⟨List.not_mem_nil, _, hother, hplace⟩
      obtain ⟨⟨first, _⟩, hfresh, rfl⟩ := List.mem_map.1 hmem
      have hfound := Disk.findsDirectory_of_directoryAt? (Disk.of_mem_freshDirectories hfresh).1
      have hchild : Path.join first name ∈ taken := by
        rw [htaken]
        exact List.mem_append_right _
          (List.mem_flatMap.2 ⟨_, hfresh, List.mem_map_of_mem hname⟩)
      obtain ⟨hordinary, hnull⟩ := hnames.of_mem_children hname
      exact ⟨_, hchild, hlimits _ hchild inner
        ((Disk.findsDirectory_join hordinary hnull hfound).2 hleads)⟩

/-- From a fresh queue, a run takes its inputs and what is below them breadth
first: it expands every directory once, and those are all that can be reached. -/
theorem collect_breadthFirst (hnames : disk.WellNamed) (registry : Registry)
    (inputs : List Text) :
    ∃ taken firsts, BreadthFirst registry disk inputs taken firsts
      (Context.collect registry disk { pending := inputs }).1 := by
  obtain ⟨taken, htakes⟩ := exists_takes registry disk { pending := inputs }
  have hfinal := htakes.final_eq
  have hexpanded : (Context.collect registry disk { pending := inputs }).1.expanded =
      (disk.freshDirectories [] taken).map Prod.snd := by
    rw [hfinal]
    exact List.nil_append _
  refine ⟨taken, disk.freshDirectories [] taken, htakes, by rw [hfinal], fun path place => ?_,
    hexpanded, hexpanded ▸ Disk.nodup_freshDirectories disk [] taken, htakes.taken_eq,
    fun directory _ => disk.pairwise_children directory.2, htakes.exists_levels, ?_, ?_,
    fun place hmem => ?_, fun hlimits place hreachable => ?_⟩
  · rw [Disk.mem_freshDirectories]
    exact and_iff_right List.not_mem_nil
  · rw [hfinal]
    exact List.nil_append _
  · rw [hfinal]
    exact List.nil_append _
  · rw [hexpanded] at hmem
    obtain ⟨_, path, hpath, hplace⟩ := Disk.mem_map_freshDirectories.1 hmem
    exact htakes.directories hnames (fun _ hinput _ hfinds => .input hinput hfinds)
      (fun _ _ _ houter hname hleads => .entry houter hname hleads)
      path hpath place (Disk.findsDirectory_of_directoryAt? hplace)
  · rw [hexpanded]
    exact Disk.mem_map_freshDirectories.2
      ⟨List.not_mem_nil, htakes.exists_of_reachable hnames hlimits hreachable⟩

/-- A directory with a source in it and a link that leads back to the directory. -/
def linkedDisk : Disk where
  entries := [(["d".toList], .directory), (["d".toList, "up".toList], .link "../d".toList),
    (["d".toList, "a.py".toList], .file [])]

def linkedPaths : List Text :=
  ["d".toList, "d/a.py".toList, "d/up".toList]

theorem wellNamed_linkedDisk : linkedDisk.WellNamed := by decide

theorem exists_takes_linkedPaths :
    ∃ final, Takes .standard linkedDisk { pending := ["d".toList] } linkedPaths final := by
  have hdirectory : linkedDisk.directoryAt? "d".toList = some ["d".toList] := by cbv
  have hsource : linkedDisk.directoryAt? "d/a.py".toList = none := by cbv
  have hlink : linkedDisk.directoryAt? "d/up".toList = some ["d".toList] := by cbv
  have hnames : linkedDisk.children ["d".toList] =
      ["up".toList, "a.py".toList].mergeSort Text.isLe := rfl
  have hsorted : ["up".toList, "a.py".toList].mergeSort Text.isLe =
      ["a.py".toList, "up".toList] := by
    simp [List.mergeSort, List.MergeSort.Internal.splitInTwo, Text.isLe]
  have hchildren : (linkedDisk.children ["d".toList]).map (Path.join "d".toList) =
      ["d/a.py".toList, "d/up".toList] := by
    rw [hnames, hsorted]
    decide
  have hlanguage : Registry.standard.forPath "d/a.py".toList =
      some { extension := ".py".toList, name := "python".toList, symbol := "#".toList } :=
    Registry.forPath_standard_of_py (by decide)
  refine ⟨{ expanded := [["d".toList]], sources := ["d/a.py".toList] }, .next rfl ?_⟩
  rw [visit_directory _ hdirectory List.not_mem_nil, hchildren]
  refine .next rfl ?_
  rw [visit_source hsource hlanguage]
  refine .next rfl ?_
  rw [visit_known _ hlink (List.mem_singleton_self _)]
  exact .done rfl

theorem unhindered_linkedPaths : ∀ path ∈ linkedPaths, linkedDisk.Unhindered path := by
  have hresolve : linkedPaths.map (fun path => (linkedDisk.resolve path).isOk) =
      [true, true, true] := by
    cbv
  intro path hmem
  refine Disk.unhindered_of_isOk ?_
  have himage := List.mem_map_of_mem (f := fun path => (linkedDisk.resolve path).isOk) hmem
  rw [hresolve] at himage
  simpa using himage

theorem collect_breadthFirst_linked : ∃ firsts final,
    BreadthFirst .standard linkedDisk ["d".toList] linkedPaths firsts final ∧
    ∀ place, place ∈ final.expanded ↔ linkedDisk.Reachable ["d".toList] place := by
  obtain ⟨taken, firsts, h⟩ := collect_breadthFirst wellNamed_linkedDisk .standard ["d".toList]
  obtain ⟨_, hlinked⟩ := exists_takes_linkedPaths
  obtain rfl : taken = linkedPaths := h.takes.unique hlinked
  exact ⟨firsts, _, h, fun place =>
    ⟨h.reachable place, h.complete unhindered_linkedPaths place⟩⟩

end Context
end Marginalia
