import Marginalia.Proofs.DiskGrowth

/-!
# Traversing a disk again

A second traversal meets what the first run has made, at any level and under any
directory. It is a simulation with steps on the spot: the queue of the second
traversal is that of the first with new paths in between. An old path does the
same in both, and a new one adds nothing but new paths and is no source itself.

New paths are told by the disk before, which has nothing at their places. That
they are no sources is where the limits on paths come in: a new directory can have
the name of a source, and then it must be seen to be a directory.
-/

namespace Marginalia

open Marginalia.Disk (names Updated)
open Marginalia.Path (IsOrdinary)

namespace Disk

variable {disk before now : Disk} {path : Text} {place : Location}

/-- Whether there is something at the place that a path names. -/
def knows (disk : Disk) (path : Text) : Bool :=
  disk.holds (disk.placeOf path)

/-- What a path names is there, and a directory is what the path leads to. -/
def Shows (disk : Disk) (path : Text) : Prop :=
  (∃ content, disk.get? (disk.placeOf path) = some (.file content)) ∨
    disk.FindsDirectory path (disk.placeOf path)

theorem directoryAt?_eq_some (hfree : disk.LinkFree) :
    disk.directoryAt? path = some place ↔
      disk.Reaches path ∧ place = disk.placeOf path ∧ disk.get? place = some .directory := by
  rw [directoryAt?]
  constructor
  · intro h
    split at h
    · cases h
    · next hnull =>
        split at h
        · next found hresolve =>
            obtain ⟨hreaches, hspot⟩ :=
              reaches_of_resolve hfree (Bool.eq_false_iff.2 hnull) hresolve
            obtain ⟨rfl, hnode⟩ := eq_of_present_eq_spotAt hspot
            cases h
            exact ⟨hreaches, rfl, hnode⟩
        · cases h
  · rintro ⟨hreaches, rfl, hnode⟩
    rw [if_neg (by simp [hreaches.null_free]), hreaches.resolve_eq hfree, spotAt, hnode]

theorem exists?_of_directoryAt? (h : disk.directoryAt? path = some place) :
    disk.exists? path = true := by
  rw [directoryAt?] at h
  split at h
  · cases h
  · next hnull =>
      split at h
      · next hresolve => simp [exists?, hnull, hresolve]
      · cases h

theorem placeOf_join_name {name : Text} (h : IsOrdinary name) (disk : Disk) (path : Text) :
    disk.placeOf (Path.join path name) = disk.placeOf path ++ [name] := by
  have hname : ∀ part ∈ [name], IsOrdinary part := fun part hmem =>
    List.mem_singleton.1 hmem ▸ h
  have hjoin := placeOf_join_of_ordinary disk path hname
  rwa [List.intercalate_singleton] at hjoin

theorem Reaches.passes_names (h : disk.Reaches path) :
    disk.Passes (disk.start path) (names path) := by
  intro front rest heq hne
  refine h.passes front (rest ++ if endsInSlash path then [['.']] else []) ?_ (by simp [hne])
  rw [steps, heq, List.append_assoc]

/-- What exists can be reached and is at its place. -/
theorem reaches_of_exists (hfree : disk.LinkFree) (h : disk.exists? path = true) :
    disk.Reaches path ∧ disk.knows path = true := by
  rw [exists?] at h
  obtain ⟨hnull, hfound⟩ := Bool.and_eq_true_iff.1 h
  split at hfound
  · next place node hresolve =>
      rw [Bool.not_eq_true'] at hnull
      obtain ⟨hreaches, hspot⟩ := reaches_of_resolve hfree hnull hresolve
      obtain ⟨_, hnode⟩ := eq_of_present_eq_spotAt hspot
      exact ⟨hreaches, holds_of_get? hnode⟩
  · cases hfound

/-- The directory below which a name stands is passed on the way to it. -/
theorem passes_join {name : Text} (hname : IsOrdinary name)
    (h : disk.directoryAt? path = some place) (hfree : disk.LinkFree) :
    disk.Passes (disk.start (Path.join path name)) (names (Path.join path name)) := by
  obtain ⟨hreaches, rfl, hnode⟩ := (directoryAt?_eq_some hfree).1 h
  have hrelative := Path.isAbsolute_of_not_mem hname.2.1
  have hstart : disk.start (Path.join path name) = disk.start path := by
    rw [start, start, Path.isAbsolute_join hrelative]
  rw [hstart, Path.names_join hrelative, Path.names_of_not_mem hname.2.1 hname.1]
  exact hreaches.passes_names.concat hnode

/-- A short path into a directory is reached. -/
theorem Reaches.join {name : Text} (hfree : disk.LinkFree) (h : disk.directoryAt? path = some place)
    (hname : IsOrdinary name) (hnull : '\x00' ∉ name) (hnameShort : isLongName name = false)
    (hshort : isLongPath (Path.join path name) = false) : disk.Reaches (Path.join path name) := by
  obtain ⟨hreaches, _, _⟩ := (directoryAt?_eq_some hfree).1 h
  have hparts : ∀ part ∈ [name], Path.IsName part := fun part hmem =>
    List.mem_singleton.1 hmem ▸ hname.isName
  have hslash := Path.endsInSlash_join_intercalate path (List.cons_ne_nil name []) hparts
  rw [List.intercalate_singleton] at hslash
  have hsteps : steps (Path.join path name) = names path ++ [name] := by
    rw [steps, hslash, Path.names_join (Path.isAbsolute_of_not_mem hname.2.1),
      Path.names_of_not_mem hname.2.1 hname.1]
    exact List.append_nil _
  have hpasses := passes_join hname h hfree
  refine ⟨hasNull_join hreaches.null_free hnull, join_ne_nil hname.1 path, hshort, ?_, ?_⟩
  · intro other hmem
    rw [hsteps] at hmem
    rcases List.mem_append.1 hmem with hmem | hmem
    · exact hreaches.names_short other (List.mem_append_left _ hmem)
    · exact List.mem_singleton.1 hmem ▸ hnameShort
  · rwa [steps, hslash, if_neg Bool.false_ne_true, List.append_nil]

/-- Whatever a directory holds is shown by its path. -/
theorem shows_of_mem_children {other : Text} (hfree : disk.LinkFree) (hnamed : disk.WellNamed)
    (h : disk.directoryAt? path = some place)
    (hmem : other ∈ (disk.children place).map (Path.join path)) : disk.Shows other := by
  obtain ⟨name, hname, rfl⟩ := List.mem_map.1 hmem
  obtain ⟨hordinary, hnull⟩ := hnamed.of_mem_children hname
  have hfinds := findsDirectory_of_directoryAt? h
  obtain ⟨_, rfl, hplace⟩ := (directoryAt?_eq_some hfree).1 h
  rw [Shows, placeOf_join_name hordinary]
  obtain ⟨node, hnode⟩ := Option.isSome_iff_exists.1 (mem_children.1 hname)
  cases node with
  | file content => exact .inl ⟨content, hnode⟩
  | directory =>
      refine .inr ((findsDirectory_join hordinary hnull hfinds).2 ⟨?_, hnode⟩)
      exact .down hplace hordinary.2.2.1 hordinary.2.2.2 (hfree.unlinked _) .stop
  | link target => exact absurd hnode (hfree.unlinked _ target)

end Disk

/-- What a traversal needs to know of the disk after a run: it has grown, directories
are the same where something was, and no new file is a source. -/
structure Outgrows (registry : Registry) (before now : Disk) : Prop where
  linkFree : before.LinkFree
  wellFormed : before.WellFormed
  cwd_eq : now.cwd = before.cwd
  grows : before.Grows now
  kept : ∀ place, before.get? place = some .directory → now.get? place = some .directory
  directory : ∀ place, before.holds place = true → now.get? place = some .directory →
    before.get? place = some .directory
  file : ∀ path content, before.knows path = false →
    now.get? (before.placeOf path) = some (.file content) → registry.forPath path = none

namespace Outgrows

variable {registry : Registry} {before now : Disk} (h : Outgrows registry before now)

include h

theorem placeOf_eq (path : Text) : now.placeOf path = before.placeOf path := by
  rw [Disk.placeOf, Disk.placeOf, Disk.start, Disk.start, h.cwd_eq]

/-- An old path leads to a directory if it did so before. -/
theorem directoryAt?_eq {path : Text} (hold : before.knows path = true)
    (hpasses : before.Passes (before.start path) (names path)) :
    now.directoryAt? path = before.directoryAt? path := by
  have hstart : now.start path = before.start path := by
    rw [Disk.start, Disk.start, h.cwd_eq]
  refine Option.ext fun place => ?_
  rw [Disk.directoryAt?_eq_some h.grows.linkFree, Disk.directoryAt?_eq_some h.linkFree,
    h.placeOf_eq]
  constructor
  · rintro ⟨hreaches, rfl, hnode⟩
    have hdirectory := h.directory _ hold hnode
    refine ⟨⟨hreaches.null_free, hreaches.ne_nil, hreaches.short, hreaches.names_short, ?_⟩, rfl,
      hdirectory⟩
    rw [Disk.steps]
    split
    · exact hpasses.concat hdirectory
    · rwa [List.append_nil]
  · rintro ⟨hreaches, rfl, hnode⟩
    exact ⟨hreaches.mono h.cwd_eq h.kept, rfl, h.kept _ hnode⟩

/-- What is below a new place is new. -/
theorem not_holds_child {place : Location} (hnew : before.holds place = false) (name : Text) :
    before.holds (place ++ [name]) = false := by
  rw [Bool.eq_false_iff]
  intro hholds
  rw [Disk.holds_of_get? (h.wellFormed.get?_of_holds hholds)] at hnew
  cases hnew

theorem shows_child {path other : Text} {place : Location}
    (hplace : now.directoryAt? path = some place)
    (hmem : other ∈ (now.children place).map (Path.join path)) : now.Shows other :=
  Disk.shows_of_mem_children h.grows.linkFree h.grows.wellFormed.named hplace hmem

end Outgrows

namespace Context

variable {registry : Registry} {before now : Disk} {first second : Context}

/-- A traversal of the disk before and one of the disk now have come to the same point:
without its new paths and places, the second is where the first is. -/
structure Keeps (before now : Disk) (first second : Context) : Prop where
  pending_eq : first.pending = second.pending.filter before.knows
  expanded_eq : first.expanded = second.expanded.filter before.holds
  sources_eq : first.sources = second.sources
  passes : ∀ path ∈ second.pending, before.knows path = true →
    before.Passes (before.start path) (names path)
  shows : ∀ path ∈ second.pending, before.knows path = false → now.Shows path

namespace Keeps

/-- The paths of children that are old are the paths of the children of before. -/
theorem filter_children (h : Outgrows registry before now) (path : Text) {place : Location}
    (hplace : before.placeOf path = place) :
    ((now.children place).map (Path.join path)).filter before.knows =
      ((now.children place).filter fun name => before.holds (place ++ [name])).map
        (Path.join path) := by
  rw [List.filter_map]
  congr 1
  refine List.filter_congr fun name hmem => ?_
  obtain ⟨hname, _⟩ := h.grows.wellFormed.named.of_mem_children hmem
  rw [Function.comp_apply, Disk.knows, Disk.placeOf_join_name hname, hplace]

/-- An old path is taken by both traversals, with the same effect. -/
theorem visit_old (h : Outgrows registry before now) (hkeeps : Keeps before now first second)
    {path : Text} {pending : List Text} (hpending : second.pending = path :: pending)
    (hold : before.knows path = true) :
    ∃ rest, first.pending = path :: rest ∧
      Keeps before now (visit registry before { first with pending := rest } path)
        (visit registry now { second with pending } path) := by
  obtain ⟨hfirst, hexpanded, hsources, hpasses, hshows⟩ := hkeeps
  rw [hpending] at hfirst hpasses hshows
  rw [List.filter_cons_of_pos hold] at hfirst
  obtain ⟨hpath, hpasses⟩ := List.forall_mem_cons.1 hpasses
  obtain ⟨-, hshows⟩ := List.forall_mem_cons.1 hshows
  have hsame := h.directoryAt?_eq hold (hpath hold)
  refine ⟨_, hfirst, ?_⟩
  rw [visit, visit, hsame]
  cases hplace : before.directoryAt? path with
  | none =>
      cases registry.forPath path with
      | none => exact ⟨rfl, hexpanded, hsources, hpasses, hshows⟩
      | some language => exact ⟨rfl, hexpanded, by rw [hsources], hpasses, hshows⟩
  | some place =>
      obtain ⟨-, rfl, -⟩ := (Disk.directoryAt?_eq_some h.linkFree).1 hplace
      have hcontains : first.expanded.contains (before.placeOf path) =
          second.expanded.contains (before.placeOf path) := by
        rw [hexpanded, Bool.eq_iff_iff, List.contains_iff_mem, List.contains_iff_mem,
          List.mem_filter]
        exact and_iff_left hold
      simp only [hcontains]
      split
      · exact ⟨rfl, hexpanded, hsources, hpasses, hshows⟩
      · refine ⟨?_, ?_, hsources, fun other hmem hother => ?_, fun other hmem hother => ?_⟩
        · rw [List.filter_append, filter_children h path rfl, h.grows.filter_children]
        · have hplaceOld : [before.placeOf path].filter before.holds = [before.placeOf path] :=
            List.filter_cons_of_pos hold
          rw [List.filter_append, ← hexpanded, hplaceOld]
        · rcases List.mem_append.1 hmem with hmem | hmem
          · exact hpasses other hmem hother
          · obtain ⟨name, hname, rfl⟩ := List.mem_map.1 hmem
            obtain ⟨hordinary, _⟩ := h.grows.wellFormed.named.of_mem_children hname
            exact Disk.passes_join hordinary hplace h.linkFree
        · rcases List.mem_append.1 hmem with hmem | hmem
          · exact hshows other hmem hother
          · exact h.shows_child (hsame.trans hplace) hmem

/-- A new path is taken by the second traversal only, and leaves it where the first is. -/
theorem visit_new (h : Outgrows registry before now) (hkeeps : Keeps before now first second)
    {path : Text} {pending : List Text} (hpending : second.pending = path :: pending)
    (hnew : before.knows path = false)
    (hclear : (registry.forPath path).isSome → now.Unhindered path) :
    Keeps before now first (visit registry now { second with pending } path) := by
  obtain ⟨hfirst, hexpanded, hsources, hpasses, hshows⟩ := hkeeps
  rw [hpending] at hfirst hpasses hshows
  rw [List.filter_cons_of_neg (Bool.eq_false_iff.1 hnew)] at hfirst
  obtain ⟨-, hpasses⟩ := List.forall_mem_cons.1 hpasses
  obtain ⟨hpath, hshows⟩ := List.forall_mem_cons.1 hshows
  rw [visit]
  cases hplace : now.directoryAt? path with
  | none =>
      cases hlanguage : registry.forPath path with
      | none => exact ⟨hfirst, hexpanded, hsources, hpasses, hshows⟩
      | some language =>
          -- a new source would have to be a new file or a directory that is not seen as one
          exfalso
          rcases hpath hnew with ⟨content, hfile⟩ | hfinds
          · rw [h.placeOf_eq] at hfile
            rw [h.file path content hnew hfile] at hlanguage
            cases hlanguage
          · rw [hclear (by rw [hlanguage]; rfl) _ hfinds] at hplace
            cases hplace
  | some place =>
      obtain ⟨-, hspot, -⟩ := (Disk.directoryAt?_eq_some h.grows.linkFree).1 hplace
      rw [h.placeOf_eq] at hspot
      simp only [hspot]
      split
      · exact ⟨hfirst, hexpanded, hsources, hpasses, hshows⟩
      · have hchildren : ((now.children (before.placeOf path)).map (Path.join path)).filter
            before.knows = [] := by
          rw [filter_children h path rfl, List.map_eq_nil_iff, List.filter_eq_nil_iff]
          intro name _
          rw [h.not_holds_child hnew]
          exact Bool.false_ne_true
        refine ⟨?_, ?_, hsources, fun other hmem hother => ?_, fun other hmem hother => ?_⟩
        · rw [List.filter_append, hchildren, List.append_nil, hfirst]
        · have hplaceNew : [before.placeOf path].filter before.holds = [] :=
            List.filter_cons_of_neg (Bool.eq_false_iff.1 hnew)
          rw [List.filter_append, ← hexpanded, hplaceNew, List.append_nil]
        · rcases List.mem_append.1 hmem with hmem | hmem
          · exact hpasses other hmem hother
          · exact absurd hother (List.filter_eq_nil_iff.1 hchildren other hmem)
        · rcases List.mem_append.1 hmem with hmem | hmem
          · exact hshows other hmem hother
          · exact h.shows_child hplace (hspot ▸ hmem)

end Keeps

/-- The first traversal finds the sources that the second one finds. -/
theorem Takes.exists_of_keeps (h : Outgrows registry before now) {taken : List Text}
    {final : Context} (htakes : Takes registry now second taken final)
    (hkeeps : Keeps before now first second)
    (hclear : ∀ path ∈ taken, (registry.forPath path).isSome → now.Unhindered path) :
    ∃ paths last, Takes registry before first paths last ∧ last.sources = final.sources := by
  induction htakes generalizing first with
  | @done second hpending =>
      refine ⟨[], first, .done ?_, hkeeps.sources_eq⟩
      rw [hkeeps.pending_eq, hpending]
      rfl
  | @next second final path pending paths hpending hrest ih =>
      have hlater : ∀ other ∈ paths, (registry.forPath other).isSome → now.Unhindered other :=
        fun other hmem => hclear other (List.mem_cons_of_mem _ hmem)
      cases hold : before.knows path with
      | true =>
          obtain ⟨rest, hfirst, hvisited⟩ := hkeeps.visit_old h hpending hold
          obtain ⟨others, last, hothers, hsources⟩ := ih hvisited hlater
          exact ⟨path :: others, last, .next hfirst hothers, hsources⟩
      | false =>
          exact ih (hkeeps.visit_new h hpending hold (hclear path (List.mem_cons_self ..))) hlater

/-- A second traversal from inputs that were all there finds the same sources. -/
theorem sources_collect_eq (h : Outgrows registry before now) {inputs : List Text}
    (hinputs : ∀ path ∈ inputs, before.exists? path = true)
    (hclear : ∀ taken final, Takes registry now { pending := inputs } taken final →
      ∀ path ∈ taken, (registry.forPath path).isSome → now.Unhindered path) :
    (Context.collect registry now { pending := inputs }).1.sources =
      (Context.collect registry before { pending := inputs }).1.sources := by
  obtain ⟨taken, htakes⟩ := exists_takes registry now { pending := inputs }
  have hfound : ∀ path ∈ inputs, before.knows path = true ∧
      before.Passes (before.start path) (names path) := by
    intro path hmem
    obtain ⟨hreaches, hold⟩ := Disk.reaches_of_exists h.linkFree (hinputs path hmem)
    exact ⟨hold, hreaches.passes_names⟩
  have hkeeps : Keeps before now { pending := inputs } { pending := inputs } := by
    refine ⟨?_, rfl, rfl, fun path hmem _ => (hfound path hmem).2, fun path hmem hnew => ?_⟩
    · exact (List.filter_eq_self.2 fun path hmem => (hfound path hmem).1).symm
    · rw [(hfound path hmem).1] at hnew
      cases hnew
  obtain ⟨others, last, hothers, hsources⟩ :=
    htakes.exists_of_keeps h hkeeps (hclear taken _ htakes)
  rw [← hsources, hothers.collect_eq]

end Context
end Marginalia
