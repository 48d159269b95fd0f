import Marginalia.Disk.Lemmas
import Marginalia.Proofs.DiskWalk

/-!
# Where a route leads

A walk follows at most so many links, and a path that is too long is not walked
at all. `Leads` is the same walk without these bounds: it says where a route
ends on a disk with any number of links on the way. It is a function of the
route, and a route that is put together from two leads where the second leads
from the end of the first. A walk with bounds that gets anywhere gets to the
same place, so the bounds only show where it gives up.

A child of a directory is reached in the same way by every path of the directory,
because a path below it leads where the name leads from there.
-/

namespace Marginalia

open Marginalia.Path (IsOrdinary)

namespace Disk

/-- A route leads from one place to another, through as many links as there are. -/
inductive Leads (disk : Disk) : Location → List Text → Location → Prop
  | stop {here : Location} : Leads disk here [] here
  | stay {here place : Location} {route : List Text} : disk.get? here = some .directory →
      Leads disk here route place → Leads disk here (['.'] :: route) place
  | up {here place : Location} {route : List Text} : disk.get? here = some .directory →
      Leads disk here.dropLast route place → Leads disk here (['.', '.'] :: route) place
  | down {here place : Location} {name : Text} {route : List Text} :
      disk.get? here = some .directory → name ≠ ['.'] → name ≠ ['.', '.'] →
      (∀ target, disk.get? (here ++ [name]) ≠ some (.link target)) →
      Leads disk (here ++ [name]) route place → Leads disk here (name :: route) place
  | link {here place : Location} {name target : Text} {route : List Text} :
      disk.get? here = some .directory → name ≠ ['.'] → name ≠ ['.', '.'] →
      disk.get? (here ++ [name]) = some (.link target) →
      Leads disk (if Path.isAbsolute target then [] else here) (steps target ++ route) place →
      Leads disk here (name :: route) place

/-- A route leads to a directory. -/
def LeadsToDirectory (disk : Disk) (here : Location) (route : List Text) (place : Location) :
    Prop :=
  disk.Leads here route place ∧ disk.get? place = some .directory

/-- A path leads to a directory, whatever its length and the number of links on the way. -/
def FindsDirectory (disk : Disk) (path : Text) (place : Location) : Prop :=
  path ≠ [] ∧ hasNull path = false ∧
    disk.LeadsToDirectory (disk.start path) (names path) place

/-- No bound keeps a path from the directory that it leads to. -/
def Unhindered (disk : Disk) (path : Text) : Prop :=
  ∀ place, disk.FindsDirectory path place → disk.directoryAt? path = some place

/-- Every name on a disk is one that a directory can hold. -/
def WellNamed (disk : Disk) : Prop :=
  ∀ entry ∈ disk.entries, ∀ name ∈ entry.1, IsOrdinary name ∧ '\x00' ∉ name

instance : DecidablePred WellNamed := fun disk =>
  inferInstanceAs (Decidable (∀ entry ∈ disk.entries, ∀ name ∈ entry.1, _))

variable {disk : Disk} {here mid place other : Location} {route front back : List Text}

/-! ## Routes -/

theorem Leads.unique (h : disk.Leads here route place) (hother : disk.Leads here route other) :
    place = other := by
  induction h with
  | stop => cases hother; rfl
  | stay _ _ ih =>
      cases hother with
      | stay _ hrest => exact ih hrest
      | down _ hdot => exact absurd rfl hdot
      | link _ hdot => exact absurd rfl hdot
  | up _ _ ih =>
      cases hother with
      | up _ hrest => exact ih hrest
      | down _ _ hdots => exact absurd rfl hdots
      | link _ _ hdots => exact absurd rfl hdots
  | down _ hdot hdots hnode _ ih =>
      cases hother with
      | stay => exact absurd rfl hdot
      | up => exact absurd rfl hdots
      | down _ _ _ _ hrest => exact ih hrest
      | link _ _ _ hlink => exact absurd hlink (hnode _)
  | link _ hdot hdots hlink _ ih =>
      cases hother with
      | stay => exact absurd rfl hdot
      | up => exact absurd rfl hdots
      | down _ _ _ hnode => exact absurd hlink (hnode _)
      | link _ _ _ hsame hrest =>
          rw [hlink] at hsame
          cases hsame
          exact ih hrest

theorem Leads.append (h : disk.Leads here front mid) (hback : disk.Leads mid back place) :
    disk.Leads here (front ++ back) place := by
  induction h with
  | stop => exact hback
  | stay hhere _ ih => exact .stay hhere (ih hback)
  | up hhere _ ih => exact .up hhere (ih hback)
  | down hhere hdot hdots hnode _ ih => exact .down hhere hdot hdots hnode (ih hback)
  | link hhere hdot hdots hlink _ ih =>
      have hrest := ih hback
      rw [List.append_assoc] at hrest
      exact .link hhere hdot hdots hlink hrest

theorem Leads.split (h : disk.Leads here (front ++ back) place) :
    ∃ mid, disk.Leads here front mid ∧ disk.Leads mid back place := by
  generalize hwhole : front ++ back = whole at h
  induction h generalizing front with
  | stop =>
      obtain ⟨rfl, rfl⟩ := List.append_eq_nil_iff.1 hwhole
      exact ⟨_, .stop, .stop⟩
  | @stay here _ route hhere hrest ih =>
      cases front with
      | nil =>
          obtain rfl : back = _ := hwhole
          exact ⟨here, .stop, .stay hhere hrest⟩
      | cons name front =>
          obtain ⟨rfl, hroute⟩ := List.cons.inj hwhole
          obtain ⟨mid, hfront, hback⟩ := ih hroute
          exact ⟨mid, .stay hhere hfront, hback⟩
  | @up here _ route hhere hrest ih =>
      cases front with
      | nil =>
          obtain rfl : back = _ := hwhole
          exact ⟨here, .stop, .up hhere hrest⟩
      | cons name front =>
          obtain ⟨rfl, hroute⟩ := List.cons.inj hwhole
          obtain ⟨mid, hfront, hback⟩ := ih hroute
          exact ⟨mid, .up hhere hfront, hback⟩
  | @down here _ name route hhere hdot hdots hnode hrest ih =>
      cases front with
      | nil =>
          obtain rfl : back = _ := hwhole
          exact ⟨here, .stop, .down hhere hdot hdots hnode hrest⟩
      | cons first front =>
          obtain ⟨rfl, hroute⟩ := List.cons.inj hwhole
          obtain ⟨mid, hfront, hback⟩ := ih hroute
          exact ⟨mid, .down hhere hdot hdots hnode hfront, hback⟩
  | @link here _ name target route hhere hdot hdots hlink hrest ih =>
      cases front with
      | nil =>
          obtain rfl : back = _ := hwhole
          exact ⟨here, .stop, .link hhere hdot hdots hlink hrest⟩
      | cons first front =>
          obtain ⟨rfl, hroute⟩ := List.cons.inj hwhole
          -- the walk goes through the target first, so the front grows by its steps
          have hlonger : (steps target ++ front) ++ back = steps target ++ route := by
            rw [List.append_assoc, ← hroute]
            rfl
          obtain ⟨mid, hfront, hback⟩ := ih hlonger
          exact ⟨mid, .link hhere hdot hdots hlink hfront, hback⟩

/-- After a route that leads somewhere, the rest leads on from there. -/
theorem leads_append_iff (h : disk.Leads here front mid) :
    disk.Leads here (front ++ back) place ↔ disk.Leads mid back place := by
  constructor
  · intro hwhole
    obtain ⟨found, hfront, hback⟩ := hwhole.split
    rwa [h.unique hfront]
  · exact h.append

/-- Without links, a route leads to the place that its names tell. -/
theorem Leads.eq_follow (hfree : disk.LinkFree) (h : disk.Leads here route place) :
    place = Location.follow here route := by
  induction h with
  | stop => rfl
  | stay _ _ ih => exact ih
  | up _ _ ih => exact ih
  | down _ hdot hdots _ _ ih =>
      rw [ih, Location.follow_cons, Location.step, if_neg hdot, if_neg hdots]
  | link _ _ _ hlink => exact absurd hlink (hfree.unlinked _ _)

theorem FindsDirectory.eq_placeOf (hfree : disk.LinkFree) {path : Text}
    (h : disk.FindsDirectory path place) : place = disk.placeOf path :=
  h.2.2.1.eq_follow hfree

/-! ## Walks -/

/-- A walk that gets to its end ends where the route leads. -/
theorem leads_of_walk {links : Nat} {spot : Spot}
    (h : disk.walk true links here route = .ok spot) :
    ∃ place, disk.Leads here route place ∧ spot = disk.spotAt place := by
  fun_induction walk disk true links here route with
  | case1 links here node hnode =>
      cases h
      exact ⟨here, .stop, by rw [spotAt, hnode]⟩
  | case2 links here hnone =>
      cases h
      exact ⟨here, .stop, by rw [spotAt, hnone]⟩
  | case3 | case4 | case5 | case8 | case10 => cases h
  | case6 links here route hhere ih =>
      obtain ⟨place, hleads, hspot⟩ := ih h
      exact ⟨place, .stay hhere hleads, hspot⟩
  | case7 links here route hhere _ ih =>
      obtain ⟨place, hleads, hspot⟩ := ih h
      exact ⟨place, .up hhere hleads, hspot⟩
  | case9 links here name route hhere hdot hdots hshort target hlink hlast => simp at hlast
  | case11 here name route hhere hdot hdots hshort target hlink hmore links ih =>
      obtain ⟨place, hleads, hspot⟩ := ih h
      exact ⟨place, .link hhere hdot hdots hlink hleads, hspot⟩
  | case12 links here name route hhere hdot hdots hshort hnode ih =>
      obtain ⟨place, hleads, hspot⟩ := ih h
      exact ⟨place, .down hhere hdot hdots hnode hleads, hspot⟩

theorem leads_names_of_steps {path : Text} (h : disk.Leads here (steps path) place) :
    disk.Leads here (names path) place := by
  rw [steps] at h
  obtain ⟨mid, hnames, hrest⟩ := h.split
  split at hrest
  · cases hrest with
    | stay _ hstop => cases hstop; exact hnames
    | down _ hdot => exact absurd rfl hdot
    | link _ hdot => exact absurd rfl hdot
  · cases hrest
    exact hnames

theorem leads_of_resolve {path : Text} {spot : Spot} (h : disk.resolve path = .ok spot) :
    path ≠ [] ∧ ∃ place, disk.Leads (disk.start path) (names path) place ∧
      spot = disk.spotAt place := by
  rw [resolve] at h
  split at h
  · cases h
  · next hne =>
      split at h
      · cases h
      · obtain ⟨place, hleads, hspot⟩ := leads_of_walk h
        exact ⟨hne, place, leads_names_of_steps hleads, hspot⟩

theorem findsDirectory_of_directoryAt? {path : Text} (h : disk.directoryAt? path = some place) :
    disk.FindsDirectory path place := by
  rw [directoryAt?] at h
  split at h
  · cases h
  · next hnull =>
      split at h
      · next found hresolve =>
          cases h
          obtain ⟨hne, _, hleads, hspot⟩ := leads_of_resolve hresolve
          obtain ⟨rfl, hnode⟩ := eq_of_present_eq_spotAt hspot
          exact ⟨hne, Bool.eq_false_iff.2 hnull, hleads, hnode⟩
      · cases h

/-- A path that is walked to its end is not hindered. -/
theorem unhindered_of_resolve {path : Text} {spot : Spot} (h : disk.resolve path = .ok spot) :
    disk.Unhindered path := by
  rintro place ⟨_, hnull, hleads, hnode⟩
  obtain ⟨_, found, hfound, hspot⟩ := leads_of_resolve h
  rw [hfound.unique hleads, spotAt, hnode] at hspot
  rw [directoryAt?, if_neg (by simp [hnull]), h, hspot]

theorem unhindered_of_isOk {path : Text} (h : (disk.resolve path).isOk = true) :
    disk.Unhindered path := by
  cases hspot : disk.resolve path with
  | error cause => rw [hspot] at h; cases h
  | ok spot => exact unhindered_of_resolve hspot

/-! ## Children -/

theorem exists_mem_entries_of_mem_children {name : Text} (h : name ∈ disk.children place) :
    ∃ node, (place ++ [name], node) ∈ disk.entries := by
  rw [children, List.mem_mergeSort] at h
  obtain ⟨⟨inner, node⟩, hmem, hlast⟩ := List.mem_filterMap.1 h
  simp only at hlast
  split at hlast
  · next hplace =>
      refine ⟨node, ?_⟩
      rw [← hplace, List.dropLast_append_getLast? name hlast]
      exact hmem
  · cases hlast

theorem WellNamed.of_mem_children (h : disk.WellNamed) {name : Text}
    (hmem : name ∈ disk.children place) : IsOrdinary name ∧ '\x00' ∉ name := by
  obtain ⟨node, hentry⟩ := exists_mem_entries_of_mem_children hmem
  exact h _ hentry name (List.mem_append_right _ (List.mem_singleton_self name))

theorem hasNull_join {path name : Text} (hpath : hasNull path = false) (hname : '\x00' ∉ name) :
    hasNull (Path.join path name) = false := by
  obtain ⟨front, heq, hfront⟩ := Path.exists_join_eq path name
  rw [hasNull_eq_false] at hpath ⊢
  rw [heq]
  intro hmem
  rcases List.mem_append.1 hmem with hmem | hmem
  · rcases hfront _ hmem with hmem | hslash
    · exact hpath hmem
    · exact absurd hslash (by decide)
  · exact hname hmem

theorem join_ne_nil {name : Text} (h : name ≠ []) (path : Text) : Path.join path name ≠ [] := by
  obtain ⟨front, heq, _⟩ := Path.exists_join_eq path name
  rw [heq]
  exact List.append_ne_nil_of_right_ne_nil _ h

/-- A name below a path leads to a directory if it does so from where the path leads. -/
theorem findsDirectory_join {path name : Text} {inner : Location} (hname : IsOrdinary name)
    (hnull : '\x00' ∉ name) (h : disk.FindsDirectory path place) :
    disk.FindsDirectory (Path.join path name) inner ↔
      disk.LeadsToDirectory place [name] inner := by
  obtain ⟨_, hpath, hleads, _⟩ := h
  have hrelative := Path.isAbsolute_of_not_mem hname.2.1
  have hstart : disk.start (Path.join path name) = disk.start path := by
    rw [start, start, Path.isAbsolute_join hrelative]
  rw [FindsDirectory, LeadsToDirectory, hstart, Path.names_join hrelative,
    Path.names_of_not_mem hname.2.1 hname.1, leads_append_iff hleads, LeadsToDirectory]
  exact ⟨fun h => h.2.2, fun h => ⟨join_ne_nil hname.1 path, hasNull_join hpath hnull, h⟩⟩

end Disk
end Marginalia
