import Marginalia.Disk.Write
import Marginalia.Proofs.PathNames
import Mathlib.Data.List.Infix

/-!
# Walking a disk without links

Where there are no links, a path says by itself where it leads: `Location.follow`
takes its names one after the other and never looks at the disk. The disk only
decides whether the walk gets there, and it does if every place on the way is a
directory. So a walk that has once succeeded keeps its end, and succeeds again,
on every disk that has at least the same directories.
-/

namespace Marginalia

namespace Location

/-- The place one step further, by the name of the step alone. -/
def step (here : Location) (name : Text) : Location :=
  if name = ['.'] then here
  else if name = ['.', '.'] then here.dropLast
  else here ++ [name]

/-- The place at the end of a route. -/
def follow (here : Location) (route : List Text) : Location :=
  route.foldl step here

@[simp] theorem follow_nil (here : Location) : follow here [] = here := rfl

@[simp] theorem follow_cons (here : Location) (name : Text) (route : List Text) :
    follow here (name :: route) = follow (step here name) route := rfl

theorem follow_append (here : Location) (route further : List Text) :
    follow here (route ++ further) = follow (follow here route) further :=
  List.foldl_append

theorem step_of_ordinary {name : Text} (h : Path.IsOrdinary name) (here : Location) :
    step here name = here ++ [name] := by
  rw [step, if_neg h.2.2.1, if_neg h.2.2.2]

theorem follow_of_ordinary {route : List Text} (h : ∀ name ∈ route, Path.IsOrdinary name)
    (here : Location) : follow here route = here ++ route := by
  induction route generalizing here with
  | nil => exact (List.append_nil here).symm
  | cons name route ih =>
      rw [follow_cons, step_of_ordinary (h name (List.mem_cons_self ..)),
        ih (fun other hmem => h other (List.mem_cons_of_mem _ hmem)), List.append_assoc]
      rfl

end Location

/-- Whether what is at a location is a link. -/
def Node.isLink : Node → Bool
  | .link _ => true
  | _ => false

namespace Disk

/-- There are no links on a disk: nothing stands for another path, and each file has one
location. -/
structure LinkFree (disk : Disk) : Prop where
  unlinked : ∀ place target, disk.get? place ≠ some (.link target)
  unshared : ∀ place, disk.locations place = [place]

theorem unlinked_of_entries {disk : Disk} (h : ∀ entry ∈ disk.entries, entry.2.isLink = false)
    (place : Location) (target : Text) : disk.get? place ≠ some (.link target) := by
  intro hlink
  cases place with
  | nil => cases hlink
  | cons name names => cases h _ (Dict.mem_of_get? hlink)

theorem linkFree_of_entries {disk : Disk} (h : ∀ entry ∈ disk.entries, entry.2.isLink = false)
    (hshared : disk.shared = []) : disk.LinkFree :=
  ⟨unlinked_of_entries h, fun place => by rw [locations, hshared]; rfl⟩

/-- The place that a path names when no link is on its way. -/
def placeOf (disk : Disk) (path : Text) : Location :=
  Location.follow (disk.start path) (names path)

/-- The places that a path passes on the way to its last name, the start among them. -/
def placesAbove (disk : Disk) (path : Text) : List Location :=
  (names path).dropLast.inits.map (Location.follow (disk.start path))

/-- A location is one in a directory, under an ordinary name of a path. -/
def HasRoom (disk : Disk) (path : Text) (place : Location) : Prop :=
  ∃ front name, place = front ++ [name] ∧ disk.get? front = some .directory ∧
    name ∈ names path ∧ Path.IsOrdinary name

theorem HasRoom.ne_nil {disk : Disk} {path : Text} {place : Location}
    (h : disk.HasRoom path place) : place ≠ [] := by
  obtain ⟨front, name, rfl, _⟩ := h
  exact List.append_ne_nil_of_right_ne_nil front (List.cons_ne_nil name [])

/-- Every place of a route but the last one is a directory. -/
def Passes (disk : Disk) (here : Location) (route : List Text) : Prop :=
  ∀ before after, route = before ++ after → after ≠ [] →
    disk.get? (Location.follow here before) = some .directory

/-- What a walk finds at its end. -/
def spotAt (disk : Disk) (place : Location) : Spot :=
  match disk.get? place with
  | some node => .present place node
  | none => .vacant place

variable {disk : Disk}

theorem eq_of_present_eq_spotAt {place other : Location} {node : Node}
    (h : Spot.present place node = disk.spotAt other) :
    place = other ∧ disk.get? other = some node := by
  rw [spotAt] at h
  split at h
  · next found heq =>
      cases h
      exact ⟨rfl, heq⟩
  · cases h

/-! ## Walks -/

theorem Passes.nil {here : Location} : disk.Passes here [] :=
  fun _ _ heq hne => absurd (List.append_eq_nil_iff.1 heq.symm).2 hne

theorem Passes.head {here : Location} {name : Text} {route : List Text}
    (h : disk.Passes here (name :: route)) : disk.get? here = some .directory :=
  h [] (name :: route) rfl (List.cons_ne_nil _ _)

theorem Passes.tail {here : Location} {name : Text} {route : List Text}
    (h : disk.Passes here (name :: route)) : disk.Passes (Location.step here name) route :=
  fun before after heq hne => h (name :: before) after (by rw [heq, List.cons_append]) hne

theorem Passes.cons {here : Location} {name : Text} {route : List Text}
    (hhere : disk.get? here = some .directory)
    (h : disk.Passes (Location.step here name) route) : disk.Passes here (name :: route) := by
  intro before after heq hne
  cases before with
  | nil => exact hhere
  | cons first before =>
      obtain ⟨rfl, hroute⟩ := List.cons.inj heq
      exact h before after hroute hne

theorem Passes.concat {here : Location} {route : List Text} {name : Text}
    (h : disk.Passes here route)
    (hend : disk.get? (Location.follow here route) = some .directory) :
    disk.Passes here (route ++ [name]) := by
  intro before after heq hne
  rcases List.eq_nil_or_concat after with rfl | ⟨rest, last, rfl⟩
  · exact absurd rfl hne
  · rw [List.concat_eq_append, ← List.append_assoc] at heq
    obtain ⟨hroute, _⟩ := List.append_inj' heq rfl
    cases rest with
    | nil => rwa [hroute, List.append_nil] at hend
    | cons next rest => exact h before (next :: rest) hroute (List.cons_ne_nil _ _)

theorem walk_nil (disk : Disk) (follow : Bool) (links : Nat) (here : Location) :
    disk.walk follow links here [] = .ok (disk.spotAt here) := by
  rw [walk, spotAt]
  cases disk.get? here <;> rfl

/-- Where the next step leads, on a disk without links. -/
theorem walk_cons (hfree : disk.LinkFree) (follow : Bool) (links : Nat) {here : Location}
    (hhere : disk.get? here = some .directory) (name : Text) (route : List Text) :
    disk.walk follow links here (name :: route) =
      if isLongName name then .error .nameTooLong
      else disk.walk follow links (Location.step here name) route := by
  rw [walk, hhere]
  by_cases hdot : name = ['.']
  · have hshort : isLongName name = false := by rw [hdot]; decide
    simp only [if_pos hdot, hshort, Location.step]
    rfl
  · by_cases hdots : name = ['.', '.']
    · have hshort : isLongName name = false := by rw [hdots]; decide
      simp only [if_neg hdot, if_pos hdots, hshort, Location.step]
      rfl
    · simp only [if_neg hdot, if_neg hdots, Location.step]
      split
      · rfl
      · split
        · next target heq => exact absurd heq (hfree.unlinked _ target)
        · rfl

/-- A walk that gets to its end has passed directories only, and its end is where
the names say. -/
theorem passes_of_walk (hfree : disk.LinkFree) {follow : Bool} {links : Nat} {here : Location}
    {route : List Text} {spot : Spot} (h : disk.walk follow links here route = .ok spot) :
    disk.Passes here route ∧ (∀ name ∈ route, isLongName name = false) ∧
      spot = disk.spotAt (Location.follow here route) := by
  induction route generalizing here with
  | nil =>
      refine ⟨.nil, fun name hmem => ?_, ?_⟩
      · cases hmem
      · rw [walk_nil] at h
        exact (Except.ok.inj h).symm
  | cons name route ih =>
      have hhere : disk.get? here = some .directory := by
        rw [walk] at h
        split at h
        · cases h
        · cases h
        · cases h
        · next hdir => exact hdir
      rw [walk_cons hfree follow links hhere] at h
      split at h
      · cases h
      · next hshort =>
          obtain ⟨hpasses, hnames, hspot⟩ := ih h
          refine ⟨hpasses.cons hhere, fun other hmem => ?_, hspot⟩
          rcases List.mem_cons.1 hmem with rfl | hmem
          · exact Bool.eq_false_iff.2 hshort
          · exact hnames other hmem

theorem walk_of_passes (hfree : disk.LinkFree) (follow : Bool) (links : Nat) {here : Location}
    {route : List Text} (hpasses : disk.Passes here route)
    (hnames : ∀ name ∈ route, isLongName name = false) :
    disk.walk follow links here route = .ok (disk.spotAt (Location.follow here route)) := by
  induction route generalizing here with
  | nil => rw [walk_nil, Location.follow_nil]
  | cons name route ih =>
      rw [walk_cons hfree follow links hpasses.head,
        if_neg (by simp [hnames name (List.mem_cons_self ..)]),
        ih hpasses.tail fun other hmem => hnames other (List.mem_cons_of_mem _ hmem),
        Location.follow_cons]

/-! ## Reading -/

theorem follow_steps (here : Location) (path : Text) :
    Location.follow here (steps path) = Location.follow here (names path) := by
  rw [steps, Location.follow_append]
  split
  · rw [Location.follow_cons, Location.step, if_pos rfl, Location.follow_nil]
  · rfl

/-- A path can be walked to its last name. -/
structure Reaches (disk : Disk) (path : Text) : Prop where
  null_free : hasNull path = false
  ne_nil : path ≠ []
  short : isLongPath path = false
  names_short : ∀ name ∈ steps path, isLongName name = false
  passes : disk.Passes (disk.start path) (steps path)

theorem Reaches.resolve_eq (hfree : disk.LinkFree) {path : Text} (h : disk.Reaches path) :
    disk.resolve path = .ok (disk.spotAt (disk.placeOf path)) := by
  rw [resolve, if_neg h.ne_nil, if_neg (by simp [h.short]),
    walk_of_passes hfree true maxLinks h.passes h.names_short, follow_steps, placeOf]

/-- What a path leads to is at the place that its names lead to. -/
theorem passes_of_resolve (hfree : disk.LinkFree) {path : Text} {spot : Spot}
    (h : disk.resolve path = .ok spot) :
    path ≠ [] ∧ isLongPath path = false ∧ disk.Passes (disk.start path) (steps path) ∧
      (∀ name ∈ steps path, isLongName name = false) ∧ spot = disk.spotAt (disk.placeOf path) := by
  rw [resolve] at h
  split at h
  · cases h
  · next hne =>
      split at h
      · cases h
      · next hshort =>
          obtain ⟨hpasses, hnames, hspot⟩ := passes_of_walk hfree h
          rw [follow_steps, ← placeOf] at hspot
          exact ⟨hne, Bool.eq_false_iff.2 hshort, hpasses, hnames, hspot⟩

theorem reaches_of_resolve (hfree : disk.LinkFree) {path : Text} {spot : Spot}
    (hnull : hasNull path = false) (h : disk.resolve path = .ok spot) :
    disk.Reaches path ∧ spot = disk.spotAt (disk.placeOf path) := by
  obtain ⟨hne, hshort, hpasses, hnames, hspot⟩ := passes_of_resolve hfree h
  exact ⟨⟨hnull, hne, hshort, hnames, hpasses⟩, hspot⟩

/-- A file that can be read is at the place that its path names. -/
theorem readFile_iff (hfree : disk.LinkFree) {path : Text} {content : Bytes} :
    disk.readFile path = .ok content ↔
      disk.Reaches path ∧ disk.get? (disk.placeOf path) = some (.file content) := by
  constructor
  · intro h
    rw [readFile] at h
    split at h
    · cases h
    · next hnull =>
        cases hresolve : disk.resolve path with
        | error cause => rw [hresolve] at h; cases h
        | ok spot =>
            obtain ⟨hreaches, hspot⟩ :=
              reaches_of_resolve hfree (Bool.eq_false_iff.2 hnull) hresolve
            refine ⟨hreaches, ?_⟩
            rw [hresolve, hspot, spotAt] at h
            cases hnode : disk.get? (disk.placeOf path) with
            | none => rw [hnode] at h; cases h
            | some node =>
                rw [hnode] at h
                cases node with
                | file found => cases h; rfl
                | directory => cases h
                | link target => cases h
  · rintro ⟨hreaches, hnode⟩
    rw [readFile, if_neg (by simp [hreaches.null_free]), hreaches.resolve_eq hfree, spotAt, hnode]

/-- What can be reached stays so while no directory goes. -/
theorem Reaches.mono {after : Disk} {path : Text} (h : disk.Reaches path)
    (hcwd : after.cwd = disk.cwd)
    (hdirs : ∀ place, disk.get? place = some .directory → after.get? place = some .directory) :
    after.Reaches path where
  null_free := h.null_free
  ne_nil := h.ne_nil
  short := h.short
  names_short := h.names_short
  passes := by
    intro before rest heq hne
    have hstart : after.start path = disk.start path := by rw [start, start, hcwd]
    rw [hstart]
    exact hdirs _ (h.passes before rest heq hne)

theorem Reaches.get?_of_mem_placesAbove {path : Text} (h : disk.Reaches path) {place : Location}
    (hmem : place ∈ disk.placesAbove path) (hne : names path ≠ []) :
    disk.get? place = some .directory := by
  obtain ⟨before, hbefore, rfl⟩ := List.mem_map.1 hmem
  obtain ⟨rest, hrest⟩ := (List.mem_inits _ _).1 hbefore
  refine h.passes before (rest ++ [(names path).getLast hne] ++
    if endsInSlash path then [['.']] else []) ?_ (by simp)
  rw [steps, ← List.append_assoc, ← List.append_assoc, hrest, List.dropLast_append_getLast]

end Disk
end Marginalia
