import Marginalia.Proofs.SecondTraversal

/-!
# Doing things to a disk again

What a run has done to a disk can be done again: a directory that is there is made
without a change, and a file that is there is written. A path that is reached passes
the directories above it, so all of them can be made again, under each of the
spellings that the beginnings of the path give them.
-/

namespace Marginalia

open Marginalia.Disk (names)
open Marginalia.Path (IsOrdinary)

namespace Path

theorem parent_isPrefix (path : Text) : parent path <+: path := by
  rcases name_cases path with ⟨_, _, hparent⟩ | ⟨front, hpath, _, hparent⟩
  · rw [hparent]
    exact List.nil_prefix
  · conv_rhs => rw [hpath]
    rw [hparent]
    split
    · exact ⟨name path, by rw [List.append_assoc]; rfl⟩
    · rw [Text.dropEndWhile_eq_rdropWhile]
      exact (List.rdropWhile_prefix _ _).trans (List.prefix_append _ _)

theorem splitLast_isPrefix (path : Text) : (Disk.splitLast path).1 <+: path := by
  rw [Disk.splitLast]
  split
  · exact (parent_isPrefix _).trans (parent_isPrefix path)
  · exact parent_isPrefix path

theorem join_isPrefix {path : Text} (h : isAbsolute path = false) (base : Text) :
    base <+: join base path := by
  rw [join, if_neg (by simp [h])]
  split <;> exact List.prefix_append _ _

end Path

namespace Disk

variable {disk : Disk} {path above : Text} {here place : Location}

/-! ## Directories above a path -/

theorem Passes.front {route further : List Text} (h : disk.Passes here (route ++ further)) :
    disk.Passes here route :=
  fun before rest heq hne =>
    h before (rest ++ further) (by rw [heq, List.append_assoc])
      (List.append_ne_nil_of_left_ne_nil hne further)

theorem isLongPath_of_prefix (hbegins : above <+: path) (h : isLongPath path = false) :
    isLongPath above = false := by
  obtain ⟨rest, rfl⟩ := hbegins
  rw [isLongPath, decide_eq_false_iff_not, not_le] at h ⊢
  rw [Utf8.encode, List.flatMap_append, List.length_append] at h
  exact Nat.lt_of_le_of_lt (Nat.le_add_right _ _) h

/-- A path that is reached leads through directories, whatever begins it. -/
theorem Reaches.directoryAt?_of_prefix (hfree : disk.LinkFree) (h : disk.Reaches path)
    (hbegins : above <+: path) (hne : above ≠ []) (hstart : disk.start above = disk.start path)
    {further : List Text} (hnames : names path = names above ++ further) (hfurther : further ≠ []) :
    disk.directoryAt? above = some (disk.placeOf above) := by
  have hroute := h.passes_names
  rw [hnames, ← hstart] at hroute
  have hnode : disk.get? (disk.placeOf above) = some .directory :=
    hroute (names above) further rfl hfurther
  refine (directoryAt?_eq_some hfree).2 ⟨⟨?_, hne, isLongPath_of_prefix hbegins h.short, ?_, ?_⟩,
    rfl, hnode⟩
  · exact hasNull_eq_false.2 fun hmem => hasNull_eq_false.1 h.null_free (hbegins.subset hmem)
  · intro name hmem
    rcases List.mem_append.1 hmem with hmem | hmem
    · refine h.names_short name (List.mem_append_left _ ?_)
      rw [hnames]
      exact List.mem_append_left _ hmem
    · have hdot : name = ['.'] := by
        split at hmem
        · exact List.mem_singleton.1 hmem
        · cases hmem
      rw [hdot]
      decide
  · rw [steps]
    split
    · exact hroute.front.concat hnode
    · rw [List.append_nil]
      exact hroute.front

/-- The directory that a path lies in is there if the path is reached. -/
theorem Reaches.directoryAt?_directoryOf (hfree : disk.LinkFree) (h : disk.Reaches path)
    (hname : Path.name path ≠ []) :
    ∃ place, disk.directoryAt? (Path.directoryOf path) = some place := by
  have hsplit := Path.names_parent_append path
  rw [Path.names_name hname] at hsplit
  rw [Path.directoryOf]
  split
  · next hnil =>
      have hstart : disk.start path = disk.cwd := by
        rw [start, Path.isAbsolute_of_parent_eq_nil hnil]
        rfl
      have hroute := h.passes_names
      rw [← hsplit, hnil] at hroute
      have hcwd : disk.get? disk.cwd = some .directory := hstart ▸ hroute.head
      have hdot : disk.Passes (disk.start ['.']) (steps ['.']) := .cons hcwd .nil
      exact ⟨_, (directoryAt?_eq_some hfree).2
        ⟨⟨by decide, by decide, by decide, by decide, hdot⟩, rfl, hcwd⟩⟩
  · next hne =>
      have hstart : disk.start (Path.parent path) = disk.start path := by
        rw [start, start, Path.isAbsolute_parent hne]
      exact ⟨_, h.directoryAt?_of_prefix hfree (Path.parent_isPrefix path) hne hstart hsplit.symm
        (List.cons_ne_nil _ _)⟩

/-! ## Making directories -/

theorem ensureDir_of_directoryAt? (hfree : disk.LinkFree)
    (h : disk.directoryAt? path = some place) : disk.ensureDir path = (.ok (), disk) := by
  obtain ⟨hreaches, rfl, hnode⟩ := (directoryAt?_eq_some hfree).1 h
  have hdirectory : disk.isDirectory path = true := by
    rw [isDirectory, h]
    rfl
  have hmade : ∃ cause, disk.makeDir path = (.error (.refused cause path), disk) := by
    rw [makeDir, if_neg (by simp [hreaches.null_free])]
    split
    · next found hfound =>
        obtain ⟨rfl, _, hvacant⟩ := directoryPlace_eq_ok hfree hfound
        rw [hnode] at hvacant
        cases hvacant
    · next cause _ => exact ⟨cause, rfl⟩
  obtain ⟨cause, hmade⟩ := hmade
  rw [ensureDir, hmade]
  simp only [hdirectory, if_true]

/-- A directory that is there is made without a change. -/
theorem makeDirs_of_directoryAt? (hfree : disk.LinkFree) (h : disk.directoryAt? path = some place) :
    disk.makeDirs path = (.ok (), disk) := by
  obtain ⟨hreaches, rfl, hnode⟩ := (directoryAt?_eq_some hfree).1 h
  rw [← ensureDir_of_directoryAt? hfree h]
  by_cases hsplit : (splitLast path).1 ≠ [] ∧ (splitLast path).2 ≠ []
  · obtain ⟨hne, hlast⟩ := hsplit
    have hstart : disk.start (splitLast path).1 = disk.start path := by
      rw [start, start, Path.isAbsolute_splitLast hne]
    have habove := hreaches.directoryAt?_of_prefix hfree (Path.splitLast_isPrefix path) hne hstart
      (Path.names_splitLast hlast).symm (List.cons_ne_nil _ _)
    exact makeDirs_of_exists (exists?_of_directoryAt? habove)
  · rw [makeDirs, dif_neg hsplit]

/-! ## Writing files -/

/-- The system stops no writing. -/
def TakesAll (disk : Disk) : Prop :=
  ∀ entries place content, disk.stops entries place content = none

/-- A file that is there can be written with a text that has bytes. -/
theorem writeText_of_file (hfree : disk.LinkFree) (h : disk.Reaches path)
    (hslash : endsInSlash path = false) {front : List Text} {name : Text}
    (hnames : names path = front ++ [name]) (hname : IsOrdinary name) {old : Bytes}
    (hfile : disk.get? (disk.placeOf path) = some (.file old)) (htakes : disk.TakesAll)
    {text : Text} (htext : disk.encodeText text = .ok (Utf8.encode text)) :
    ∃ after, disk.writeText path text = (.ok (), after) := by
  have hroute := h.passes_names
  rw [hnames] at hroute
  have hnode : disk.get? (Location.follow (disk.start path) front) = some .directory :=
    hroute front [name] rfl (List.cons_ne_nil _ _)
  have hshort : ∀ other ∈ names path, isLongName other = false := fun other hmem =>
    h.names_short other (List.mem_append_left _ hmem)
  rw [hnames] at hshort
  have haround : disk.around (disk.start path) path =
      .ok (Location.follow (disk.start path) front) := by
    rw [around, hnames, List.dropLast_concat,
      walk_of_passes hfree true maxLinks hroute.front fun other hmem =>
        hshort other (List.mem_append_left _ hmem), spotAt, hnode]
    rfl
  have hplace : disk.placeOf path = Location.follow (disk.start path) front ++ [name] := by
    rw [placeOf, hnames, Location.follow_append, Location.follow_cons, Location.follow_nil,
      Location.step_of_ordinary hname]
  have hlast : (names path).getLastD ['.'] = name := by
    rw [hnames, List.getLastD_concat]
  rw [hplace] at hfile
  have hlong := hshort name (List.mem_append_right _ (List.mem_singleton_self name))
  have hfound : disk.filePlace path = .ok (disk.placeOf path) := by
    rw [filePlace, if_neg h.ne_nil, if_neg (by simp [h.short]), filePlaceFrom, haround]
    simp only [hlast, hslash, hlong, hfile, hname.2.2.1, hname.2.2.2, hplace]
    rfl
  have hopen : disk.openFile path =
      (.ok (disk.placeOf path), disk.putFile (disk.placeOf path) []) := by
    rw [openFile, if_neg (by simp [h.null_free]), hfound]
  have hput : disk.putFile (disk.placeOf path) [] = disk.put (disk.placeOf path) (.file []) :=
    putFile_of_unshared (hfree.unshared _) []
  rw [writeText, htext]
  simp only [writeFile, hopen, hput, fillFile]
  have hstops := htakes (disk.put (disk.placeOf path) (.file [])).entries (disk.placeOf path)
    (Utf8.encode text)
  simp only [put] at hstops ⊢
  rw [hstops]
  exact ⟨_, rfl⟩

end Disk
end Marginalia
