import Marginalia.Proofs.DiskWalk

/-!
# What writing changes

A run makes directories and writes files, and what it leaves behind is described
by two lists: the places where a directory may have been made, and the files in
the order in which they were written. `Updated` says that one disk comes from
another in this way. It is closed under doing one thing after the other, so a
step of a run says what it adds to the lists and nothing about the rest.

A directory is only ever made where nothing was, and no file replaces a
directory. This is part of the relation, because it is what later steps rely on:
a path that could be walked can be walked again.
-/

namespace Marginalia.Disk

variable {disk : Disk}

/-- The places that the beginnings of a path name, the path itself among them. -/
def placesAlong (disk : Disk) (path : Text) : List Location :=
  (names path).inits.map (Location.follow (disk.start path))

/-- What was last written to a place. -/
def lastWritten? (files : List (Location × Bytes)) (place : Location) : Option Bytes :=
  Dict.get? place files.reverse

/-- `after` comes from `before` by writing `files` in their order and making
directories at some of `dirs`. -/
structure Updated (before after : Disk) (dirs : List Location) (files : List (Location × Bytes)) :
    Prop where
  same : after = { before with entries := after.entries }
  written : ∀ place content, lastWritten? files place = some content →
    after.get? place = some (.file content)
  rest : ∀ place, lastWritten? files place = none →
    after.get? place = before.get? place ∨
      place ∈ dirs ∧ before.get? place = none ∧ after.get? place = some .directory
  kept : ∀ place, before.get? place = some .directory → after.get? place = some .directory

/-! ## The relation -/

theorem lastWritten?_append (files further : List (Location × Bytes)) (place : Location) :
    lastWritten? (files ++ further) place =
      (lastWritten? further place).or (lastWritten? files place) := by
  have happend : ∀ first second : List (Location × Bytes),
      Dict.get? place (first ++ second) = (Dict.get? place first).or (Dict.get? place second) := by
    intro first second
    induction first with
    | nil => rfl
    | cons entry first ih =>
        obtain ⟨key, content⟩ := entry
        rw [List.cons_append, Dict.get?, Dict.get?, ih]
        split <;> rfl
  rw [lastWritten?, List.reverse_append, happend]
  rfl

theorem lastWritten?_singleton (place other : Location) (content : Bytes) :
    lastWritten? [(place, content)] other = if place = other then some content else none := rfl

theorem mem_of_lastWritten? {files : List (Location × Bytes)} {place : Location} {content : Bytes}
    (h : lastWritten? files place = some content) : (place, content) ∈ files :=
  List.mem_reverse.1 (Dict.mem_of_get? h)

theorem lastWritten?_eq_none {files : List (Location × Bytes)} {place : Location}
    (h : ∀ entry ∈ files, entry.1 ≠ place) : lastWritten? files place = none := by
  cases hlast : lastWritten? files place with
  | none => rfl
  | some content => exact absurd rfl (h _ (mem_of_lastWritten? hlast))

namespace Updated

variable {before middle after : Disk} {dirs : List Location}
  {files further : List (Location × Bytes)} {path : Text} {content : Bytes}

theorem refl (disk : Disk) (dirs : List Location) : Updated disk disk dirs [] where
  same := rfl
  written _ _ h := by cases h
  rest _ _ := Or.inl rfl
  kept _ h := h

theorem mono {wider : List Location} (h : Updated before after dirs files) (hsub : dirs ⊆ wider) :
    Updated before after wider files where
  same := h.same
  written := h.written
  rest place hnone := (h.rest place hnone).imp id fun hmade => ⟨hsub hmade.1, hmade.2⟩
  kept := h.kept

theorem trans (hfirst : Updated before middle dirs files)
    (hsecond : Updated middle after dirs further) :
    Updated before after dirs (files ++ further) where
  same := hsecond.same.trans (by rw [hfirst.same])
  written place content h := by
    rw [lastWritten?_append] at h
    cases hlast : lastWritten? further place with
    | some found =>
        rw [hlast] at h
        cases h
        exact hsecond.written place content hlast
    | none =>
        rw [hlast] at h
        have hmiddle := hfirst.written place content h
        rcases hsecond.rest place hlast with hsame | ⟨_, hnone, _⟩
        · rw [hsame, hmiddle]
        · rw [hmiddle] at hnone
          cases hnone
  rest place h := by
    rw [lastWritten?_append, Option.or_eq_none_iff] at h
    rcases hfirst.rest place h.2, hsecond.rest place h.1 with
      ⟨hfirst | ⟨hmem, hnone, hmade⟩, hsecond | ⟨hmem', hnone', hmade'⟩⟩
    · exact Or.inl (hsecond.trans hfirst)
    · exact Or.inr ⟨hmem', hfirst ▸ hnone', hmade'⟩
    · exact Or.inr ⟨hmem, hnone, hsecond.trans hmade⟩
    · exact Or.inr ⟨hmem, hnone, hmade'⟩
  kept place h := hsecond.kept place (hfirst.kept place h)

theorem cwd_eq (h : Updated before after dirs files) : after.cwd = before.cwd := by
  rw [h.same]

theorem encodeText_eq (h : Updated before after dirs files) (text : Text) :
    after.encodeText text = before.encodeText text := by
  rw [encodeText, encodeText, h.same]

theorem linkFree (h : Updated before after dirs files) (hfree : before.LinkFree) :
    after.LinkFree := by
  refine ⟨fun place target hlink => ?_, fun place => by rw [h.same]; exact hfree.unshared place⟩
  cases hlast : lastWritten? files place with
  | some content =>
      rw [h.written place content hlast] at hlink
      cases hlink
  | none =>
      rcases h.rest place hlast with hsame | ⟨_, _, hmade⟩
      · exact hfree.unlinked place target (hsame ▸ hlink)
      · rw [hmade] at hlink
        cases hlink

theorem start_eq (h : Updated before after dirs files) (path : Text) :
    after.start path = before.start path := by
  rw [start, start, h.cwd_eq]

theorem placeOf_eq (h : Updated before after dirs files) (path : Text) :
    after.placeOf path = before.placeOf path := by
  rw [placeOf, placeOf, h.start_eq]

theorem placesAbove_eq (h : Updated before after dirs files) (path : Text) :
    after.placesAbove path = before.placesAbove path := by
  rw [placesAbove, placesAbove, h.start_eq]

/-- A file that none of the writes could reach was there before. -/
theorem get?_of_file (h : Updated before after dirs files) {place : Location} {content : Bytes}
    (hfile : after.get? place = some (.file content))
    (hother : ∀ entry ∈ files, entry.1 ≠ place) : before.get? place = some (.file content) := by
  rcases h.rest place (lastWritten?_eq_none hother) with hsame | ⟨_, _, hmade⟩
  · exact hsame ▸ hfile
  · rw [hmade] at hfile
    cases hfile

/-- Where a directory is, there was one or there was nothing. -/
theorem get?_of_directory (h : Updated before after dirs files) {place : Location}
    (hdirectory : after.get? place = some .directory) :
    before.get? place = none ∨ before.get? place = some .directory := by
  cases hlast : lastWritten? files place with
  | some content =>
      rw [h.written place content hlast] at hdirectory
      cases hdirectory
  | none =>
      rcases h.rest place hlast with hsame | ⟨_, hnone, _⟩
      · exact Or.inr (hsame ▸ hdirectory)
      · exact Or.inl hnone

theorem get?_of_untouched (h : Updated before after dirs files) {place : Location}
    (hdirs : place ∉ dirs) (hother : ∀ entry ∈ files, entry.1 ≠ place) :
    after.get? place = before.get? place := by
  rcases h.rest place (lastWritten?_eq_none hother) with hsame | ⟨hmem, _, _⟩
  · exact hsame
  · exact absurd hmem hdirs

/-- Where something was written is a file. -/
theorem exists_file (h : Updated before after dirs files) {place : Location}
    (hmem : place ∈ files.map Prod.fst) : ∃ content, after.get? place = some (.file content) := by
  have hkey : place ∈ files.reverse.map Prod.fst := by
    rw [List.map_reverse]
    exact List.mem_reverse.2 hmem
  obtain ⟨content, hlast⟩ := Option.isSome_iff_exists.1 (Dict.isSome_get?.2 hkey)
  exact ⟨content, h.written place content hlast⟩

/-- The last file that was written to a place is there, and its path reads as it. -/
theorem readFile_of_last (h : Updated before after dirs files) (hfree : before.LinkFree)
    (hreaches : after.Reaches path) {earlier : List (Location × Bytes)}
    (hfiles : files = earlier ++ (before.placeOf path, content) :: further)
    (hlast : ∀ entry ∈ further, entry.1 ≠ before.placeOf path) :
    after.readFile path = .ok content := by
  refine (readFile_iff (h.linkFree hfree)).2 ⟨hreaches, ?_⟩
  rw [h.placeOf_eq]
  refine h.written _ content ?_
  rw [hfiles, List.append_cons, lastWritten?_append, lastWritten?_eq_none hlast, lastWritten?_append,
    lastWritten?_singleton, if_pos rfl]
  rfl

end Updated

/-! ## Making directories -/

theorem get?_put_of_ne_nil (disk : Disk) {place : Location} (hne : place ≠ []) (node : Node)
    (other : Location) :
    (disk.put place node).get? other = if place = other then some node else disk.get? other := by
  cases other with
  | nil => rw [if_neg hne]; rfl
  | cons name names => exact Dict.get?_put place (name :: names) node disk.entries

theorem ordinary_of_mem_names {path name : Text} (hmem : name ∈ names path) (hdot : name ≠ ['.'])
    (hdots : name ≠ ['.', '.']) : Path.IsOrdinary name :=
  ⟨Path.ne_nil_of_mem_names hmem, Path.slash_not_mem_of_mem_names hmem, hdot, hdots⟩

theorem placeOf_of_getLast? {path name : Text} (hlast : (names path).getLast? = some name)
    (hname : Path.IsOrdinary name) :
    disk.placeOf path =
      Location.follow (disk.start path) (names path).dropLast ++ [name] := by
  obtain ⟨front, hfront⟩ := List.getLast?_eq_some_iff.1 hlast
  rw [placeOf, hfront, Location.follow_append, List.dropLast_concat, Location.follow_cons,
    Location.follow_nil, Location.step_of_ordinary hname]

theorem directoryPlace_eq_ok (hfree : disk.LinkFree) {path : Text} {place : Location}
    (h : disk.directoryPlace path = .ok place) :
    place = disk.placeOf path ∧ disk.HasRoom path place ∧ disk.get? place = none := by
  rw [directoryPlace] at h
  split at h
  · cases h
  · split at h
    · cases h
    · split at h
      · cases h
      · next name hlast =>
          split at h
          · cases h
          · cases h
          · next around node hwalk =>
              split at h
              · cases h
              · next hnode =>
                  split at h
                  · cases h
                  · next hname =>
                      split at h
                      · cases h
                      · split at h
                        · cases h
                        · next hvacant =>
                            obtain ⟨_, _, hspot⟩ := passes_of_walk hfree hwalk
                            have hordinary : Path.IsOrdinary name :=
                              ordinary_of_mem_names (List.mem_of_getLast? hlast)
                                (fun hdot => hname (by simp [hdot]))
                                (fun hdots => hname (by simp [hdots]))
                            obtain ⟨haround, hfound⟩ := eq_of_present_eq_spotAt hspot
                            rw [not_not.1 hnode] at hfound
                            cases h
                            refine ⟨?_, ⟨around, name, rfl, haround ▸ hfound,
                              List.mem_of_getLast? hlast, hordinary⟩, by simpa using hvacant⟩
                            rw [placeOf_of_getLast? hlast hordinary, haround]

theorem updated_makeDir (hfree : disk.LinkFree) (path : Text) :
    Updated disk (disk.makeDir path).2 [disk.placeOf path] [] := by
  rw [makeDir]
  split
  · exact .refl disk _
  · split
    · next place hplace =>
        obtain ⟨rfl, hroom, hvacant⟩ := directoryPlace_eq_ok hfree hplace
        have hput := get?_put_of_ne_nil disk hroom.ne_nil .directory
        refine ⟨rfl, fun _ _ h => (by cases h), fun other _ => ?_, fun other hother => ?_⟩
        · by_cases hsame : disk.placeOf path = other
          · exact Or.inr ⟨hsame ▸ List.mem_singleton_self _, hsame ▸ hvacant,
              (hput other).trans (if_pos hsame)⟩
          · exact Or.inl ((hput other).trans (if_neg hsame))
        · rw [hput]
          split
          · rfl
          · exact hother
    · exact .refl disk _

theorem updated_ensureDir (hfree : disk.LinkFree) (path : Text) :
    Updated disk (disk.ensureDir path).2 [disk.placeOf path] [] := by
  have hmade := updated_makeDir hfree path
  rw [ensureDir]
  split
  · next cause refusedPath after heq =>
      rw [heq] at hmade
      split <;> exact hmade
  · exact hmade

theorem placeOf_mem_placesAlong (disk : Disk) (path : Text) :
    disk.placeOf path ∈ disk.placesAlong path :=
  List.mem_map_of_mem ((List.mem_inits _ _).2 List.prefix_rfl)

theorem placesAlong_splitLast {path : Text} (hparent : (splitLast path).1 ≠ [])
    (hname : (splitLast path).2 ≠ []) :
    disk.placesAlong (splitLast path).1 ⊆ disk.placesAlong path := by
  intro place hmem
  obtain ⟨before, hbefore, rfl⟩ := List.mem_map.1 hmem
  have hprefix : before <+: names path := by
    rw [← Path.names_splitLast hname]
    exact ((List.mem_inits _ _).1 hbefore).trans (List.prefix_append _ _)
  have hstart : disk.start (splitLast path).1 = disk.start path := by
    rw [start, start, Path.isAbsolute_splitLast hparent]
  rw [hstart]
  exact List.mem_map_of_mem ((List.mem_inits _ _).2 hprefix)

/-- Making the last directory after those above it. -/
theorem updated_ensureDir_of_above (hfree : disk.LinkFree) {above : Disk} {path : Text}
    (h : Updated disk above (disk.placesAlong path) []) :
    Updated disk (above.ensureDir path).2 (disk.placesAlong path) [] := by
  have hlast := updated_ensureDir (h.linkFree hfree) path
  rw [h.placeOf_eq] at hlast
  refine h.trans (hlast.mono fun place hmem => ?_)
  rw [List.mem_singleton.1 hmem]
  exact placeOf_mem_placesAlong disk path

theorem makeDirs_of_splitLast {path : Text} (h : (splitLast path).1 = []) (disk : Disk) :
    disk.makeDirs path = disk.ensureDir path := by
  rw [makeDirs, dif_neg fun hsplit => hsplit.1 h]

theorem makeDirs_of_exists {path : Text} (h : disk.exists? (splitLast path).1 = true) :
    disk.makeDirs path = disk.ensureDir path := by
  rw [makeDirs, if_pos h, dite_eq_ite, ite_self]

/-- Whether it succeeds or not, making a directory and those above it makes no others. -/
theorem updated_makeDirs (hfree : disk.LinkFree) (path : Text) :
    Updated disk (disk.makeDirs path).2 (disk.placesAlong path) [] := by
  fun_induction makeDirs disk path with
  | case1 path h hexists => exact updated_ensureDir_of_above hfree (.refl disk _)
  | case2 path h hmissing refusedPath above heq hdot ih
  | case4 path h hmissing above heq hdot ih =>
      rw [heq] at ih
      exact ih.mono (placesAlong_splitLast h.1 h.2)
  | case3 path h hmissing refusedPath above heq hname ih
  | case5 path h hmissing above heq hname ih =>
      rw [heq] at ih
      exact updated_ensureDir_of_above hfree (ih.mono (placesAlong_splitLast h.1 h.2))
  | case6 path h hmissing hfailed hother ih => exact ih.mono (placesAlong_splitLast h.1 h.2)
  | case7 path h => exact updated_ensureDir_of_above hfree (.refl disk _)

/-! ## Writing files -/

theorem around_eq_ok (hfree : disk.LinkFree) {here place : Location} {path : Text}
    (h : disk.around here path = .ok place) :
    place = Location.follow here (names path).dropLast ∧ disk.get? place = some .directory ∧
      disk.Passes here (names path).dropLast ∧
      ∀ name ∈ (names path).dropLast, isLongName name = false := by
  rw [around] at h
  split at h
  · cases h
  · cases h
  · next found node hwalk =>
      obtain ⟨hpasses, hnames, hspot⟩ := passes_of_walk hfree hwalk
      obtain ⟨rfl, hnode⟩ := eq_of_present_eq_spotAt hspot
      split at h
      · next hdirectory =>
          cases h
          exact ⟨rfl, hdirectory ▸ hnode, hpasses, hnames⟩
      · cases h

theorem steps_of_getLast? {path name : Text} (hslash : endsInSlash path = false)
    (hlast : (names path).getLast? = some name) :
    steps path = (names path).dropLast ++ [name] := by
  obtain ⟨front, hfront⟩ := List.getLast?_eq_some_iff.1 hlast
  rw [steps, hslash, hfront, List.dropLast_concat]
  exact List.append_nil _

theorem filePlaceFrom_eq_ok (hfree : disk.LinkFree) {links : Nat} {path : Text}
    {place : Location} (h : disk.filePlaceFrom links (disk.start path) path = .ok place) :
    place = disk.placeOf path ∧ disk.HasRoom path place ∧ disk.get? place ≠ some .directory ∧
      disk.Passes (disk.start path) (steps path) ∧
      (∀ name ∈ steps path, isLongName name = false) ∧ endsInSlash path = false := by
  rw [filePlaceFrom] at h
  split at h
  · cases h
  · next around haround =>
      obtain ⟨rfl, hnode, hpasses, hnames⟩ := around_eq_ok hfree haround
      cases hlast : (names path).getLast? with
      | none =>
          have hnil : names path = [] := List.getLast?_eq_none_iff.1 hlast
          simp [hnil] at h
      | some name =>
          have hnameD : (names path).getLastD ['.'] = name := by
            rw [List.getLastD_eq_getLast?, hlast, Option.getD_some]
          simp only [hnameD] at h
          split at h
          · cases h
          · next hstep =>
              obtain ⟨hslash, hdot, hdots⟩ : endsInSlash path = false ∧ name ≠ ['.'] ∧
                  name ≠ ['.', '.'] := by simpa [not_or, and_assoc] using hstep
              split at h
              · cases h
              · next hshort =>
                  have hordinary : Path.IsOrdinary name :=
                    ordinary_of_mem_names (List.mem_of_getLast? hlast) hdot hdots
                  have hplace : disk.placeOf path =
                      Location.follow (disk.start path) (names path).dropLast ++ [name] :=
                    placeOf_of_getLast? hlast hordinary
                  have hsteps := steps_of_getLast? hslash hlast
                  have hreached : disk.Passes (disk.start path) (steps path) :=
                    hsteps ▸ hpasses.concat hnode
                  have hallShort : ∀ other ∈ steps path, isLongName other = false := by
                    intro other hmem
                    rw [hsteps] at hmem
                    rcases List.mem_append.1 hmem with hmem | hmem
                    · exact hnames other hmem
                    · exact List.mem_singleton.1 hmem ▸ Bool.eq_false_iff.2 hshort
                  rw [← hplace] at h
                  have hroom : disk.HasRoom path (disk.placeOf path) :=
                    ⟨_, name, hplace, hnode, List.mem_of_getLast? hlast, hordinary⟩
                  split at h
                  · next hvacant =>
                      cases h
                      exact ⟨rfl, hroom, by simp [hvacant], hreached, hallShort, hslash⟩
                  · next content hfile =>
                      cases h
                      exact ⟨rfl, hroom, by simp [hfile], hreached, hallShort, hslash⟩
                  · cases h
                  · next target hlink => exact absurd hlink (hfree.unlinked _ target)

theorem updated_put_file {place : Location} (hne : place ≠ [])
    (hnode : disk.get? place ≠ some .directory) (content : Bytes) :
    Updated disk (disk.put place (.file content)) [] [(place, content)] := by
  have hput := get?_put_of_ne_nil disk hne (.file content)
  refine ⟨rfl, fun other found hlast => ?_, fun other hlast => Or.inl ?_,
    fun other hdirectory => ?_⟩
  · rw [lastWritten?_singleton] at hlast
    rw [hput]
    split at hlast
    · next hsame =>
        cases hlast
        rw [if_pos hsame]
    · cases hlast
  · rw [lastWritten?_singleton] at hlast
    rw [hput]
    split at hlast
    · cases hlast
    · next hother => rw [if_neg hother]
  · rw [hput, if_neg]
    · exact hdirectory
    · rintro rfl
      exact hnode hdirectory

theorem filePlace_eq_ok (hfree : disk.LinkFree) {path : Text} {place : Location}
    (h : disk.filePlace path = .ok place) :
    place = disk.placeOf path ∧ disk.HasRoom path place ∧ disk.get? place ≠ some .directory ∧
      path ≠ [] ∧ isLongPath path = false ∧ disk.Passes (disk.start path) (steps path) ∧
      (∀ name ∈ steps path, isLongName name = false) ∧ endsInSlash path = false := by
  rw [filePlace] at h
  split at h
  · cases h
  · next hpath =>
      split at h
      · cases h
      · next hshort =>
          obtain ⟨hplace, hroom, hnode, hpasses, hnames, hslash⟩ := filePlaceFrom_eq_ok hfree h
          exact ⟨hplace, hroom, hnode, hpath, Bool.eq_false_iff.2 hshort, hpasses, hnames,
            hslash⟩

theorem encodeText_eq_ok {text : Text} {content : Bytes}
    (h : disk.encodeText text = .ok content) : content = Utf8.encode text := by
  rw [encodeText] at h
  dsimp only at h
  split at h <;> cases h
  rfl

/-- A text has bytes if none of its characters stands for a byte of a name. -/
theorem encodeText_of_lookup {text : Text} (h : ∀ c ∈ text, disk.strays.lookup c = none) :
    disk.encodeText text = .ok (Utf8.encode text) := by
  rw [encodeText]
  dsimp only
  rw [Unencodable.find?_eq_none.2 fun c hmem => Option.isNone_iff_eq_none.2 (h c hmem)]

theorem putFile_of_unshared {place : Location} (h : disk.locations place = [place])
    (content : Bytes) : disk.putFile place content = disk.put place (.file content) := by
  rw [putFile, h]
  rfl

theorem put_put (disk : Disk) (place : Location) (node other : Node) :
    (disk.put place node).put place other = disk.put place other := by
  rw [put, put, put, Dict.put_put]

/-- A file can be opened that has one name, and where it is. -/
theorem openFile_eq_ok (hfree : disk.LinkFree) {path : Text} {place : Location} {opened : Disk}
    (h : disk.openFile path = (.ok place, opened)) :
    hasNull path = false ∧ disk.filePlace path = .ok place ∧ place = disk.placeOf path ∧
      ∀ content, opened.putFile place content = disk.put place (.file content) := by
  rw [openFile] at h
  split at h
  · cases h
  · next hnull =>
      split at h
      · next found hplace =>
          cases h
          refine ⟨Bool.eq_false_iff.2 hnull, hplace, (filePlace_eq_ok hfree hplace).1,
            fun content => ?_⟩
          have hopened : (disk.put place (.file [])).locations place = [place] :=
            hfree.unshared place
          rw [putFile_of_unshared (hfree.unshared place), putFile_of_unshared hopened, put_put]
      · cases h

theorem openFile_eq_error {path : Text} {fault : Fault} {after : Disk}
    (h : disk.openFile path = (.error fault, after)) : after = disk := by
  rw [openFile] at h
  split at h
  · cases h
    rfl
  · split at h
    · cases h
    · cases h
      rfl

theorem fillFile_eq_ok {place : Location} {content : Bytes} {after : Disk}
    (h : disk.fillFile place content = (.ok (), after)) :
    disk.stops disk.entries place content = none ∧ after = disk.putFile place content := by
  rw [fillFile] at h
  split at h
  · next hnone =>
      cases h
      exact ⟨hnone, rfl⟩
  · cases h

theorem fillFile_cases (disk : Disk) (place : Location) (content : Bytes) :
    ∃ part, part <+: content ∧ (disk.fillFile place content).2 = disk.putFile place part := by
  rw [fillFile]
  split
  · exact ⟨content, List.prefix_rfl, rfl⟩
  · next size _ _ => exact ⟨_, List.take_prefix size content, rfl⟩

/-- A file that was written is at the place of its path. -/
theorem writeFile_eq_ok (hfree : disk.LinkFree) {path : Text} {content : Bytes} {after : Disk}
    (h : disk.writeFile path content = (.ok (), after)) :
    disk.Reaches path ∧ endsInSlash path = false ∧
      after = disk.put (disk.placeOf path) (.file content) ∧
      Updated disk after [] [(disk.placeOf path, content)] := by
  rw [writeFile] at h
  split at h
  · next place opened hopen =>
      obtain ⟨hnull, hplace, rfl, hput⟩ := openFile_eq_ok hfree hopen
      obtain ⟨_, hroom, hnode, hpath, hshort, hpasses, hnames, hslash⟩ :=
        filePlace_eq_ok hfree hplace
      obtain ⟨_, rfl⟩ := fillFile_eq_ok h
      rw [hput]
      exact ⟨⟨hnull, hpath, hshort, hnames, hpasses⟩, hslash, rfl,
        updated_put_file hroom.ne_nil hnode content⟩
  · cases h

/-- Text was written if it has bytes and these were. -/
theorem writeText_eq_ok {path text : Text} {after : Disk} :
    disk.writeText path text = (.ok (), after) ↔
      disk.encodeText text = .ok (Utf8.encode text) ∧
        disk.writeFile path (Utf8.encode text) = (.ok (), after) := by
  rw [writeText]
  split
  · next content hcontent =>
      obtain rfl := encodeText_eq_ok hcontent
      rw [and_iff_right hcontent]
  · next fault hfault =>
      rw [hfault]
      split <;> simp

theorem writeText_of_strays (h : disk.strays = []) (path text : Text) :
    disk.writeText path text = disk.writeFile path (Utf8.encode text) := by
  rw [writeText, encodeText_of_lookup fun c _ => by rw [h]; rfl]

/-- Whether it is written or not, no more of a text than a beginning of it comes to be in
its file, and nothing else is changed. -/
theorem writeText_cases (hfree : disk.LinkFree) (path text : Text) :
    (disk.writeText path text).2 = disk ∨ ∃ part, part <+: Utf8.encode text ∧
      hasNull path = false ∧ disk.filePlace path = .ok (disk.placeOf path) ∧
      (disk.writeText path text).2 = disk.put (disk.placeOf path) (.file part) := by
  rw [writeText]
  split
  · next content hcontent =>
      obtain rfl := encodeText_eq_ok hcontent
      rw [writeFile]
      split
      · next place opened hopen =>
          obtain ⟨hnull, hplace, rfl, hput⟩ := openFile_eq_ok hfree hopen
          obtain ⟨part, hpart, hfill⟩ :=
            fillFile_cases opened (disk.placeOf path) (Utf8.encode text)
          exact Or.inr ⟨part, hpart, hnull, hplace, hfill.trans (hput part)⟩
      · next hopen => exact Or.inl (openFile_eq_error hopen)
  · split
    · next place opened hopen =>
        obtain ⟨hnull, hplace, rfl, hput⟩ := openFile_eq_ok hfree hopen
        have hopened : opened = disk.putFile (disk.placeOf path) [] := by
          rw [openFile, hnull, hplace] at hopen
          exact (congrArg Prod.snd hopen).symm
        refine Or.inr ⟨[], List.nil_prefix, hnull, hplace, hopened.trans ?_⟩
        exact putFile_of_unshared (hfree.unshared _) []
    · next hopen => exact Or.inl (openFile_eq_error hopen)

theorem updated_writeText (hfree : disk.LinkFree) (path text : Text) :
    ∃ files, (∀ file ∈ files, file.1 = disk.placeOf path ∧ file.2 <+: Utf8.encode text) ∧
      Updated disk (disk.writeText path text).2 [] files := by
  rcases writeText_cases hfree path text with hsame | ⟨part, hpart, _, hplace, hput⟩
  · rw [hsame]
    exact ⟨[], fun _ hnil => (by cases hnil), .refl disk []⟩
  · obtain ⟨_, hroom, hnode, _⟩ := filePlace_eq_ok hfree hplace
    rw [hput]
    refine ⟨[(disk.placeOf path, part)], fun file hmem => ?_,
      updated_put_file hroom.ne_nil hnode part⟩
    rw [List.mem_singleton.1 hmem]
    exact ⟨rfl, hpart⟩

/-! ## A file and the directories above it -/

theorem placesAlong_directoryOf (disk : Disk) {path : Text} (hname : Path.name path ≠ []) :
    disk.placesAlong (Path.directoryOf path) ⊆ disk.placesAbove path := by
  intro place hmem
  rw [Path.directoryOf] at hmem
  split at hmem
  · next hparent =>
      -- the current directory is written out, and making it only looks at the start
      have hstart : disk.start path = disk.cwd := by
        rw [start, Path.isAbsolute_of_parent_eq_nil hparent]
        rfl
      have hplace : place = disk.cwd := by
        obtain ⟨before, hbefore, rfl⟩ := List.mem_map.1 hmem
        have hcases : before = [] ∨ before = [['.']] := by
          have hnames : (names ['.']).inits = [[], [['.']]] := by decide
          simpa [hnames] using hbefore
        rcases hcases with rfl | rfl <;> rfl
      rw [hplace, ← hstart]
      exact List.mem_map.2 ⟨[], (List.mem_inits _ _).2 (List.nil_prefix), rfl⟩
  · next hparent =>
      have hstart : disk.start (Path.parent path) = disk.start path := by
        rw [start, start, Path.isAbsolute_parent hparent]
      rwa [placesAlong, hstart, Path.names_parent hname] at hmem

theorem encodeText_of_write (hfree : disk.LinkFree) {path text : Text}
    {outcome : Except Fault Unit} {above after : Disk}
    (hdirs : disk.makeDirs (Path.directoryOf path) = (outcome, above))
    (hfile : above.writeText path text = (.ok (), after)) :
    disk.encodeText text = .ok (Utf8.encode text) := by
  have habove := updated_makeDirs hfree (Path.directoryOf path)
  rw [hdirs] at habove
  rw [← habove.encodeText_eq]
  exact (writeText_eq_ok.1 hfile).1

theorem updated_write (hfree : disk.LinkFree) {path text : Text}
    {outcome : Except Fault Unit} {above after : Disk}
    (hdirs : disk.makeDirs (Path.directoryOf path) = (outcome, above))
    (hfile : above.writeText path text = (.ok (), after)) :
    after.Reaches path ∧ Updated disk after (disk.placesAbove path)
      [(disk.placeOf path, Utf8.encode text)] := by
  have habove := updated_makeDirs hfree (Path.directoryOf path)
  rw [hdirs] at habove
  obtain ⟨hreaches, hslash, _, hwritten⟩ :=
    writeFile_eq_ok (habove.linkFree hfree) (writeText_eq_ok.1 hfile).2
  have hname := Path.name_ne_nil hreaches.ne_nil hslash
  rw [habove.placeOf_eq] at hwritten
  exact ⟨hreaches.mono hwritten.cwd_eq hwritten.kept,
    (habove.mono (placesAlong_directoryOf disk hname)).trans (hwritten.mono (List.nil_subset _))⟩

end Marginalia.Disk
