import Marginalia.Proofs.PathNames
import Marginalia.Proofs.RegistryRows
import Mathlib.Data.List.Nodup

/-!
# What a registry answers

A registry is the fold of a table, and all of it is told by what one more row does: the
value under the row's key becomes the language of the row, and the key goes to the end if
it is new and keeps its place if it is not. So the last row of a key decides on its
language, and the first one on its place.

The keys are extensions in lower case, and a lookup lowers what it is asked for. That a
key is found under itself is therefore a fact about lower case: it changes nothing in a
text that is in lower case already. The small letter of a capital is in none of the runs
of capitals. For most pairs of runs that is seen from their ends; where the small letters
of one lie between the capitals of another, both take every second character and the
letters fall into the gaps.
-/

namespace Marginalia

/-! ## Lower case -/

namespace CapitalRun

/-- The number of the small letter of the capital with number `n`. -/
def small (run : CapitalRun) (n : Nat) : Nat :=
  (n + run.shift).toNat

/-- The small letters of a run lie before or behind the capitals of another one, or in the
gaps between these. -/
def isApart (run other : CapitalRun) : Bool :=
  (run.small run.last).blt other.first || other.last.blt (run.small run.first) ||
    (other.step.beq 2 && (run.step.beq 2 || run.first.beq run.last) &&
      ((run.small run.first + other.first) % 2).beq 1)

/-- The small letters of a run are characters, and the dotted capital I is none of them. -/
def isProper (run : CapitalRun) : Bool :=
  decide (0 ≤ run.first + run.shift) &&
    ((run.small run.last).blt 0xD800 ||
      Nat.blt 0xDFFF (run.small run.first) && (run.small run.last).blt 0x110000) &&
    ((run.small run.last).blt 0x130 || Nat.blt 0x130 (run.small run.first))

theorem isApart_of_mem : ∀ run ∈ capitalRuns, ∀ other ∈ capitalRuns, run.isApart other = true := by
  have hall : (capitalRuns.all fun run => capitalRuns.all fun other => run.isApart other) = true := by
    decide +kernel
  simpa only [List.all_eq_true] using hall

theorem isProper_of_mem : ∀ run ∈ capitalRuns, run.isProper = true := by
  have hall : capitalRuns.all isProper = true := by decide +kernel
  simpa only [List.all_eq_true] using hall

theorem holds_iff {run : CapitalRun} {n : Nat} :
    run.holds n = true ↔ run.first ≤ n ∧ n ≤ run.last ∧ (n - run.first) % run.step = 0 := by
  simp [holds, and_assoc]

variable {run other : CapitalRun} {n : Nat}

theorem bounds_of_mem (hrun : run ∈ capitalRuns) (h : run.holds n = true) :
    (run.small n).isValidChar ∧ run.small n ≠ 0x130 := by
  have hproper := isProper_of_mem run hrun
  obtain ⟨hfirst, hlast, _⟩ := holds_iff.1 h
  simp only [isProper, small, Bool.and_eq_true, Bool.or_eq_true, decide_eq_true_eq,
    Nat.blt_eq] at hproper
  rw [small, Nat.isValidChar]
  omega

theorem not_holds_small (hrun : run ∈ capitalRuns) (hother : other ∈ capitalRuns)
    (h : run.holds n = true) : other.holds (run.small n) = false := by
  have hproper := isProper_of_mem run hrun
  have hapart := isApart_of_mem run hrun other hother
  obtain ⟨hfirst, hlast, hstep⟩ := holds_iff.1 h
  simp only [isProper, small, Bool.and_eq_true, decide_eq_true_eq] at hproper
  simp only [isApart, small, Bool.and_eq_true, Bool.or_eq_true, Nat.blt_eq, Nat.beq_eq] at hapart
  rw [Bool.eq_false_iff]
  intro hheld
  obtain ⟨hfirst', hlast', hstep'⟩ := holds_iff.1 hheld
  rw [small] at hfirst' hlast' hstep'
  rcases hapart with (hbefore | hbehind) | ⟨⟨htwo, hsame⟩, hodd⟩
  · omega
  · omega
  · rw [htwo] at hstep'
    rcases hsame with hstep2 | hone
    · rw [hstep2] at hstep
      omega
    · omega

end CapitalRun

namespace Text

/-- A character that lower case leaves as it is. -/
def IsSmall (c : Char) : Prop :=
  c ≠ 'İ' ∧ ∀ run ∈ capitalRuns, run.holds c.toNat = false

instance decidableIsSmall (c : Char) : Decidable (IsSmall c) :=
  inferInstanceAs (Decidable (_ ∧ _))

theorem IsSmall.lowerChar_eq {c : Char} (h : IsSmall c) : lowerChar c = c := by
  have hnone : (capitalRuns.find? fun run => run.holds c.toNat) = none :=
    List.find?_eq_none.2 fun run hrun => by simp [h.2 run hrun]
  rw [lowerChar, hnone]

theorem IsSmall.ne_sigma {c : Char} (h : IsSmall c) : c ≠ 'Σ' := by
  rintro rfl
  exact absurd h (by decide)

theorem isSmall_lowerChar {c : Char} (hc : c ≠ 'İ') : IsSmall (lowerChar c) := by
  rw [lowerChar]
  split
  · next run hfound =>
      have hrun := List.mem_of_find?_eq_some hfound
      have hholds := List.find?_some hfound
      obtain ⟨hvalid, hdotted⟩ := CapitalRun.bounds_of_mem hrun hholds
      have hnumber : (Char.ofNat (run.small c.toNat)).toNat = run.small c.toNat := by
        rw [Char.ofNat, dif_pos hvalid]
        rfl
      rw [← CapitalRun.small]
      refine ⟨fun heq => hdotted ?_, fun other hother => ?_⟩
      · rw [← hnumber, heq]
        rfl
      · rw [hnumber]
        exact CapitalRun.not_holds_small hrun hother hholds
  · next hnone =>
      exact ⟨hc, fun run hrun => by simpa using List.find?_eq_none.1 hnone run hrun⟩

/-- What a capital sigma and a dotted capital I become. -/
theorem isSmall_of_mem : ∀ c ∈ ['ς', 'σ', 'i', '\u0307'], IsSmall c := by
  have hall : ['ς', 'σ', 'i', '\u0307'].all (fun c => decide (IsSmall c)) = true := by
    decide +kernel
  simpa only [List.all_eq_true, decide_eq_true_eq] using hall

theorem isSmall_of_mem_lowerAfter {before text : Text} {c : Char}
    (h : c ∈ lowerAfter before text) : IsSmall c := by
  induction text generalizing before with
  | nil => cases h
  | cons d text ih =>
      rw [lowerAfter] at h
      rcases List.mem_append.1 h with hsmall | hrest
      · split at hsmall
        · refine isSmall_of_mem c ?_
          split at hsmall <;> simp [List.mem_singleton.1 hsmall]
        · split at hsmall
          · exact isSmall_of_mem c (List.mem_append_right ['ς', 'σ'] hsmall)
          · next hdotted =>
              rw [List.mem_singleton.1 hsmall]
              exact isSmall_lowerChar hdotted
      · exact ih hrest

theorem lowerAfter_eq_self {before text : Text} (h : ∀ c ∈ text, IsSmall c) :
    lowerAfter before text = text := by
  induction text generalizing before with
  | nil => rfl
  | cons c text ih =>
      obtain ⟨hc, htext⟩ := List.forall_mem_cons.1 h
      rw [lowerAfter, if_neg hc.ne_sigma, if_neg hc.1, hc.lowerChar_eq, ih htext]
      rfl

/-- A text in lower case stays as it is. -/
theorem lower_lower (text : Text) : lower (lower text) = lower text :=
  lowerAfter_eq_self fun _ => isSmall_of_mem_lowerAfter

end Text

/-! ## The extension of a file -/

namespace Path

/-- What a file name has from its last dot on, if there are not only dots in front of it. -/
def IsExtension (name ending : Text) : Prop :=
  ∃ stem after, name = stem ++ '.' :: after ∧ ending = '.' :: after ∧ '.' ∉ after ∧
    ∃ c ∈ stem, c ≠ '.'

theorem splitName_of_isExtension {name ending : Text} (h : IsExtension name ending) :
    (splitName name).2 = ending := by
  obtain ⟨stem, after, rfl, rfl, hafter, c, hmem, hc⟩ := h
  have hdots : ¬ stem.all (· == '.') = true := fun hall =>
    hc (beq_iff_eq.1 (List.all_eq_true.1 hall c hmem))
  rw [splitName_append_cons hafter, if_neg hdots]

theorem splitName_of_not_isExtension {name : Text} (h : ∀ ending, ¬ IsExtension name ending) :
    (splitName name).2 = [] := by
  by_cases hdot : '.' ∈ name.reverse
  · obtain ⟨behind, front, heq, hbehind⟩ := List.eq_append_cons_of_mem hdot
    have hname : name = front.reverse ++ '.' :: behind.reverse := by
      rw [← List.reverse_reverse name, heq]
      simp
    have hafter : '.' ∉ behind.reverse := by simpa using hbehind
    have hdots : front.reverse.all (· == '.') = true := by
      refine List.all_eq_true.2 fun c hmem => beq_iff_eq.2 (by_contra fun hc => ?_)
      exact h _ ⟨front.reverse, behind.reverse, hname, rfl, hafter, c, hmem, hc⟩
    rw [hname, splitName_append_cons hafter, if_pos hdots]
  · have hall : ∀ c ∈ name.reverse, (c != '.') = true := fun c hmem =>
      bne_iff_ne.2 fun hc => hdot (hc ▸ hmem)
    rw [splitName, List.dropWhile_eq_nil_iff.2 hall]

/-- The last component of a path is what follows its directory part. -/
theorem name_append {directory component : Text} (hslash : '/' ∉ component)
    (hdirectory : directory = [] ∨ directory.getLast? = some '/') :
    name (directory ++ component) = component := by
  rcases hdirectory with rfl | hlast
  · exact name_of_not_mem hslash
  · obtain ⟨front, rfl⟩ := List.getLast?_eq_some_iff.1 hlast
    rw [List.append_assoc, List.singleton_append, name_append_cons front hslash]

end Path

namespace Registry

variable {table : List (Text × Text × Text)} {classes : List Text}

/-! ## One row more -/

theorem lookup_insert (registry : Registry) (language : Language) (extension : Text) :
    (registry.insert language).lookup extension =
      if Text.lower language.extension = Text.lower extension then some language
      else registry.lookup extension :=
  Dict.get?_put ..

/-- The extensions of a registry in lower case, in order. -/
def keys (registry : Registry) : List Text :=
  registry.entries.map Prod.fst

theorem keys_insert_of_mem {registry : Registry} {language : Language}
    (h : Text.lower language.extension ∈ registry.keys) :
    (registry.insert language).keys = registry.keys := by
  rw [keys, insert, Dict.keys_put]
  exact if_pos h

theorem keys_insert_of_not_mem {registry : Registry} {language : Language}
    (h : Text.lower language.extension ∉ registry.keys) :
    (registry.insert language).keys = registry.keys ++ [Text.lower language.extension] := by
  rw [keys, insert, Dict.keys_put]
  exact if_neg h

/-! ## All rows -/

/-- The last row of a key decides. -/
theorem lookup_ofTable (table : List (Text × Text × Text)) (classes : List Text)
    (extension : Text) :
    (ofTable table classes).lookup extension =
      (table.filter fun row => rowKey row = Text.lower extension).getLast?.map (ofRow classes) := by
  induction table using List.reverseRecOn with
  | nil => rfl
  | append_singleton table row ih =>
      rw [ofTable_concat, lookup_insert, ih, List.filter_append, List.getLast?_append]
      by_cases hkey : rowKey row = Text.lower extension
      · rw [List.filter_cons_of_pos (by simpa using hkey), List.filter_nil,
          List.getLast?_singleton, Option.some_or, Option.map_some]
        exact if_pos hkey
      · rw [List.filter_cons_of_neg (by simpa using hkey), List.filter_nil, List.getLast?_nil,
          Option.none_or]
        exact if_neg hkey

/-- The first row of a key decides on its place. -/
theorem keys_ofTable (table : List (Text × Text × Text)) (classes : List Text) :
    (ofTable table classes).keys = (table.map rowKey).eraseDups := by
  induction table using List.reverseRecOn with
  | nil => rfl
  | append_singleton table row ih =>
      rw [ofTable_concat, List.map_append, List.eraseDups_append, ← ih]
      by_cases hkey : rowKey row ∈ (ofTable table classes).keys
      · have hrow : rowKey row ∈ table.map rowKey := List.mem_eraseDups.1 (ih ▸ hkey)
        have hnone : ([row].map rowKey).removeAll (table.map rowKey) = [] := by
          simp [List.removeAll, hrow]
        rw [keys_insert_of_mem hkey, hnone, List.eraseDups_nil, List.append_nil]
      · have hrow : rowKey row ∉ table.map rowKey := fun hmem =>
          hkey (ih ▸ List.mem_eraseDups.2 hmem)
        have hone : ([row].map rowKey).removeAll (table.map rowKey) = [rowKey row] := by
          simp [List.removeAll, hrow]
        rw [keys_insert_of_not_mem hkey, hone]
        rfl

theorem nodup_keys_ofTable (table : List (Text × Text × Text)) (classes : List Text) :
    (ofTable table classes).keys.Nodup := by
  induction table using List.reverseRecOn with
  | nil => exact List.nodup_nil
  | append_singleton table row ih =>
      rw [ofTable_concat]
      by_cases hkey : rowKey row ∈ (ofTable table classes).keys
      · rwa [keys_insert_of_mem hkey]
      · rw [keys_insert_of_not_mem hkey]
        exact List.concat_eq_append ▸ ih.concat hkey

/-- Each key is found under itself. -/
theorem map_some_languages (table : List (Text × Text × Text)) (classes : List Text) :
    (ofTable table classes).languages.map some =
      (ofTable table classes).keys.map (ofTable table classes).lookup := by
  rw [languages, keys, List.map_map, List.map_map]
  refine List.map_congr_left fun entry hentry => ?_
  have hkey : entry.1 ∈ (ofTable table classes).keys := List.mem_map_of_mem hentry
  have hlower : Text.lower entry.1 = entry.1 := by
    rw [keys_ofTable, List.mem_eraseDups] at hkey
    obtain ⟨row, _, heq⟩ := List.mem_map.1 hkey
    rw [← heq, rowKey, Text.lower_lower]
  rw [Function.comp_apply, Function.comp_apply, lookup, hlower,
    Dict.get?_of_mem (nodup_keys_ofTable table classes) hentry]

theorem contains_ofTable (table : List (Text × Text × Text)) (classes : List Text)
    (extension : Text) :
    (ofTable table classes).contains extension = true ↔
      ∃ row ∈ table, rowKey row = Text.lower extension := by
  rw [contains, lookup_ofTable, Option.isSome_map, List.getLast?_filter, List.find?_isSome]
  simp only [List.mem_reverse, decide_eq_true_eq]

theorem forPath_append (registry : Registry) {directory component : Text}
    (hslash : '/' ∉ component) (hdirectory : directory = [] ∨ directory.getLast? = some '/') :
    registry.forPath (directory ++ component) =
      registry.lookup (Path.splitName component).2 := by
  rw [forPath, Path.extension, Path.name_append hslash hdirectory]

/-- A registry answers with the last row of an extension in any case, lists one language for each
extension in the order of the first rows, and takes from a path what follows the last dot of its
last component, unless that has nothing but dots in front. -/
theorem ofTable_answers (table : List (Text × Text × Text)) (classes : List Text) :
    let registry := ofTable table classes
    (∀ extension, registry.lookup extension =
      (table.filter fun row => rowKey row = Text.lower extension).getLast?.map (ofRow classes)) ∧
    (∀ extension, (registry.contains extension = true ↔ registry.lookup extension ≠ none) ∧
      (registry.contains extension = true ↔ ∃ row ∈ table, rowKey row = Text.lower extension)) ∧
    registry.languages.map some = (table.map rowKey).eraseDups.map registry.lookup ∧
    ∀ directory component, '/' ∉ component → directory = [] ∨ directory.getLast? = some '/' →
      (∀ ending, Path.IsExtension component ending →
        registry.forPath (directory ++ component) = registry.lookup ending) ∧
      ((∀ ending, ¬ Path.IsExtension component ending) →
        registry.forPath (directory ++ component) = registry.lookup []) := by
  intro registry
  refine ⟨lookup_ofTable table classes, fun extension => ⟨?_, contains_ofTable table classes _⟩,
    ?_, fun directory component hslash hdirectory => ?_⟩
  · rw [contains, Option.isSome_iff_ne_none]
  · rw [← keys_ofTable table classes]
    exact map_some_languages table classes
  · rw [forPath_append registry hslash hdirectory]
    refine ⟨fun ending hending => ?_, fun hnone => ?_⟩
    · rw [Path.splitName_of_isExtension hending]
    · rw [Path.splitName_of_not_isExtension hnone]

/-- A repeated extension under two spellings, and a hidden file with a second dot. -/
theorem ofTable_answers_repeated :
    let table := [(".PY", "a", "#"), (".x", "b", "//"), (".Py", "c", ";")].map
      fun (extension, name, symbol) => (extension.toList, name.toList, symbol.toList)
    let registry := ofTable table standardClasses
    registry.lookup ".pY".toList = table[2]?.map (ofRow standardClasses) ∧
      registry.languages.map some = [registry.lookup ".py".toList, registry.lookup ".x".toList] ∧
      registry.forPath "a.x/..b.PY".toList = registry.lookup ".PY".toList ∧
      registry.forPath "a.x/..py".toList = registry.lookup [] := by
  intro table registry
  obtain ⟨hlookup, _, hlanguages, hpath⟩ := ofTable_answers table standardClasses
  refine ⟨(hlookup _).trans (by decide +kernel), hlanguages.trans ?_, ?_, ?_⟩
  · have hkeys : (table.map rowKey).eraseDups = [".py".toList, ".x".toList] := by decide +kernel
    rw [hkeys]
    rfl
  · exact (hpath "a.x/".toList "..b.PY".toList (by decide) (by decide)).1 ".PY".toList
      ⟨"..b".toList, "PY".toList, rfl, rfl, by decide, 'b', by decide, by decide⟩
  · refine (hpath "a.x/".toList "..py".toList (by decide) (by decide)).2 ?_
    intro ending hending
    have hnil : ending = [] := (Path.splitName_of_isExtension hending).symm.trans (by decide)
    obtain ⟨_, _, _, hdot, _⟩ := hending
    rw [hnil] at hdot
    cases hdot

end Registry
end Marginalia
