import Marginalia.Language.Registry
import Mathlib.Data.List.Induction

/-!
# Registered languages come from the table

Whatever a registry answers, it is the language of one of the rows that it was
built from, with the classes that it was built with. For the standard table
this leaves three comment symbols, and what has to hold of every registered
language can be checked on these three.
-/

namespace Marginalia

namespace Registry

/-- The language of a row of a table. -/
def ofRow (classes : List Text) (row : Text × Text × Text) : Language :=
  { extension := row.1, name := row.2.1, symbol := row.2.2, classes }

/-- The key that a row is found by. -/
def rowKey (row : Text × Text × Text) : Text :=
  Text.lower row.1

theorem ofTable_concat (table : List (Text × Text × Text)) (row : Text × Text × Text)
    (classes : List Text) :
    ofTable (table ++ [row]) classes = (ofTable table classes).insert (ofRow classes row) := by
  rw [ofTable, List.foldl_append]
  rfl

/-- What a registry holds was put there for a row of the table. -/
theorem exists_row_of_mem_entries {table : List (Text × Text × Text)} {classes : List Text}
    {entry : Text × Language} (h : entry ∈ (ofTable table classes).entries) :
    ∃ row ∈ table, entry = (rowKey row, ofRow classes row) := by
  induction table using List.reverseRecOn with
  | nil => cases h
  | append_singleton table row ih =>
      rw [ofTable_concat] at h
      rcases Dict.mem_of_mem_put h with hold | hnew
      · obtain ⟨other, hother, heq⟩ := ih hold
        exact ⟨other, List.mem_append_left _ hother, heq⟩
      · exact ⟨row, List.mem_append_right _ (List.mem_singleton_self row), hnew⟩

/-- A language of a registry has a row of the table. -/
theorem exists_row_of_mem_ofTable {table : List (Text × Text × Text)} {classes : List Text}
    {language : Language} (h : language ∈ (ofTable table classes).languages) :
    ∃ row ∈ table, language = ofRow classes row := by
  obtain ⟨entry, hentry, rfl⟩ := List.mem_map.1 h
  obtain ⟨row, hrow, rfl⟩ := exists_row_of_mem_entries hentry
  exact ⟨row, hrow, rfl⟩

/-- An extension that is found is that of a row, up to capitals. -/
theorem exists_row_of_lookup {table : List (Text × Text × Text)} {classes : List Text}
    {extension : Text} {language : Language}
    (h : (ofTable table classes).lookup extension = some language) :
    ∃ row ∈ table, Text.lower extension = rowKey row := by
  obtain ⟨row, hrow, heq⟩ := exists_row_of_mem_entries (Dict.mem_of_get? h)
  exact ⟨row, hrow, (Prod.mk.inj heq).1⟩

/-- A language of the standard table has the extension by which it is found, in lower case. -/
theorem lower_eq_of_lookup_standard {classes : List Text} {extension : Text} {language : Language}
    (h : (standard classes).lookup extension = some language) :
    Text.lower extension = language.extension := by
  obtain ⟨row, hrow, heq⟩ := exists_row_of_mem_entries (Dict.mem_of_get? h)
  obtain ⟨hlower, rfl⟩ := Prod.mk.inj heq
  have hall : standardTable.all (fun row => Text.lower row.1 == row.1) = true := by
    decide +kernel
  exact hlower.trans (beq_iff_eq.1 (List.all_eq_true.1 hall row hrow))

/-- The comment symbols of the standard table. -/
def standardSymbols : List Text := ["#", "//", "--"].map String.toList

theorem mem_languages_standard {classes : List Text} {language : Language}
    (h : language ∈ (standard classes).languages) :
    language.classes = classes ∧ language.symbol ∈ standardSymbols := by
  obtain ⟨row, hrow, rfl⟩ := exists_row_of_mem_ofTable h
  have hall : standardTable.all (fun row => standardSymbols.contains row.2.2) = true := by decide
  have hsymbol := List.all_eq_true.1 hall row hrow
  exact ⟨rfl, List.contains_iff_mem.1 hsymbol⟩

/-- The first row of the standard table is found by its extension. -/
theorem forPath_standard_of_py {source : Text} (h : Path.extension source = ".py".toList) :
    standard.forPath source =
      some { extension := ".py".toList, name := "python".toList, symbol := "#".toList } := by
  rw [forPath, h]
  decide +kernel

/-- Output files have no extension of the standard table, and neither have files without one. -/
theorem lookup_standard_eq_none (classes : List Text) {extension : Text}
    (h : extension = [] ∨ extension = ".html".toList ∨ extension = ".css".toList) :
    (standard classes).lookup extension = none := by
  cases hfound : (standard classes).lookup extension with
  | none => rfl
  | some language =>
      obtain ⟨row, hrow, hlower⟩ := exists_row_of_lookup hfound
      have hall : standardTable.all (fun row => Text.lower row.1 != Text.lower [] &&
          Text.lower row.1 != Text.lower ".html".toList &&
          Text.lower row.1 != Text.lower ".css".toList) = true := by decide +kernel
      have hdiffer := List.all_eq_true.1 hall row hrow
      simp only [Bool.and_eq_true, bne_iff_ne] at hdiffer
      rcases h with rfl | rfl | rfl
      · exact absurd hlower.symm hdiffer.1.1
      · exact absurd hlower.symm hdiffer.1.2
      · exact absurd hlower.symm hdiffer.2

end Registry
end Marginalia
