/-!
# Dictionaries in order of insertion

A dictionary is a list of pairs in which each key occurs once. Setting a key
that is there keeps its place and replaces its value; a new key goes to the end.
-/

namespace Marginalia.Dict

/-- Sets the value of a key. -/
def put [DecidableEq κ] (key : κ) (value : α) : List (κ × α) → List (κ × α)
  | [] => [(key, value)]
  | (k, old) :: entries =>
    if k = key then (k, value) :: entries else (k, old) :: put key value entries

/-- The value of a key. -/
def get? [DecidableEq κ] (key : κ) : List (κ × α) → Option α
  | [] => none
  | (k, value) :: entries => if k = key then some value else get? key entries

@[simp] theorem get?_put [DecidableEq κ] (key other : κ) (value : α) (entries : List (κ × α)) :
    get? other (put key value entries) =
      if key = other then some value else get? other entries := by
  induction entries with
  | nil => rfl
  | cons entry entries ih =>
    obtain ⟨k, old⟩ := entry
    by_cases hk : k = key
    · subst hk
      by_cases ho : k = other <;> simp [put, get?, ho]
    · by_cases ho : k = other
      · subst ho
        simp [put, get?, hk, Ne.symm hk]
      · simp [put, get?, hk, ho, ih]

/-- What a dictionary has for a key is one of its entries. -/
theorem mem_of_get? [DecidableEq κ] {key : κ} {value : α} {entries : List (κ × α)}
    (h : get? key entries = some value) : (key, value) ∈ entries := by
  induction entries with
  | nil => simp [get?] at h
  | cons entry entries ih =>
    obtain ⟨k, old⟩ := entry
    simp only [get?] at h
    split at h <;> simp_all

/-- Where no key occurs twice, each entry is what the dictionary has for its key. -/
theorem get?_of_mem [DecidableEq κ] {key : κ} {value : α} {entries : List (κ × α)}
    (hkeys : (entries.map Prod.fst).Nodup) (h : (key, value) ∈ entries) :
    get? key entries = some value := by
  induction entries with
  | nil => cases h
  | cons entry entries ih =>
    obtain ⟨hfirst, hrest⟩ := List.nodup_cons.1 hkeys
    rcases List.mem_cons.1 h with rfl | hmem
    · exact if_pos rfl
    · have hother : entry.1 ≠ key := fun heq =>
        hfirst (List.mem_map.2 ⟨(key, value), hmem, heq.symm⟩)
      rw [get?, if_neg hother, ih hrest hmem]

/-- Setting a key adds no value but the one it is set to. -/
theorem put_put [DecidableEq κ] (key : κ) (value other : α) (entries : List (κ × α)) :
    put key other (put key value entries) = put key other entries := by
  induction entries with
  | nil => simp [put]
  | cons entry entries ih =>
    by_cases hk : entry.1 = key
    · simp [put, hk]
    · simp [put, hk, ih]

theorem mem_of_mem_put [DecidableEq κ] {key : κ} {value : α} {entries : List (κ × α)}
    {entry : κ × α} (h : entry ∈ put key value entries) :
    entry ∈ entries ∨ entry = (key, value) := by
  induction entries with
  | nil => exact Or.inr (List.mem_singleton.1 h)
  | cons first entries ih =>
    rw [put] at h
    split at h
    · next hkey =>
      rcases List.mem_cons.1 h with hfirst | hmem
      · exact Or.inr (hkey ▸ hfirst)
      · exact Or.inl (List.mem_cons_of_mem _ hmem)
    · rcases List.mem_cons.1 h with hfirst | hmem
      · exact Or.inl (hfirst ▸ List.mem_cons_self ..)
      · exact (ih hmem).imp (List.mem_cons_of_mem _) id

/-- A key has a value if it occurs. -/
theorem isSome_get? [DecidableEq κ] {key : κ} {entries : List (κ × α)} :
    (get? key entries).isSome ↔ key ∈ entries.map Prod.fst := by
  induction entries with
  | nil => simp [get?]
  | cons entry entries ih =>
    obtain ⟨k, old⟩ := entry
    by_cases hk : k = key
    · simp [get?, hk]
    · simp only [get?, if_neg hk, ih, List.map_cons, List.mem_cons, Ne.symm hk, false_or]

/-- Setting a key leaves the others where they are. -/
theorem keys_put [DecidableEq κ] (key : κ) (value : α) (entries : List (κ × α)) :
    (put key value entries).map Prod.fst =
      if key ∈ entries.map Prod.fst then entries.map Prod.fst
      else entries.map Prod.fst ++ [key] := by
  induction entries with
  | nil => rfl
  | cons entry entries ih =>
    obtain ⟨k, old⟩ := entry
    by_cases hk : k = key
    · simp [put, hk]
    · rw [put, if_neg hk, List.map_cons, ih, List.map_cons]
      simp only [List.mem_cons, Ne.symm hk, false_or]
      split <;> rfl

end Marginalia.Dict
