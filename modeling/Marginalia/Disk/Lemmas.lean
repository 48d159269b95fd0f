import Marginalia.Disk.Basic

/-!
# Directories of a disk

A path that leads to a directory leads to one of the finitely many directories
of the disk.
-/

namespace Marginalia

namespace Disk

theorem hasNull_eq_false {path : Text} : hasNull path = false ↔ '\x00' ∉ path := by
  rw [hasNull, ← Bool.not_eq_true, List.contains_iff_mem]

theorem mem_directories_of_get? {disk : Disk} {place : Location}
    (h : disk.get? place = some .directory) : place ∈ disk.directories := by
  cases place with
  | nil => simp [directories]
  | cons name names =>
    have hmem := Dict.mem_of_get? h
    simp only [directories, List.mem_cons, reduceCtorEq, false_or, List.mem_filterMap]
    exact ⟨_, hmem, by simp⟩

/-- A walk ends at a directory only where there is one. -/
theorem get?_of_walk {disk : Disk} {follow : Bool} {links : Nat} {here : Location}
    {route : List Text} {place : Location} {node : Node}
    (h : disk.walk follow links here route = .ok (.present place node)) :
    disk.get? place = some node := by
  fun_induction disk.walk follow links here route <;> simp_all

theorem mem_directories_of_directoryAt? {disk : Disk} {path : Text} {place : Location}
    (h : disk.directoryAt? path = some place) : place ∈ disk.directories := by
  unfold directoryAt? at h
  split at h
  · simp at h
  · split at h
    · next hres =>
      simp only [Option.some.injEq] at h
      subst h
      unfold resolve at hres
      split at hres
      · simp at hres
      · split at hres
        · simp at hres
        · exact mem_directories_of_get? (get?_of_walk hres)
    · simp at h

end Disk

end Marginalia
