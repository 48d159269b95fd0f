import Marginalia.Dict
import Marginalia.Shell.Rule.Value

/-!
# Tables

Values by key, where a key is a text. The keys come in the order of groups, to which
their hash values assign them, and within a group the one that was used last comes
first. A key that is used as an integer is kept with other integers at first, and
joins a group of its hash value when the table is used with a text.
-/

namespace Marginalia.Shell.Rule

/-- A table. -/
structure Table where
  /-- The number of groups, a power of two. -/
  groups : Nat := 64
  size : Nat := 0
  /-- The keys of each group, the one used last first. -/
  named : Array (List Text) := .replicate 64 []
  /-- The integer keys of each group, the one used last first. -/
  counted : Array (List Int) := .replicate 64 []
  /-- Whether the integer keys have joined the groups of their hash values. -/
  hasNames : Bool := false
  /-- The values, in groups by the hash values of their keys. -/
  cells : Array (List (Text × Value)) := .replicate 64 []

namespace Table

/-- The hash value of a key: each character is mixed in and multiplied by a prime. -/
def hash (key : Text) : Nat :=
  (key.foldl (fun h c => (h ^^^ UInt32.ofNat c.toNat) * 16777619) (2166136261 : UInt32)).toNat

/-- A list with an element moved or put to its front. -/
def toFront [BEq α] (x : α) (list : List α) : List α := x :: list.filter (· != x)

/-- The number of the group of a text key. -/
def groupOf (table : Table) (key : Text) : Nat := hash key % table.groups

/-- The number of the group of an integer key. -/
def countedGroupOf (table : Table) (n : Int) : Nat := (n % Int.ofNat table.groups).toNat

/-- The value of a key. -/
def get? (table : Table) (key : Text) : Option Value :=
  (table.cells[table.groupOf key]?.getD []).lookup key

/-- Distributes the elements of groups over twice as many groups. -/
def spread (groups : Nat) (group : α → Nat) (old : Array (List α)) : Array (List α) :=
  let low := old.map fun list => list.filter fun x => group x < groups
  let high := old.map fun list => list.filter fun x => groups ≤ group x
  low ++ high

/-- The table with more groups if it has got too large for them. -/
def grown (table : Table) : Table :=
  if table.size ≤ table.groups * 12 then table
  else
    let wider := { table with groups := table.groups * 2 }
    { wider with
      named := spread table.groups wider.groupOf table.named
      counted := spread table.groups wider.countedGroupOf table.counted
      cells := spread table.groups (fun (key, _) => wider.groupOf key) table.cells }

/-- The table after its integer keys have joined the groups of their hash values. -/
def withNames (table : Table) : Table :=
  if table.hasNames then table
  else
    table.counted.foldl (fun table list =>
      list.foldl (fun table n =>
        let key := Text.ofInt n
        { table with named := table.named.modify (table.groupOf key) (key :: ·) }) table)
      { table with hasNames := true }

/-- The table after a text key was used. -/
def use (table : Table) (key : Text) : Table :=
  let table := table.withNames
  { table with named := table.named.modify (table.groupOf key) (toFront key) }

/-- The table after an integer key was used, which may be a new one. -/
def useInteger (table : Table) (n : Int) : Table :=
  let group := table.countedGroupOf n
  let isCounted := (table.counted[group]?.getD []).contains n
  let table := { table with counted := table.counted.modify group (toFront n) }
  if table.hasNames && !isCounted then table.use (Text.ofInt n) else table

/-- The table with a value of a key. -/
def put (table : Table) (key : Text) (value : Value) : Table :=
  let isNew := (table.get? key).isNone
  let cells := table.cells.modify (table.groupOf key) (Dict.put key value)
  let table := { table with cells, size := if isNew then table.size + 1 else table.size }
  if isNew then table.grown else table

/-- The table without a key. -/
def erase (table : Table) (key : Text) : Table :=
  if (table.get? key).isNone then table
  else
    { table with
      size := table.size - 1
      named := table.named.modify (table.groupOf key) (·.filter (· != key))
      counted := table.counted.map (·.filter fun n => Text.ofInt n != key)
      cells := table.cells.modify (table.groupOf key) (·.filter (·.1 != key)) }

/-- The keys of a table in their order. -/
def keys (table : Table) : List Text := table.withNames.named.toList.flatten

/-- A table of texts by their numbers. -/
def ofList (values : List Value) : Table :=
  (values.foldl (fun (table, n) value =>
    ((table.useInteger (Int.ofNat n)).put (Text.ofNat n) value, n + 1)) (({} : Table), 1)).1

end Table
end Marginalia.Shell.Rule
