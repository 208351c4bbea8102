/-!
Tables: values under names, in the order in which the names were first given. Counters: how often each item
occurs, in the order of first appearance.
-/
namespace EsqlAudit

abbrev Table (α : Type) := List (String × α)

namespace Table

/-- Changes the value of a name where it stands. -/
def modify {α : Type} (t : Table α) (key : String) (new : α → α) : Table α :=
  t.map fun (k, a) => if k == key then (k, new a) else (k, a)

/-- Changes the value of a name where it stands, or adds the name at the end. -/
def update {α : Type} (t : Table α) (key : String) (new : Option α → α) : Table α :=
  if t.any (·.1 == key) then t.modify key fun a => new (some a) else t ++ [(key, new none)]

/-- Gives a name a value. -/
def set {α : Type} (t : Table α) (key : String) (value : α) : Table α :=
  t.update key fun _ => value

/-- The table in which the entries were set one after the other. -/
def ofEntries {α : Type} (entries : List (String × α)) : Table α :=
  entries.foldl (fun t (k, a) => t.set k a) []

/-- The items of each name, in the order in which the names first appear. -/
def group {α : Type} (entries : List (String × α)) : Table (List α) :=
  entries.foldl (fun t (k, a) => t.update k fun items => items.getD [] ++ [a]) []

end Table

abbrev Counter (α : Type) := List (α × Nat)

namespace Counter

/-- Counts an item once more. -/
def add {α : Type} [BEq α] (c : Counter α) (item : α) : Counter α :=
  if c.any (·.1 == item) then c.map fun (a, n) => if a == item then (a, n + 1) else (a, n)
  else c ++ [(item, 1)]

/-- The number of all occurrences. -/
def total {α : Type} (c : Counter α) : Nat :=
  c.foldl (fun sum e => sum + e.2) 0

end Counter

end EsqlAudit
