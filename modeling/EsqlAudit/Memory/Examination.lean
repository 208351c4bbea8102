import EsqlAudit.Memory.Issue
import EsqlAudit.Table

/-!
The examination of a text: passes over it that record its allocations and its dangerous calls, mark what
becomes of the allocations, and report issues. Of several allocations to one variable the last one counts.
-/
namespace EsqlAudit.Memory
open Text

/-- What has been found so far, with the allocations under their variables. -/
structure Examination where
  allocations : Table Allocation := []
  issues : List Issue := []
  calls : List Call := []

namespace Examination

/-- Reports a problem on a line. -/
def report (source : List Char) (x : Examination) (line : Nat) (p : Problem) : Examination :=
  { x with issues := x.issues ++ [⟨line, p, lineText source line⟩] }

/-- Records an allocation, in the place of an earlier one to the same variable. -/
def allocate (x : Examination) (a : Allocation) : Examination :=
  { x with allocations := x.allocations.set a.name a }

/-- Marks what a call of `free` frees, and reports a variable that keeps its old value. -/
def free (source : List Char) (x : Examination) (f : Free) : Examination :=
  let x := { x with allocations := x.allocations.modify f.name (·.freedOn f.line) }
  if f.isReset then x else x.report source f.line (.notReset f.name)

/-- Marks an allocation that is checked, and reports one that is not. -/
def verify (source : List Char) (x : Examination) (e : String × Allocation) : Examination :=
  if isChecked source e.1 e.2.line then
    { x with allocations := x.allocations.modify e.1 (·.checked) }
  else x.report source e.2.line (.unchecked e.2.function e.1)

/-- Reports and records a call of a dangerous function. -/
def call (source : List Char) (x : Examination) (c : Call) : Examination :=
  let x := x.report source c.line (.dangerous c.function)
  { x with calls := x.calls ++ [c] }

/-- Reports the size of a pointer. -/
def size (source : List Char) (x : Examination) (s : PointerSize) : Examination :=
  x.report source s.line (.pointerSize s.name)

/-- Reports an allocation that is not marked as freed. -/
def leak (source : List Char) (x : Examination) (e : String × Allocation) : Examination :=
  if e.2.isFreed then x else x.report source e.2.line (.unfreed e.2.function e.1)

/-- What all passes find. -/
def ofText (source : List Char) : Examination :=
  let x := (Memory.allocations source).foldl allocate {}
  let x := (frees source).foldl (free source) x
  let x := x.allocations.foldl (verify source) x
  let x := (dangerousCalls source).foldl (call source) x
  let x := (pointerSizes source).foldl (size source) x
  x.allocations.foldl (leak source) x

end Examination

/-- Examines the use of memory in a text. -/
def examine (source : List Char) : Result :=
  let x := Examination.ofText source
  { issues := x.issues, allocations := x.allocations.map (·.2), calls := x.calls }

end EsqlAudit.Memory
