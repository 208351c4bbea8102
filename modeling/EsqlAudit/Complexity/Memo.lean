import EsqlAudit.Function.Basic
import EsqlAudit.Text.Utf8

/-!
Measures remembered by function name. A measure is worked out once for a name: a later function of the
same name is given the value of the first, and a measure that fails is not remembered.
-/
namespace EsqlAudit.Complexity

structure Memo (α : Type) where
  entries : List (String × α)

/-- What working out a measure may give. -/
abbrev Measured (α : Type) := Except Utf8.Fault α

namespace Memo

/-- Nothing remembered. -/
def empty {α : Type} : Memo α := ⟨[]⟩

/-- The value remembered for the name, or else the one worked out now. -/
def consult {α : Type} (memo : Memo α) (name : String) (value : Measured α) :
    Measured α × Memo α :=
  match memo.entries.lookup name with
  | some a => (.ok a, memo)
  | none =>
    match value with
    | .ok a => (.ok a, ⟨memo.entries ++ [(name, a)]⟩)
    | .error e => (.error e, memo)

theorem consult_empty {α : Type} (name : String) (value : Measured α) :
    ((empty : Memo α).consult name value).1 = value := by
  cases value <;> rfl

end Memo

end EsqlAudit.Complexity
