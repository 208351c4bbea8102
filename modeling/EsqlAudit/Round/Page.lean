import EsqlAudit.Round.Fault

/-!
Lines that are shown one after the other up to the first fault. What stands before a fault stays shown.
-/
namespace EsqlAudit.Round

/-- Lines, and the fault that ended them. -/
structure Page where
  lines : List String
  fault : Option Fault

namespace Page

/-- A page of lines that no fault ended. -/
def ofLines (lines : List String) : Page := ⟨lines, none⟩

/-- A page that a fault ended before its first line. -/
def ofFault (f : Fault) : Page := ⟨[], some f⟩

/-- A page of a line that may be a fault. -/
def ofLine : Except Fault String → Page
  | .ok line => ofLines [line]
  | .error f => ofFault f

/-- A page and what follows it. Nothing follows a fault. -/
def append (p q : Page) : Page :=
  match p.fault with
  | some _ => p
  | none => ⟨p.lines ++ q.lines, q.fault⟩

instance : Append Page := ⟨append⟩

/-- Pages one after the other. -/
def concat (pages : List Page) : Page :=
  pages.foldr append (ofLines [])

/-- What follows a value that may be a fault. -/
def andThen {α : Type} (value : Except Fault α) (next : α → Page) : Page :=
  match value with
  | .ok a => next a
  | .error f => ofFault f

end Page

end EsqlAudit.Round
