import EsqlAudit.Round.Report
import Mathlib.Data.List.Basic

/-!
# Lines of a report

Names and errors of a report can hold any text. Still no other line of it is the one that tells that there is no
improvement: a line with the name of a file at its front has a percent sign, and every other line starts in
another way.
-/

namespace EsqlAudit.Round

/-! ## Lines that tell to stop -/

/-- A line that is not like one that tells that there is no improvement. -/
def Ordinary (line : String) : Prop :=
  line.toList.head? ≠ some '>' ∨ '%' ∈ line.toList

/-- The text starts with another character than a line that tells to stop. -/
def StartsOff (s : String) : Prop :=
  s.toList.head?.any (· != '>') = true

instance (s : String) : Decidable (StartsOff s) :=
  inferInstanceAs (Decidable (_ = _))

theorem StartsOff.append {s : String} (h : StartsOff s) (t : String) : StartsOff (s ++ t) := by
  rw [StartsOff] at h ⊢
  rw [String.toList_append]
  cases hs : s.toList with
  | nil => simp [hs] at h
  | cons c cs => simpa [hs] using h

namespace Page

variable {p q : Page}

theorem mem_append {line : String} : line ∈ (p ++ q).lines ↔ line ∈ p.lines ∨ p.fault = none ∧ line ∈ q.lines := by
  change line ∈ (append p q).lines ↔ _
  unfold append
  cases p.fault <;> simp

/-- All lines of the page are ordinary. -/
def AllOrdinary (p : Page) : Prop :=
  ∀ line ∈ p.lines, Ordinary line

theorem AllOrdinary.append (hp : p.AllOrdinary) (hq : q.AllOrdinary) : (p ++ q).AllOrdinary := by
  intro line hline
  rcases mem_append.mp hline with hline | ⟨-, hline⟩
  · exact hp line hline
  · exact hq line hline

end Page

open Page

end EsqlAudit.Round
