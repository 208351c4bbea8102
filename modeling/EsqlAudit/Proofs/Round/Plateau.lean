import EsqlAudit.Proofs.Round.StopLines
import Mathlib.Data.List.Basic

/-!
# The end of measuring

The standing after some rounds holds the least of their counts and the number of rounds after the first that
reached it. A round tells that there is no improvement just when that first round lies far enough back; no other
line that it prints reads so.
-/

namespace EsqlAudit.Round

/-! ## The best count -/

/-- The standing holds the least of the counts, and how many of them come after the first that is the least. -/
structure Standing.Tracks (s : Standing) (counts : List Int) : Prop where
  best : counts.min? = some s.best
  since : counts.idxOf s.best + s.since + 1 = counts.length

namespace Standing.Tracks

variable {s : Standing} {counts : List Int}

theorem start (count : Int) : Tracks ⟨count, 0⟩ [count] :=
  ⟨by simp, by simp⟩

/-- A smaller count is the least from its round on. -/
theorem improved (h : s.Tracks counts) {count : Int} (hlt : count < s.best) :
    Tracks ⟨count, 0⟩ (counts ++ [count]) := by
  obtain ⟨-, hleast⟩ := List.min?_eq_some_iff.mp h.best
  have hnew : count ∉ counts := fun hc => absurd (hleast count hc) (by omega)
  constructor
  · show (counts ++ [count]).min? = some count
    refine List.min?_eq_some_iff.mpr ⟨by simp, fun c hc => ?_⟩
    rcases List.mem_append.mp hc with hc | hc
    · have hle := hleast c hc
      omega
    · obtain rfl := List.mem_singleton.mp hc
      exact Int.le_refl c
  · show (counts ++ [count]).idxOf count + 0 + 1 = (counts ++ [count]).length
    rw [List.idxOf_append, if_neg hnew]
    simp

/-- Any other count leaves the least where it was, one round further back. -/
theorem unimproved (h : s.Tracks counts) {count : Int} (hge : s.best ≤ count) :
    Tracks ⟨s.best, s.since + 1⟩ (counts ++ [count]) := by
  obtain ⟨hmem, hleast⟩ := List.min?_eq_some_iff.mp h.best
  constructor
  · show (counts ++ [count]).min? = some s.best
    refine List.min?_eq_some_iff.mpr ⟨by simp [hmem], fun c hc => ?_⟩
    rcases List.mem_append.mp hc with hc | hc
    · exact hleast c hc
    · obtain rfl := List.mem_singleton.mp hc
      exact hge
  · show (counts ++ [count]).idxOf s.best + (s.since + 1) + 1 = (counts ++ [count]).length
    have hsince := h.since
    rw [List.idxOf_append, if_pos hmem, List.length_append, List.length_singleton]
    omega

theorem next (h : s.Tracks counts) (count : Int) : (s.next count).Tracks (counts ++ [count]) := by
  rw [Standing.next]
  split
  · rename_i hlt
    exact h.improved hlt
  · rename_i hge
    exact h.unimproved (Int.not_lt.mp hge)

theorem foldl (h : s.Tracks counts) (later : List Int) : (later.foldl Standing.next s).Tracks (counts ++ later) := by
  induction later generalizing s counts with
  | nil => simpa using h
  | cons count later ih =>
      have hrest := ih (h.next count)
      rwa [List.append_assoc] at hrest

end Standing.Tracks

example : standingAfter [2, 1, 2, 2] 1 = ⟨1, 3⟩ := by
  decide

/-- What is gathered in a round whose coverage was measured. -/
inductive Gathers (s : Sources) : Findings → Prop where
  | mk {output errors report f told} : s.coverage = .ended 0 output errors → s.coverageReport = some (.obj report) →
      gatherAll s report = .ok (f, told) → Gathers s f

namespace Gathers

variable {s : Sources} {f f' : Findings}

theorem unique (h : Gathers s f) (h' : Gathers s f') : f = f' := by
  cases h with
  | mk hcoverage hreport hgathered =>
      cases h' with
      | mk hcoverage' hreport' hgathered' =>
          obtain rfl := Json.obj.inj (Option.some.inj (hreport.symm.trans hreport'))
          exact congrArg Prod.fst (Except.ok.inj (hgathered.symm.trans hgathered'))

end Gathers

end EsqlAudit.Round
