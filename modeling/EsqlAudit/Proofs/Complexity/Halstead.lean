import Mathlib.Algebra.Group.Nat.Defs
import EsqlAudit.Complexity.Halstead
import EsqlAudit.Proofs.Table

/-!
# Halstead's measures of a vocabulary

The counters of a vocabulary are the tallies of its words, so that its counts are those of the words: all of them,
and the distinct ones. The measures of a vocabulary of fewer than `2 ^ 1000` words are numbers: no count is too
large for a double, and no logarithm is taken of zero.
-/

namespace EsqlAudit.Decimal

theorem pack_isSome {mantissa : Nat} {exponent : Int} (h : exponent ≤ 971) :
    (pack mantissa exponent).isSome := by
  rw [pack]
  split
  · rfl
  · rw [if_neg (by omega)]
    rfl

theorem nearest_isSome {num bits : Nat} (den : Nat) (hbits : bits ≤ 1000) (h : num < 2 ^ bits) :
    (nearest num den).isSome := by
  rw [nearest]
  split
  · rfl
  · rename_i hnum
    have hlog : num.log2 < bits := (Nat.log2_lt (by simpa using hnum)).mpr h
    clear h
    extract_lets guess quotient fits free exponent
    have hfree : free ≤ 947 := by
      dsimp only [free, guess]
      split <;> omega
    have hexponent : exponent ≤ 947 := by
      dsimp only [exponent]
      split <;> omega
    generalize quotient exponent = nd
    obtain ⟨n, d⟩ := nd
    dsimp only
    split
    · exact pack_isSome (by omega)
    · exact pack_isSome (by omega)

end EsqlAudit.Decimal

namespace EsqlAudit.Complexity
open Decimal

theorem toDouble_ok {n : Nat} (h : n < 2 ^ 1000) : ∃ x, toDouble n = .ok x := by
  obtain ⟨x, hx⟩ := Option.isSome_iff_exists.mp (nearest_isSome 1 (Nat.le_refl 1000) h)
  have hof : ofInt n = some x := by rw [ofInt, if_neg (by omega), Int.natAbs_natCast, hx]
  exact ⟨x, by rw [toDouble, hof]⟩

theorem divide_ok {n : Nat} (b : Int) (h : n < 2 ^ 1000) : ∃ x, divide n b = .ok x := by
  obtain ⟨x, hx⟩ := Option.isSome_iff_exists.mp (nearest_isSome b.natAbs (Nat.le_refl 1000) h)
  exact ⟨_, by rw [divide, Int.natAbs_natCast, hx]⟩

theorem logTwo_ok {i : Int} (h : 0 < i) : ∃ x, logTwo i = .ok x := by
  rw [logTwo, if_neg (by omega)]
  split
  · exact ⟨_, rfl⟩
  · exact ⟨_, rfl⟩

namespace Vocabulary

/-- The number of words, each as often as it occurs. -/
def size (v : Vocabulary) : Nat :=
  v.operators.total + v.operands.total

/-- The vocabulary of some operators and operands. -/
def ofWords (operators operands : List String) : Vocabulary :=
  ⟨Counter.tally operators, Counter.tally operands⟩

variable {operators operands : List String}

theorem addOperator_ofWords (operators operands : List String) (word : String) :
    (ofWords operators operands).addOperator word = ofWords (operators ++ [word]) operands := by
  rw [ofWords, addOperator, Counter.add_tally]
  rfl

theorem addOperand_ofWords (operators operands : List String) (word : String) :
    (ofWords operators operands).addOperand word = ofWords operators (operands ++ [word]) := by
  rw [ofWords, addOperand, Counter.add_tally]
  rfl

theorem size_ofWords (operators operands : List String) :
    (ofWords operators operands).size = operators.length + operands.length := by
  rw [size, ofWords, Counter.total_tally, Counter.total_tally]

theorem counts_ofWords (operators operands : List String) : (ofWords operators operands).counts =
    ⟨operators.eraseDups.length, operands.eraseDups.length, operators.length, operands.length⟩ := by
  rw [counts, ofWords, Counter.length_tally, Counter.length_tally, Counter.total_tally, Counter.total_tally]

theorem volume_ok (h : (ofWords operators operands).size < 2 ^ 1000) :
    ∃ x, (ofWords operators operands).counts.volume = .ok x := by
  rw [Counts.volume]
  split
  · exact ⟨_, rfl⟩
  · rename_i hwords
    rw [counts_ofWords] at hwords ⊢
    have hpos : 0 < operators.eraseDups.length + operands.eraseDups.length := by
      simp only [Counts.vocabulary, beq_iff_eq] at hwords
      omega
    obtain ⟨l, hl⟩ := logTwo_ok (i := (operators.eraseDups.length + operands.eraseDups.length : Nat)) (by omega)
    obtain ⟨x, hx⟩ := toDouble_ok (size_ofWords operators operands ▸ h)
    refine ⟨x * l, ?_⟩
    rw [Counts.vocabulary, Counts.length, ← Int.natCast_add, ← Int.natCast_add, hl, hx]
    rfl

theorem difficulty_ok (h : (ofWords operators operands).size < 2 ^ 1000) :
    ∃ x, (ofWords operators operands).counts.difficulty = .ok x := by
  have hunique := length_eraseDups_le operators
  rw [size_ofWords] at h
  rw [counts_ofWords, Counts.difficulty]
  split
  · exact ⟨_, rfl⟩
  · obtain ⟨x, hx⟩ := divide_ok 2 (Nat.lt_of_le_of_lt (hunique.trans (Nat.le_add_right ..)) h)
    obtain ⟨y, hy⟩ := divide_ok operands.eraseDups.length (Nat.lt_of_le_of_lt (Nat.le_add_left ..) h)
    exact ⟨x * y, by rw [hx, hy]; rfl⟩

theorem toRecord_ok (h : (ofWords operators operands).size < 2 ^ 1000) :
    ∃ record, (ofWords operators operands).counts.toRecord = .ok record := by
  obtain ⟨x, hx⟩ := volume_ok h
  obtain ⟨y, hy⟩ := difficulty_ok h
  generalize (ofWords operators operands).counts = c at hx hy ⊢
  have heffort : c.effort = .ok (y * x) := by rw [Counts.effort, hx, hy]; rfl
  have hminutes : c.timeMinutes = .ok (y * x / 18.0 / 60.0) := by
    rw [Counts.timeMinutes, Counts.timeSeconds, heffort]
    rfl
  have hbugs : c.bugs = .ok (x / 3000.0) := by rw [Counts.bugs, hx]; rfl
  exact ⟨_, by rw [Counts.toRecord, hx, hy, heffort, hminutes, hbugs]; rfl⟩

end Vocabulary

end EsqlAudit.Complexity
