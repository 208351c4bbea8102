import EsqlAudit.Grammar.Token

/-!
# Tokens in the order of the text

Every token covers at least one byte, and each starts where the one before it has stopped or later.
-/

namespace EsqlAudit.Grammar
open Text

/-! ## Stretches in order -/

/-- Stretches from `lo` up to `fin`, none of them empty, each after the one before it. -/
inductive Spaced {α : Type} (start stop : α → Nat) (fin : Nat) : Nat → List α → Prop
  | nil {lo : Nat} : Spaced start stop fin lo []
  | cons {lo : Nat} {a : α} {rest : List α} : lo ≤ start a → start a < stop a → stop a ≤ fin →
      Spaced start stop fin (stop a) rest → Spaced start stop fin lo (a :: rest)

variable {α : Type} {start stop : α → Nat} {fin lo lo' : Nat} {as bs : List α} {a : α}

theorem Spaced.from (h : Spaced start stop fin lo as) (hlo : lo' ≤ lo) : Spaced start stop fin lo' as := by
  cases h with
  | nil => exact .nil
  | cons h₁ h₂ h₃ h₄ => exact .cons (Nat.le_trans hlo h₁) h₂ h₃ h₄

theorem Spaced.tail (h : Spaced start stop fin lo (a :: as)) : Spaced start stop fin lo as := by
  cases h with
  | cons h₁ h₂ _ h₄ => exact h₄.from (by omega)

theorem Spaced.suffix (h : Spaced start stop fin lo bs) (hs : as <:+ bs) : Spaced start stop fin lo as := by
  induction bs with
  | nil => rw [List.suffix_nil.mp hs]; exact .nil
  | cons b bs ih =>
      rcases List.suffix_cons_iff.mp hs with rfl | hs
      · exact h
      · exact ih h.tail hs

theorem Spaced.mem (h : Spaced start stop fin lo as) (ha : a ∈ as) :
    lo ≤ start a ∧ start a < stop a ∧ stop a ≤ fin := by
  induction h with
  | nil => simp at ha
  | cons h₁ h₂ h₃ _ ih =>
      rcases List.mem_cons.mp ha with rfl | ha
      · exact ⟨h₁, h₂, h₃⟩
      · have := ih ha
        omega

theorem Spaced.pairwise (h : Spaced start stop fin lo as) :
    as.Pairwise fun a b => stop a ≤ start b := by
  induction h with
  | nil => exact .nil
  | cons _ _ _ h₄ ih => exact .cons (fun b hb => (h₄.mem hb).1) ih

/-! ## The length of a token -/

theorem commentLength_le {s : List Char} {n : Nat} (h : commentLength s = some n) : n ≤ s.length := by
  induction s generalizing n with
  | nil => simp [commentLength] at h
  | cons c rest ih =>
      simp only [commentLength] at h
      split at h
      · rename_i hend
        have := (List.isPrefixOf_iff_prefix.mp hend).length_le
        cases h
        simpa using this
      · obtain ⟨m, hm, rfl⟩ := Option.map_eq_some_iff.mp h
        simpa using ih hm

theorem quotedLength_le {quote : Char} {s : List Char} {n : Nat} (h : quotedLength quote s = some n) :
    n ≤ s.length := by
  fun_induction quotedLength quote s generalizing n with
  | case1 => simp at h
  | case2 c rest ih =>
      obtain ⟨m, hm, rfl⟩ := Option.map_eq_some_iff.mp h
      simpa using ih hm
  | case3 => cases h; simp
  | case4 => simp at h
  | case5 c rest _ _ _ ih =>
      obtain ⟨m, hm, rfl⟩ := Option.map_eq_some_iff.mp h
      simpa using ih hm

theorem takeWhile_length_le (p : Char → Bool) (s : List Char) : (s.takeWhile p).length ≤ s.length :=
  (List.takeWhile_prefix p).length_le

theorem numberLength_pos {c : Char} {rest : List Char} (h : c.isDigit) : 1 ≤ numberLength (c :: rest) := by
  have hwhole : 1 ≤ ((c :: rest).takeWhile Char.isDigit).length := by simp [h]
  simp only [numberLength]
  split
  · split <;> omega
  · exact hwhole

theorem numberLength_le (s : List Char) : numberLength s ≤ s.length := by
  have hwhole := takeWhile_length_le Char.isDigit s
  simp only [numberLength]
  split
  · rename_i rest hrest
    have hlength := congrArg List.length hrest
    have hpart := takeWhile_length_le Char.isDigit rest
    simp only [List.length_drop, List.length_cons] at hlength
    split <;> omega
  · exact hwhole

theorem compoundMarks_length : ∀ m ∈ compoundMarks, 1 ≤ m.length := by decide

/-- What stands at the front of a text has at least one character and lies within the text. -/
theorem scan_length (c : Char) (rest : List Char) :
    1 ≤ (scan c rest).1 ∧ (scan c rest).1 ≤ rest.length + 1 := by
  simp only [scan]
  split
  · simp
  split
  · rename_i h
    simp only [Bool.and_eq_true] at h
    obtain ⟨n, hn⟩ := Option.isSome_iff_exists.mp h.2
    have hopen := (List.isPrefixOf_iff_prefix.mp h.1).length_le
    have hle := commentLength_le hn
    simp only [List.length_drop, List.length_cons] at hopen hle
    have : "/*".toList.length = 2 := by decide
    rw [hn, Option.getD_some]
    omega
  split
  · have := takeWhile_length_le (· != '\n') rest
    omega
  split
  · rename_i h
    simp only [Bool.and_eq_true] at h
    obtain ⟨n, hn⟩ := Option.isSome_iff_exists.mp h.2
    have hle := quotedLength_le hn
    rw [hn, Option.getD_some]
    omega
  split
  · rename_i h
    exact ⟨numberLength_pos h, numberLength_le (c :: rest)⟩
  split
  · have := takeWhile_length_le isWord rest
    omega
  split
  · rename_i m hm
    have hpre := List.find?_some hm
    have hle := (List.isPrefixOf_iff_prefix.mp hpre).length_le
    rw [String.length_toList] at hle
    exact ⟨compoundMarks_length m (List.mem_of_find?_eq_some hm), hle⟩
  · simp

/-! ## Tokens -/

theorem tokensFrom_spaced (pos skip : Nat) (s : List Char) :
    Spaced Token.start Token.stop (pos + s.length) (pos + skip) (tokensFrom pos skip s) := by
  induction s generalizing pos skip with
  | nil => simp only [tokensFrom]; exact .nil
  | cons c rest ih =>
      have hfin : pos + (c :: rest).length = pos + 1 + rest.length := by
        simp only [List.length_cons]; omega
      rw [hfin]
      cases skip with
      | succ skip =>
          simp only [tokensFrom]
          exact (ih (pos + 1) skip).from (by omega)
      | zero =>
          obtain ⟨hpos, hle⟩ := scan_length c rest
          have hrest := ih (pos + 1) ((scan c rest).1 - 1)
          simp only [tokensFrom]
          split
          · rename_i n cls hscan
            rw [hscan] at hpos hle hrest
            dsimp only at hpos hle hrest
            exact .cons (by simp) (by dsimp only; omega) (by dsimp only; omega)
              (hrest.from (by dsimp only; omega))
          · rename_i n hscan
            rw [hscan] at hrest
            exact hrest.from (by omega)

/-- The tokens of a text stand in order within it. -/
theorem tokenize_spaced (bytes : List UInt8) :
    Spaced Token.start Token.stop bytes.length 0 (tokenize bytes) := by
  have h := tokensFrom_spaced 0 0 (bytes.map fun b => Char.ofNat b.toNat)
  rwa [List.length_map, Nat.zero_add] at h

end EsqlAudit.Grammar
