import EsqlAudit.Proofs.Text.Lines
import EsqlAudit.Syntax.Program

/-!
# Lines of bytes

The newline is the only character whose bytes hold a newline byte, so the line of a byte is the line of the
character that starts there.
-/

namespace EsqlAudit.Utf8
open Text

theorem encode_append (s t : List Char) : encode (s ++ t) = encode s ++ encode t :=
  List.flatMap_append

theorem ofNat_eq_ten_iff {n : Nat} (h : n < 256) : UInt8.ofNat n = 10 ↔ n = 10 := by
  rw [← UInt8.toNat_inj, UInt8.toNat_ofNat', Nat.mod_eq_of_lt h]
  rfl

theorem count_utf8EncodeChar (c : Char) : (String.utf8EncodeChar c).count 10 = if c = '\n' then 1 else 0 := by
  have hten : c = '\n' ↔ c.val.toNat = 10 := by
    rw [Char.ext_iff, ← UInt32.toNat_inj]
    rfl
  simp only [hten, String.utf8EncodeChar]
  generalize c.val.toNat = v
  have hlow : ∀ n, 128 ≤ n → n < 256 → UInt8.ofNat n ≠ 10 := by
    intro n hn hlt h
    have := (ofNat_eq_ten_iff hlt).mp h
    omega
  split
  · by_cases hv : v = 10
    · simp [hv]
    · have hne : UInt8.ofNat v ≠ 10 := fun h => hv ((ofNat_eq_ten_iff (by omega)).mp h)
      simp [hv, hne]
  · have hv : ¬ v = 10 := by omega
    rw [if_neg hv, List.count_eq_zero]
    split
    · simp only [List.mem_cons, List.not_mem_nil, or_false, not_or]
      exact ⟨(hlow _ (by omega) (by omega)).symm, (hlow _ (by omega) (by omega)).symm⟩
    · split
      · simp only [List.mem_cons, List.not_mem_nil, or_false, not_or]
        exact ⟨(hlow _ (by omega) (by omega)).symm, (hlow _ (by omega) (by omega)).symm,
          (hlow _ (by omega) (by omega)).symm⟩
      · simp only [List.mem_cons, List.not_mem_nil, or_false, not_or]
        exact ⟨(hlow _ (by omega) (by omega)).symm, (hlow _ (by omega) (by omega)).symm,
          (hlow _ (by omega) (by omega)).symm, (hlow _ (by omega) (by omega)).symm⟩

theorem count_encode (s : List Char) : (encode s).count 10 = newlines s := by
  induction s with
  | nil => rfl
  | cons c s ih =>
      have hcons : encode (c :: s) = String.utf8EncodeChar c ++ encode s := rfl
      rw [hcons, List.count_append, count_utf8EncodeChar, ih, newlines, newlines, List.count_cons]
      by_cases hc : c = '\n'
      · simp [hc, Nat.add_comm]
      · simp [hc]

end EsqlAudit.Utf8

namespace EsqlAudit.Syntax.Program
open Text Utf8

variable {u t : List Char}

theorem lineOf_load (root : Option Node) :
    (Program.load (u ++ t) root).lineOf (encode u).length = lineAt (u ++ t) u.length := by
  rw [lineAt_append, ← count_encode u]
  simp only [load, lineOf, encode_append, List.extract_toArray, List.count_toArray]
  simp

/-- The text under a node that covers a character of one byte. -/
theorem nodeText_load (root : Option Node) {n : Node} {c : Char} {b : UInt8} (hc : encode [c] = [b])
    (hb : decode [b] = .ok [c]) (hstart : n.start = (encode u).length) (hstop : n.stop = (encode u).length + 1) :
    (Program.load (u ++ c :: t) root).nodeText n = .ok (String.ofList [c]) := by
  have hbytes : encode (u ++ c :: t) = encode u ++ (encode [c] ++ encode t) := by
    rw [← encode_append, ← encode_append]
    rfl
  simp only [load, nodeText, hbytes, hc, hstart, hstop, List.extract_toArray]
  simp [hb, Except.map]

end EsqlAudit.Syntax.Program
