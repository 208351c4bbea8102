import EsqlAudit.Proofs.Outcome
import EsqlAudit.Proofs.Syntax.Ascii

/-!
# ASCII stretches of a text

The byte of an ASCII character is no part of any other character. Where the bytes under a node can be read, a stretch of
ASCII characters in them is therefore a stretch of the text of the node.
-/

namespace EsqlAudit.Utf8

variable {acc out w : List Char} {pos skip : Nat} {b : UInt8} {bytes rest : List UInt8}

theorem high_of_isContinuation (h : isContinuation b = true) : 0x80 ≤ b := by
  simp only [isContinuation, Bool.and_eq_true, decide_eq_true_eq] at h
  exact h.1

theorem high_of_secondFits {b₀ : UInt8} (h : secondFits b₀ b = true) : 0x80 ≤ b := by
  simp only [secondFits, Bool.and_eq_true] at h
  exact high_of_isContinuation h.1

/-- A character of several bytes goes on with bytes that are no ASCII characters. -/
theorem high_of_step {c : Char} {n : Nat} (h : step b rest = .char c n) : ∀ x ∈ rest.take (n - 1), 0x80 ≤ x := by
  rw [step.eq_def] at h
  split at h
  · cases h
    simp
  split at h
  · cases h
  split at h
  · split at h
    · cases h
    · split at h
      · rename_i hb₁
        cases h
        simpa using high_of_isContinuation hb₁
      · cases h
  split at h
  · split at h
    · cases h
    · split at h <;> cases h
    · split at h
      · cases h
      · split at h
        · cases h
        · rename_i hb₁ hb₂
          cases h
          simp only [Bool.not_eq_true', Bool.not_eq_false] at hb₁ hb₂
          simpa using ⟨high_of_secondFits hb₁, high_of_isContinuation hb₂⟩
  split at h
  · split at h
    · cases h
    · split at h <;> cases h
    · split at h
      · cases h
      · split at h <;> cases h
    · split at h
      · cases h
      · split at h
        · cases h
        · split at h
          · cases h
          · rename_i hb₁ hb₂ hb₃
            cases h
            simp only [Bool.not_eq_true', Bool.not_eq_false] at hb₁ hb₂ hb₃
            simpa using ⟨high_of_secondFits hb₁, high_of_isContinuation hb₂, high_of_isContinuation hb₃⟩
  · cases h

/-- What has been read stays at the front of the text. -/
theorem decodeOnto_prefix (h : decodeOnto acc pos skip bytes = .ok out) : acc.reverse <+: out := by
  induction bytes generalizing acc pos skip with
  | nil =>
      simp only [decodeOnto] at h
      cases h
      exact List.prefix_rfl
  | cons b rest ih =>
      cases skip with
      | succ skip => exact ih h
      | zero =>
          simp only [decodeOnto] at h
          split at h
          · rename_i c n _
            have hpre := ih h
            rw [List.reverse_cons] at hpre
            exact (List.prefix_append _ _).trans hpre
          · cases h

/-- The induction is on the bytes before the stretch; the bytes still to be passed over are none of the stretch. -/
theorem decodeOnto_infix (hw : Ascii w) (hne : w ≠ []) {before after : List UInt8}
    (hskip : ∀ x ∈ (before ++ (w.map byteOf ++ after)).take skip, 0x80 ≤ x)
    (h : decodeOnto acc pos skip (before ++ (w.map byteOf ++ after)) = .ok out) : w <:+: out := by
  induction before generalizing acc pos skip with
  | nil =>
      obtain ⟨c, w', rfl⟩ := List.exists_cons_of_ne_nil hne
      have hlow := byteOf_lt (hw c List.mem_cons_self)
      cases skip with
      | succ skip =>
          have hhigh := hskip (byteOf c) (by simp)
          exact absurd hlow (UInt8.not_lt.mpr hhigh)
      | zero =>
          rw [List.nil_append, decodeOnto_ascii acc pos hw] at h
          have hpre := decodeOnto_prefix h
          rw [List.reverse_append, List.reverse_reverse] at hpre
          exact (List.suffix_append _ _).isInfix.trans hpre.isInfix
  | cons b before ih =>
      cases skip with
      | succ skip =>
          refine ih (fun x hx => hskip x ?_) h
          exact List.mem_cons_of_mem b hx
      | zero =>
          rw [List.cons_append] at h
          simp only [decodeOnto] at h
          split at h
          · rename_i c n hstep
            exact ih (high_of_step hstep) h
          · cases h

theorem decode_infix (hw : Ascii w) (hne : w ≠ []) {before after : List UInt8}
    (h : decode (before ++ (w.map byteOf ++ after)) = .ok out) : w <:+: out :=
  decodeOnto_infix hw hne (by simp) h

end EsqlAudit.Utf8

namespace EsqlAudit.Syntax.Program
open Utf8

/-- The bytes from `start` up to `stop` are those of the ASCII characters `w`. -/
structure Spelled (p : Program) (start stop : Nat) (w : List Char) : Prop where
  ascii : Ascii w
  bytes : (p.bytes.extract start stop).toList = w.map byteOf
  length : stop = start + w.length

variable {p : Program} {n : Node} {start stop : Nat} {w : List Char}

theorem Spelled.nodeText (h : p.Spelled n.start n.stop w) : p.nodeText n = .ok (String.ofList w) := by
  rw [Program.nodeText, h.bytes, decode_ascii h.ascii]
  rfl

/-- A node that covers a stretch has it in its text, if it has a text. -/
theorem Spelled.infix_nodeText (h : p.Spelled start stop w) (hne : w ≠ []) (hstart : n.start ≤ start)
    (hstop : stop ≤ n.stop) {text : String} (htext : p.nodeText n = .ok text) : w <:+: text.toList := by
  rw [Program.nodeText] at htext
  obtain ⟨out, hout, rfl⟩ := of_map_ok htext
  have hlength := h.length
  have hcut : p.bytes.extract n.start n.stop =
      p.bytes.extract n.start start ++ (p.bytes.extract start stop ++ p.bytes.extract stop n.stop) := by
    rw [Array.extract_append_extract, Nat.min_eq_left (by omega), Nat.max_eq_right hstop,
      Array.extract_append_extract, Nat.min_eq_left hstart, Nat.max_eq_right (by omega)]
  rw [hcut, Array.toList_append, Array.toList_append, h.bytes] at hout
  rw [String.toList_ofList]
  exact decode_infix h.ascii hne hout

end EsqlAudit.Syntax.Program
