import EsqlAudit.Syntax.Program
import EsqlAudit.Text.Basic

/-!
# Texts of one byte a character

In a text of ASCII characters bytes and characters correspond one to one, so the text under a node is the slice
of the text between its ends.
-/

namespace EsqlAudit.Utf8

/-- All characters are ASCII characters. -/
def Ascii (s : List Char) : Prop :=
  ∀ c ∈ s, c.toNat < 128

/-- The byte of an ASCII character. -/
def byteOf (c : Char) : UInt8 := UInt8.ofNat c.toNat

variable {s : List Char} {c : Char}

theorem encodeChar_ascii (h : c.toNat < 128) : String.utf8EncodeChar c = [byteOf c] := by
  have hle : c.val.toNat ≤ 127 := Nat.le_of_lt_succ h
  simp only [String.utf8EncodeChar, byteOf]
  rw [if_pos hle]
  rfl

theorem encode_ascii (h : Ascii s) : encode s = s.map byteOf := by
  induction s with
  | nil => rfl
  | cons c s ih =>
      have hcons : encode (c :: s) = String.utf8EncodeChar c ++ encode s := rfl
      rw [hcons, encodeChar_ascii (h c List.mem_cons_self), ih fun d hd => h d (List.mem_cons_of_mem c hd)]
      rfl

theorem ofNat_byteOf (h : c.toNat < 128) : Char.ofNat (byteOf c).toNat = c := by
  rw [byteOf, UInt8.toNat_ofNat', Nat.mod_eq_of_lt (by omega), Char.ofNat_toNat]

theorem byteOf_lt (h : c.toNat < 128) : byteOf c < 0x80 := by
  rw [UInt8.lt_iff_toNat_lt, byteOf, UInt8.toNat_ofNat', Nat.mod_eq_of_lt (by omega)]
  exact h

theorem decodeOnto_ascii (acc : List Char) (pos : Nat) (h : Ascii s) (rest : List UInt8) :
    decodeOnto acc pos 0 (s.map byteOf ++ rest) = decodeOnto (s.reverse ++ acc) (pos + s.length) 0 rest := by
  induction s generalizing acc pos with
  | nil => rfl
  | cons c s ih =>
      have hc := h c List.mem_cons_self
      have hstep : step (byteOf c) (s.map byteOf ++ rest) = .char c 1 := by
        rw [step.eq_def, if_pos (byteOf_lt hc), ofNat_byteOf hc]
      simp only [List.map_cons, List.cons_append, decodeOnto, hstep]
      rw [ih _ _ fun d hd => h d (List.mem_cons_of_mem c hd)]
      simp only [List.reverse_cons, List.append_assoc, List.cons_append, List.nil_append, List.length_cons]
      congr 1
      omega

theorem decode_ascii (h : Ascii s) : decode (s.map byteOf) = .ok s := by
  have hall := decodeOnto_ascii [] 0 h []
  rw [List.append_nil] at hall
  rw [decode, hall]
  simp [decodeOnto]

end EsqlAudit.Utf8

namespace EsqlAudit.Syntax.Program
open Text Utf8

theorem nodeText_ascii {s : List Char} (h : Ascii s) (root : Option Node) (n : Node) :
    (Program.load s root).nodeText n = .ok (String.ofList (slice s n.start n.stop)) := by
  have hslice : Ascii (slice s n.start n.stop) := fun c hc =>
    h c (List.mem_of_mem_drop (List.mem_of_mem_take hc))
  have hbytes : ((s.map byteOf).toArray.extract n.start n.stop).toList =
      (slice s n.start n.stop).map byteOf := by
    simp [slice, List.map_take, List.map_drop, List.extract_eq_take_drop]
  simp only [nodeText, load, encode_ascii h, hbytes, decode_ascii hslice]
  rfl

end EsqlAudit.Syntax.Program
