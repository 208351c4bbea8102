import EsqlAudit.Proofs.Text.Keyword
import EsqlAudit.Proofs.Text.Lines
import EsqlAudit.Proofs.Text.Occurrences
import Mathlib.Data.List.TakeWhile

/-!
# Words of a text

A keyword made of letters, however it is written, consists of word characters. So it stands at a word boundary if
and only if no word character is next to it, and a word that stands so is the whole run of word characters at its
place.
-/

namespace EsqlAudit.Text

/-! ## Letters and white space -/

theorem isWord_of_caseKey {c : Char} (h : (caseKey c).isLower = true) : isWord c = true := by
  have hbeyond : ∀ d ∈ ['İ', 'ı', 'ſ', '\u212A'], isWord d = true := by decide +kernel
  have hletter : 97 ≤ (caseKey c).toNat ∧ (caseKey c).toNat ≤ 122 := by
    have hval : (decide (97 ≤ (caseKey c).val) && decide ((caseKey c).val ≤ 122)) = true := h
    simpa [UInt32.le_iff_toNat_le] using hval
  rcases caseKey_eq_ascii (c := c) rfl (by omega) (by omega) with ⟨hc, hlower⟩ | hc
  · exact of_ascii (P := fun c => c.toLower.isLower = true → isWord c = true) (by decide +kernel) hc (hlower ▸ h)
  · exact hbeyond c hc

theorem isWord_of_isBlank {c : Char} (h : isBlank c = true) : isWord c = false :=
  of_isBlank (P := fun c => isWord c = false) (by decide +kernel) h

theorem isWord_newline : isWord '\n' = false :=
  isWord_of_isBlank (by decide)

/-- The keyword is made of letters. -/
def Lettered (k : String) : Prop :=
  k.toList ≠ [] ∧ ∀ l ∈ k.toList, (caseKey l).isLower = true

instance (k : String) : Decidable (Lettered k) :=
  inferInstanceAs (Decidable (_ ∧ ∀ l ∈ k.toList, (caseKey l).isLower = true))

theorem Spells.isWord {k : String} {w : List Char} (hw : Spells k w) (hk : Lettered k) : ∀ c ∈ w, isWord c = true := by
  intro c hc
  have hmem : caseKey c ∈ k.toList.map caseKey := hw ▸ List.mem_map_of_mem hc
  obtain ⟨l, hl, hkey⟩ := List.mem_map.mp hmem
  exact isWord_of_caseKey (hkey ▸ hk.2 l hl)

theorem Spells.ne_nil {k : String} {w : List Char} (hw : Spells k w) (hk : Lettered k) : w ≠ [] := by
  rintro rfl
  exact hk.1 (List.map_eq_nil_iff.mp hw.symm)

/-! ## Word boundaries -/

variable {u w t : List Char}

theorem isWordEdge_between (u x : List Char) :
    (Place.between u x).isWordEdge = (u.getLast?.any isWord != x.head?.any isWord) := by
  rw [Place.isWordEdge, Place.between]
  cases u.getLast? <;> cases x.head? <;> rfl

theorem isWordEdge_before (hne : w ≠ []) (hw : ∀ c ∈ w, isWord c = true) :
    (Place.between u (w ++ t)).isWordEdge = true ↔ u.getLast?.any isWord = false := by
  cases w with
  | nil => exact absurd rfl hne
  | cons c w =>
      have hc : isWord c = true := hw c List.mem_cons_self
      rw [isWordEdge_between]
      simp [hc]

theorem any_getLast?_append (hne : w ≠ []) (hw : ∀ c ∈ w, isWord c = true) : (u ++ w).getLast?.any isWord = true := by
  rw [List.getLast?_append, List.getLast?_eq_some_getLast hne]
  exact hw _ (List.getLast_mem hne)

theorem isWordEdge_after (hne : w ≠ []) (hw : ∀ c ∈ w, isWord c = true) :
    (Place.between (u ++ w) t).isWordEdge = true ↔ t.head?.any isWord = false := by
  rw [isWordEdge_between, any_getLast?_append hne hw]
  simp

theorem Pattern.fits_wordEdge {gs gs' : List (Nat × Span)} :
    Fits .wordEdge u w t gs gs' ↔ w = [] ∧ (Place.between u t).isWordEdge = true ∧ gs' = gs := by
  constructor
  · intro h
    cases h with
    | wordEdge hedge => exact ⟨rfl, hedge, rfl⟩
  · rintro ⟨rfl, hedge, rfl⟩
    exact .wordEdge hedge

/-! ## Runs of a class -/

theorem takeWhile_append_of_head {p : Char → Bool} (ht : t.head?.any p = false) :
    (w ++ t).takeWhile p = w.takeWhile p := by
  induction w with
  | nil =>
      cases t with
      | nil => rfl
      | cons c t =>
          have hc : p c = false := by simpa using ht
          simp [hc]
  | cons c w ih =>
      rw [List.cons_append, List.takeWhile_cons, List.takeWhile_cons, ih]

/-- A run of a class with nothing of the class after it ends in one place only. -/
theorem takeWhile_run {p : Char → Bool} (hw : ∀ c ∈ w, p c = true) (ht : t.head?.any p = false) :
    (w ++ t).takeWhile p = w := by
  rw [takeWhile_append_of_head ht, List.takeWhile_eq_self_iff.mpr hw]

theorem head?_dropWhile_any (p : Char → Bool) (s : List Char) : (s.dropWhile p).head?.any p = false := by
  cases hs : s.dropWhile p with
  | nil => rfl
  | cons c t => simpa [hs] using List.head?_dropWhile_not p s

theorem isLineEnd_between (u t : List Char) :
    (Place.between u t).isLineEnd = true ↔ t.head?.any notNewline = false := by
  cases t with
  | nil => simp [Place.isLineEnd, Place.between]
  | cons c t => simp [Place.isLineEnd, Place.between, notNewline]

/-! ## Runs up to the end of a line -/

theorem head?_afterLine {p : Char → Bool} (hp : p '\n' = false) (ls : List (List Char)) :
    (afterLine ls).head?.any p = false := by
  cases ls with
  | nil => rfl
  | cons line ls => exact hp

theorem takeWhile_notNewline (hw : '\n' ∉ w) (ls : List (List Char)) : (w ++ afterLine ls).takeWhile notNewline = w :=
  takeWhile_run (fun _ hc => bne_iff_ne.mpr (ne_of_mem_of_not_mem hc hw)) (head?_afterLine rfl ls)

/-! ## Whole words -/

/-- The text `w` is the keyword `k` and stands between `u` and `t` as a whole word: no word character is next to it. -/
structure WholeWord (k : String) (u w t : List Char) : Prop where
  spells : Spells k w
  before : u.getLast?.any isWord = false
  after : t.head?.any isWord = false

/-- The keyword stands somewhere in the text as a whole word. -/
def HasWord (k : String) (s : List Char) : Prop :=
  ∃ u w t, s = u ++ (w ++ t) ∧ WholeWord k u w t

end EsqlAudit.Text
