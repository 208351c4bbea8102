import EsqlAudit.Proofs.Text.Reading

/-!
# Keywords, white space and fixed texts as patterns

What the parts of a keyword pattern can take. A keyword is compared letter by letter without regard to case;
of the letters `e`, `x` and `c` no letter beyond ASCII is another case.
-/

namespace EsqlAudit.Text

/-- What holds of each character of a text is decided along the text, not over all characters there are. -/
instance (priority := 2000) decidableForallMem (s : List Char) (P : Char → Prop) [DecidablePred P] :
    Decidable (∀ c ∈ s, P c) :=
  List.decidableBAll P s

/-! ## Parts of patterns -/

/-- The text is the keyword `k`, without regard to letter case. -/
def Spells (k : String) (w : List Char) : Prop :=
  w.map caseKey = k.toList.map caseKey

instance (k : String) (w : List Char) : Decidable (Spells k w) :=
  inferInstanceAs (Decidable (_ = _))

/-- White space, possibly none. -/
def Blanks (w : List Char) : Prop :=
  ∀ c ∈ w, isBlank c = true

instance (w : List Char) : Decidable (Blanks w) :=
  inferInstanceAs (Decidable (∀ c ∈ w, isBlank c = true))

theorem Blanks.append {v w : List Char} (hv : Blanks v) (hw : Blanks w) : Blanks (v ++ w) := by
  intro c hc
  rcases List.mem_append.mp hc with hc | hc
  · exact hv c hc
  · exact hw c hc

theorem Blanks.not_mem {w : List Char} (hw : Blanks w) {c : Char} (hc : isBlank c = false) : c ∉ w := by
  intro h
  simp [hw c h] at hc

/-- White space that ends where a single character of it does is that character. -/
theorem Blanks.eq_singleton {w y z : List Char} {a c : Char} (hw : Blanks w) (hne : w ≠ [])
    (hc : isBlank c = false) (h : w ++ y = [a] ++ c :: z) : w = [a] := by
  match w, hne with
  | [b], _ => rw [(List.cons.inj h).1]
  | b :: d :: w, _ =>
      obtain ⟨_, hrest⟩ := List.cons.inj h
      obtain ⟨rfl, _⟩ := List.cons.inj hrest
      exact absurd (by simp) (hw.not_mem hc)

/-- White space at the end of a text starts after its last character that is none. -/
theorem Blanks.starts_after {w x y z : List Char} {c : Char} (hw : Blanks w) (hc : isBlank c = false)
    (h : y ++ w = x ++ c :: z) : ∃ z', y = x ++ c :: z' ∧ z = z' ++ w := by
  rcases List.append_eq_append_iff.mp h with ⟨v, rfl, rfl⟩ | ⟨v, rfl, hv⟩
  · exact absurd (by simp) (hw.not_mem hc)
  · cases v with
    | nil =>
        rw [List.nil_append] at hv
        exact absurd (hv ▸ List.mem_cons_self) (hw.not_mem hc)
    | cons d v =>
        obtain ⟨rfl, rfl⟩ := List.cons.inj hv
        exact ⟨v, rfl, rfl⟩

/-- White space before a text that starts with none ends in one place only. -/
theorem Blanks.unique {a a' x x' : List Char} {c c' : Char} (ha : Blanks a) (ha' : Blanks a')
    (hc : isBlank c = false) (hc' : isBlank c' = false) (h : a ++ c :: x = a' ++ c' :: x') :
    a = a' ∧ c :: x = c' :: x' := by
  have htake : ∀ {b y : List Char} {d : Char}, Blanks b → isBlank d = false →
      (b ++ d :: y).takeWhile isBlank = b := by
    intro b y d hb hd
    rw [List.takeWhile_append_of_pos hb, List.takeWhile_cons_of_neg (by simp [hd]), List.append_nil]
  obtain rfl : a = a' := by rw [← htake ha hc (y := x), h, htake ha' hc']
  exact ⟨rfl, List.append_cancel_left h⟩

theorem strip_blanks {a b : List Char} (ha : Blanks a) (hb : Blanks b) (g : List Char) :
    strip (a ++ (g ++ b)) = strip g := by
  have hright : ∀ x : List Char, stripRight (x ++ b) = stripRight x := by
    intro x
    have hrev : ∀ c ∈ b.reverse, isBlank c = true := fun c hc => hb c (List.mem_reverse.mp hc)
    rw [stripRight, List.reverse_append, List.dropWhile_append_of_pos hrev, stripRight]
  have hnone : b.dropWhile isBlank = [] := by simpa using @List.dropWhile_append_of_pos _ isBlank b [] hb
  rw [strip, stripLeft, List.dropWhile_append_of_pos ha, List.dropWhile_append]
  split
  · rename_i hempty
    rw [strip, stripLeft, List.isEmpty_iff.mp hempty, hnone]
  · rw [hright, strip, stripLeft]

theorem Spells.not_mem {k : String} {w : List Char} (hw : Spells k w) {c : Char}
    (hc : caseKey c ∉ k.toList.map caseKey) : c ∉ w :=
  fun h => hc (hw ▸ List.mem_map_of_mem h)

theorem Spells.length_eq {k : String} {w : List Char} (h : Spells k w) :
    w.length = k.toList.length := by
  simpa using congrArg List.length h

namespace Pattern

variable {u w t : List Char} {gs gs' : List (Nat × Span)}

theorem fits_empty : Fits .empty u w t gs gs' ↔ w = [] ∧ gs' = gs := by
  constructor
  · intro h
    cases h
    exact ⟨rfl, rfl⟩
  · rintro ⟨rfl, rfl⟩
    exact .empty

theorem fits_seq {p q : Pattern} : Fits (.seq p q) u w t gs gs' ↔
    ∃ v v' gs₁, w = v ++ v' ∧ Fits p u v (v' ++ t) gs gs₁ ∧ Fits q (u ++ v) v' t gs₁ gs' := by
  constructor
  · intro h
    cases h with
    | seq hp hq => exact ⟨_, _, _, rfl, hp, hq⟩
  · rintro ⟨v, v', gs₁, rfl, hp, hq⟩
    exact .seq hp hq

/-- A text that is compared character by character through a key. -/
theorem fits_keyed (key : Char → Char) (cs : List Char) :
    Fits (cs.foldr (fun c p => .seq (.one fun d => key d == key c) p) .empty) u w t gs gs' ↔
      w.map key = cs.map key ∧ gs' = gs := by
  induction cs generalizing u w with
  | nil => simp [fits_empty]
  | cons c cs ih =>
      rw [List.foldr_cons, fits_seq]
      constructor
      · rintro ⟨v, v', gs₁, rfl, hone, hrest⟩
        cases hone with
        | one hd =>
            obtain ⟨hmap, rfl⟩ := ih.mp hrest
            exact ⟨by simpa [hmap] using hd, rfl⟩
      · rintro ⟨hmap, rfl⟩
        cases w with
        | nil => simp at hmap
        | cons d w =>
            obtain ⟨hd, hmap⟩ := List.cons.inj hmap
            exact ⟨[d], w, gs', rfl, .one (by simpa using hd), ih.mpr ⟨hmap, rfl⟩⟩

theorem fits_word {k : String} : Fits (.word k) u w t gs gs' ↔ Spells k w ∧ gs' = gs :=
  fits_keyed caseKey k.toList

theorem fits_exactly {k : String} : Fits (.exactly k) u w t gs gs' ↔ w = k.toList ∧ gs' = gs := by
  have h : Fits (.exactly k) u w t gs gs' ↔ w.map id = k.toList.map id ∧ gs' = gs := fits_keyed id k.toList
  rwa [List.map_id, List.map_id] at h

theorem fits_greedy {cls : Char → Bool} :
    Fits (.greedy cls) u w t gs gs' ↔ (∀ c ∈ w, cls c = true) ∧ gs' = gs := by
  constructor
  · intro h
    cases h with
    | greedy hw => exact ⟨hw, rfl⟩
  · rintro ⟨hw, rfl⟩
    exact .greedy hw

theorem fits_lazy {cls : Char → Bool} :
    Fits (.lazy cls) u w t gs gs' ↔ (∀ c ∈ w, cls c = true) ∧ gs' = gs := by
  constructor
  · intro h
    cases h with
    | lazy hw => exact ⟨hw, rfl⟩
  · rintro ⟨hw, rfl⟩
    exact .lazy hw

theorem fits_group {n : Nat} {p : Pattern} : Fits (.group n p) u w t gs gs' ↔
    ∃ gs₁, Fits p u w t gs gs₁ ∧ gs' = (n, ⟨u.length, (u ++ w).length⟩) :: gs₁ := by
  constructor
  · intro h
    cases h with
    | group hp => exact ⟨_, hp, rfl⟩
  · rintro ⟨gs₁, hp, rfl⟩
    exact .group hp

theorem fits_blanks : Fits .blanks u w t gs gs' ↔ Blanks w ∧ gs' = gs :=
  fits_greedy

theorem fits_many1 {cls : Char → Bool} :
    Fits (.many1 cls) u w t gs gs' ↔ w ≠ [] ∧ (∀ c ∈ w, cls c = true) ∧ gs' = gs := by
  rw [many1, fits_seq]
  constructor
  · rintro ⟨v, v', gs₁, rfl, hone, hrest⟩
    cases hone with
    | one hc =>
        obtain ⟨hcls, rfl⟩ := fits_greedy.mp hrest
        exact ⟨by simp, by simpa using ⟨hc, hcls⟩, rfl⟩
  · rintro ⟨hne, hw, rfl⟩
    cases w with
    | nil => exact absurd rfl hne
    | cons c w =>
        refine ⟨[c], w, gs', rfl, .one (hw c (by simp)), ?_⟩
        exact fits_greedy.mpr ⟨fun d hd => hw d (by simp [hd]), rfl⟩

theorem fits_blanks1 : Fits .blanks1 u w t gs gs' ↔ w ≠ [] ∧ Blanks w ∧ gs' = gs :=
  fits_many1

theorem fits_any {ps : List Pattern} : Fits (.any ps) u w t gs gs' ↔ ∃ p ∈ ps, Fits p u w t gs gs' := by
  fun_induction any ps with
  | case1 =>
      constructor
      · intro h
        cases h with
        | one hc => cases hc
      · rintro ⟨p, hp, -⟩
        cases hp
  | case2 p => simp
  | case3 p ps _ ih =>
      constructor
      · intro h
        cases h with
        | altLeft h => exact ⟨p, List.mem_cons_self, h⟩
        | altRight h =>
            obtain ⟨q, hq, h⟩ := ih.mp h
            exact ⟨q, List.mem_cons_of_mem p hq, h⟩
      · rintro ⟨q, hq, h⟩
        rcases List.mem_cons.mp hq with rfl | hq
        · exact .altLeft h
        · exact .altRight (ih.mpr ⟨q, hq, h⟩)

/-- A keyword with white space after it, before another pattern. -/
theorem fits_word_blanks1 {k : String} {q : Pattern} :
    Fits (.seq (.word k) (.seq .blanks1 q)) u w t gs gs' ↔
      ∃ v b w', w = v ++ (b ++ w') ∧ Spells k v ∧ b ≠ [] ∧ Blanks b ∧ Fits q (u ++ v ++ b) w' t gs gs' := by
  constructor
  · intro h
    obtain ⟨v, _, _, rfl, hword, h⟩ := fits_seq.mp h
    obtain ⟨b, w', _, rfl, hblank, hq⟩ := fits_seq.mp h
    obtain ⟨hv, rfl⟩ := fits_word.mp hword
    obtain ⟨hne, hb, rfl⟩ := fits_blanks1.mp hblank
    exact ⟨v, b, w', rfl, hv, hne, hb, hq⟩
  · rintro ⟨v, b, w', rfl, hv, hne, hb, hq⟩
    exact .seq (fits_word.mpr ⟨hv, rfl⟩) (.seq (fits_blanks1.mpr ⟨hne, hb, rfl⟩) hq)

theorem read_word_blanks1 {α : Type} {k : String} {q : Pattern} {x : List Char} {next : Reading → Option α}
    {a : α} (h : (seq (.word k) (.seq .blanks1 q)).read ⟨.between u x, gs⟩ next = some a) :
    ∃ v b x', x = v ++ (b ++ x') ∧ Spells k v ∧ b ≠ [] ∧ Blanks b ∧
      q.read ⟨.between (u ++ v ++ b) x', gs⟩ next = some a := by
  obtain ⟨v, _, _, rfl, hword, h₁⟩ := (word k).read_sound h
  obtain ⟨b, x', _, rfl, hblank, h₂⟩ := blanks1.read_sound h₁
  obtain ⟨hv, rfl⟩ := fits_word.mp hword
  obtain ⟨hne, hb, rfl⟩ := fits_blanks1.mp hblank
  exact ⟨v, b, x', rfl, hv, hne, hb, h₂⟩

end Pattern

/-! ## Letters with no case beyond ASCII -/

theorem shiftBy_eq_some {runs : List CaseRun} {n m : Nat} (h : shiftBy runs n = some m) :
    ∃ r ∈ runs, r.first ≤ n ∧ n ≤ r.last ∧ m = (n + r.shift).toNat := by
  induction runs with
  | nil => cases h
  | cons r runs ih =>
      rw [shiftBy] at h
      split at h
      · rename_i hr
        cases h
        simp only [Bool.and_eq_true, decide_eq_true_eq] at hr
        exact ⟨r, by simp, hr.1.1, hr.1.2, rfl⟩
      · obtain ⟨r', hr', hm⟩ := ih h
        exact ⟨r', by simp [hr'], hm⟩

/-- Only the Kelvin sign has a lower case in ASCII, the letter `k`. -/
theorem lowerRuns_beyond_ascii : ∀ r ∈ lowerRuns,
    (128 : Int) ≤ r.first + r.shift ∨ (r.first = 8490 ∧ r.last = 8490 ∧ r.shift = -8383) := by
  decide +kernel

theorem ofNat_ne_of_large {m : Nat} {l : Char} (hm : 128 ≤ m) (hl : l.toNat < 128) (h0 : l.toNat ≠ 0) :
    Char.ofNat m ≠ l := by
  rintro rfl
  by_cases hv : m.isValidChar
  · have : (Char.ofNat m).toNat = m := by rw [Char.ofNat, dif_pos hv]; rfl
    omega
  · exact h0 (by simp [Char.ofNat, hv])

theorem of_ascii {P : Char → Prop} (h : ∀ n < 128, P (Char.ofNat n)) {c : Char} (hc : c.toNat < 128) : P c := by
  have hn := h c.toNat hc
  rwa [Char.ofNat_toNat] at hn

/-- A letter of ASCII has its other case there, or it is one of the four letters that have another beyond. -/
theorem caseKey_eq_ascii {c l : Char} (h : caseKey c = l) (hlt : l.toNat < 128) (h0 : l.toNat ≠ 0) :
    c.toNat < 128 ∧ c.toLower = l ∨ c ∈ ['İ', 'ı', 'ſ', '\u212A'] := by
  unfold caseKey at h
  split at h
  · rename_i hc
    exact .inl ⟨hc, h⟩
  · rename_i hc
    right
    split at h
    · rename_i hi
      rcases Bool.or_eq_true_iff.mp hi with hi | hi
      · simp [eq_of_beq hi]
      · simp [eq_of_beq hi]
    · split at h
      · rename_i hs
        simp [eq_of_beq hs]
      · cases hm : shiftBy lowerRuns c.toNat with
        | none =>
            simp only [hm, Option.map_none, Option.getD_none] at h
            exact absurd (h ▸ hlt) hc
        | some m =>
            simp only [hm, Option.map_some, Option.getD_some] at h
            obtain ⟨r, hr, hfirst, hlast, rfl⟩ := shiftBy_eq_some hm
            rcases lowerRuns_beyond_ascii r hr with hbig | ⟨hf, hl, -⟩
            · exact absurd h (ofNat_ne_of_large (by omega) hlt h0)
            · have hn : c.toNat = 8490 := by omega
              rw [← Char.ofNat_toNat c, hn]
              decide

/-- The letters that make up the word `EXEC`. -/
theorem toUpper_eq_of_caseKey_eq {c l : Char} (hl : l ∈ ['e', 'x', 'c']) (h : caseKey c = l) :
    c.toUpper = l.toUpper := by
  have hsmall : ∀ l ∈ ['e', 'x', 'c'], l.toNat < 128 ∧ l.toNat ≠ 0 := by decide
  have hbeyond : ∀ d ∈ ['İ', 'ı', 'ſ', '\u212A'], caseKey d ∉ ['e', 'x', 'c'] := by decide +kernel
  obtain ⟨hlt, h0⟩ := hsmall l hl
  rcases caseKey_eq_ascii h hlt h0 with ⟨hc, hlower⟩ | hc
  · exact of_ascii (P := fun c => ∀ l ∈ ['e', 'x', 'c'], c.toLower = l → c.toUpper = l.toUpper)
      (by decide) hc l hl hlower
  · exact absurd (h ▸ hl) (hbeyond c hc)

/-! ## White space -/

theorem mem_of_inRanges {rs : List (Nat × Nat)} {n : Nat} (h : inRanges rs n = true) :
    ∃ r ∈ rs, r.1 ≤ n ∧ n ≤ r.2 := by
  induction rs with
  | nil => cases h
  | cons r rs ih =>
      rw [inRanges] at h
      split at h
      · cases h
      · rename_i hlo
        rcases Bool.or_eq_true_iff.mp h with hhi | hrest
        · exact ⟨r, by simp, Nat.le_of_not_lt hlo, of_decide_eq_true hhi⟩
        · obtain ⟨r', hr', hn⟩ := ih hrest
          exact ⟨r', by simp [hr'], hn⟩

theorem of_isBlank {P : Char → Prop} (h : ∀ r ∈ blankRanges, ∀ i < r.2 + 1 - r.1, P (Char.ofNat (r.1 + i)))
    {c : Char} (hc : isBlank c = true) : P c := by
  obtain ⟨r, hr, hlo, hhi⟩ := mem_of_inRanges hc
  have hi := h r hr (c.toNat - r.1) (by omega)
  rwa [Nat.add_sub_cancel' hlo, Char.ofNat_toNat] at hi

theorem caseKey_of_isBlank {c : Char} (h : isBlank c = true) : caseKey c = c :=
  of_isBlank (P := fun c => caseKey c = c) (by decide +kernel) h

/-- A keyword of letters starts with a character that is no white space. -/
theorem Spells.starts {k : String} {w : List Char} (h : Spells k w) (hne : k.toList ≠ [])
    (hkeys : ∀ d ∈ k.toList.map caseKey, isBlank d = false) : ∃ c w', w = c :: w' ∧ isBlank c = false := by
  cases w with
  | nil => exact absurd h.length_eq.symm (by simpa using hne)
  | cons c w =>
      refine ⟨c, w, rfl, ?_⟩
      rw [Bool.eq_false_iff]
      intro hc
      have hmem : caseKey c ∈ k.toList.map caseKey := h ▸ List.mem_map_of_mem List.mem_cons_self
      rw [caseKey_of_isBlank hc] at hmem
      simp [hkeys c hmem] at hc

end EsqlAudit.Text
