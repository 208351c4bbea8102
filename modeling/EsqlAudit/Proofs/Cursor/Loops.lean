import EsqlAudit.Cursor.Loop
import EsqlAudit.Proofs.Text.Occurrences

/-!
# Loops around a position

The loop given for a position starts at the last loop head before it. Whether it goes on up to the position is
decided by the braces between the two: it does as long as none of them closes what has been opened since the head.
-/

namespace EsqlAudit.Cursor
open Text

/-! ## Closing braces -/

section Braces

variable {depth : Int} {opened : Bool} {pos k : Nat} {c : Char} {s t : List Char}

theorem closingBrace?_open : closingBrace? depth opened pos ('\x7b' :: s) =
    closingBrace? (depth + 1) true (pos + 1) s :=
  rfl

theorem closingBrace?_shut : closingBrace? depth opened pos ('\x7d' :: s) =
    if opened = true ∧ depth = 1 then some pos else closingBrace? (depth - 1) opened (pos + 1) s := by
  have hone : depth - 1 = 0 ↔ depth = 1 := by omega
  simp [closingBrace?, hone]

theorem closingBrace?_other (hopen : c ≠ '\x7b') (hshut : c ≠ '\x7d') :
    closingBrace? depth opened pos (c :: s) = closingBrace? depth opened (pos + 1) s := by
  simp [closingBrace?, hopen, hshut]

theorem closingBrace?_bounds (h : closingBrace? depth opened pos s = some k) : pos ≤ k ∧ k < pos + s.length := by
  induction s generalizing depth opened pos with
  | nil => cases h
  | cons c s ih =>
      have hrest : ∀ {depth' : Int} {opened' : Bool}, closingBrace? depth' opened' (pos + 1) s = some k →
          pos ≤ k ∧ k < pos + (c :: s).length := by
        intro depth' opened' h
        obtain ⟨hle, hlt⟩ := ih h
        rw [List.length_cons]
        omega
      by_cases hopen : c = '\x7b'
      · subst hopen
        exact hrest h
      · by_cases hshut : c = '\x7d'
        · subst hshut
          rw [closingBrace?_shut] at h
          split at h
          · cases h
            simp
          · exact hrest h
        · rw [closingBrace?_other hopen hshut] at h
          exact hrest h

/-- The brace that closes is looked for in the first part, then in the second from where the first has led. -/
theorem closingBrace?_append (depth : Int) (opened : Bool) (pos : Nat) (s t : List Char) :
    ∃ depth' opened', closingBrace? depth opened pos (s ++ t) =
      (closingBrace? depth opened pos s).or (closingBrace? depth' opened' (pos + s.length) t) := by
  induction s generalizing depth opened pos with
  | nil => exact ⟨depth, opened, rfl⟩
  | cons c s ih =>
      have hpos : pos + (c :: s).length = pos + 1 + s.length := by
        rw [List.length_cons]
        omega
      rw [List.cons_append, hpos]
      by_cases hopen : c = '\x7b'
      · subst hopen
        exact ih ..
      · by_cases hshut : c = '\x7d'
        · subst hshut
          rw [closingBrace?_shut, closingBrace?_shut]
          split
          · exact ⟨0, true, rfl⟩
          · exact ih ..
        · rw [closingBrace?_other hopen hshut, closingBrace?_other hopen hshut]
          exact ih ..

/-- No brace closes: before each closing brace, none has been opened or not all but one are closed. -/
theorem closingBrace?_eq_none_iff : closingBrace? depth opened pos s = none ↔
    ∀ q r, s = q ++ '\x7d' :: r → (opened = true ∨ '\x7b' ∈ q) → depth + q.count '\x7b' ≠ q.count '\x7d' + 1 := by
  induction s generalizing depth opened pos with
  | nil => simp [closingBrace?]
  | cons c s ih =>
      have hsplit : ∀ P : List Char → Prop, (∀ q r, c :: s = q ++ '\x7d' :: r → P q) ↔
          (c = '\x7d' → P []) ∧ ∀ q r, s = q ++ '\x7d' :: r → P (c :: q) := by
        intro P
        constructor
        · intro h
          exact ⟨fun hc => h [] s (by rw [hc]; rfl), fun q r hs => h (c :: q) r (by rw [hs]; rfl)⟩
        · rintro ⟨hnil, hcons⟩ q r hs
          cases q with
          | nil => exact hnil (List.cons.inj hs).1
          | cons d q =>
              obtain ⟨rfl, hrest⟩ := List.cons.inj hs
              exact hcons q r hrest
      rw [hsplit fun q => (opened = true ∨ '\x7b' ∈ q) → depth + q.count '\x7b' ≠ q.count '\x7d' + 1]
      by_cases hopen : c = '\x7b'
      · subst hopen
        rw [closingBrace?_open, ih]
        grind
      · by_cases hshut : c = '\x7d'
        · subst hshut
          rw [closingBrace?_shut]
          split
          · grind
          · rw [ih]
            grind
        · rw [closingBrace?_other hopen hshut, ih]
          grind

/-- The last character closes the braces of the text: some brace was opened, and now as many are closed. -/
def Shuts (s : List Char) : Prop :=
  s.getLast? = some '\x7d' ∧ '\x7b' ∈ s ∧ s.count '\x7b' = s.count '\x7d'

/-- The braces of a text are not closed, neither at its end nor before it. -/
def StillOpen (s : List Char) : Prop :=
  ∀ q, q <+: s → ¬ Shuts q

theorem shuts_concat {q : List Char} : Shuts (q ++ ['\x7d']) ↔ '\x7b' ∈ q ∧ q.count '\x7b' = q.count '\x7d' + 1 := by
  simp [Shuts]

theorem stillOpen_iff (pos : Nat) : StillOpen s ↔ closingBrace? 0 false pos s = none := by
  rw [closingBrace?_eq_none_iff]
  constructor
  · intro h q r hs hopened hcount
    refine h (q ++ ['\x7d']) ⟨r, by simp [hs]⟩ (shuts_concat.mpr ⟨by simpa using hopened, by omega⟩)
  · rintro h q' ⟨r, hr⟩ hshuts
    obtain ⟨q, rfl⟩ := List.getLast?_eq_some_iff.mp hshuts.1
    obtain ⟨hopened, hcount⟩ := shuts_concat.mp hshuts
    exact h q r (by simp [← hr]) (.inr hopened) (by omega)

end Braces

/-! ## The last loop head -/

theorem greatest?_eq_some {positions : List Nat} {n : Nat} (h : greatest? positions = some n) :
    n ∈ positions ∧ ∀ m ∈ positions, m ≤ n := by
  -- The greatest of `b :: m :: positions` is by definition that of `max b m :: positions`.
  have hfrom : ∀ (positions : List Nat) (b : Nat), greatest? (b :: positions) = some n →
      n ∈ b :: positions ∧ ∀ m ∈ b :: positions, m ≤ n := by
    intro positions
    induction positions with
    | nil =>
        intro b h
        cases h
        simp
    | cons m positions ih =>
        intro b h
        obtain ⟨hmem, hmax⟩ := ih (max b m) h
        have hgreater : max b m ≤ n := hmax _ List.mem_cons_self
        constructor
        · rcases List.mem_cons.mp hmem with rfl | hmem
          · rcases Nat.le_total b m with hle | hle <;> simp [hle]
          · exact List.mem_cons_of_mem b (List.mem_cons_of_mem m hmem)
        · intro k hk
          rcases List.mem_cons.mp hk with rfl | hk
          · omega
          · rcases List.mem_cons.mp hk with rfl | hk
            · omega
            · exact hmax k (List.mem_cons_of_mem _ hk)
  cases positions with
  | nil => cases h
  | cons m positions => exact hfrom positions m h

/-- The positions of the loop heads in a text whose first character is at position `first`. -/
def headsFrom (first : Nat) (text : List Char) : List Nat :=
  loopPatterns.flatMap fun p => (p.findAll text).map fun o => first + o.span.start

theorem lt_of_mem_headsFrom {first n : Nat} {text : List Char} (h : n ∈ headsFrom first text) :
    n < first + text.length := by
  obtain ⟨p, -, h⟩ := List.mem_flatMap.mp h
  obtain ⟨o, ho, rfl⟩ := List.mem_map.mp h
  obtain ⟨v, w, t, rfl, hw, -, hspan⟩ := (Pattern.scans_findAll p text).mem ho
  have hw := List.length_pos_iff.mpr hw
  simp only [hspan, List.nil_append, List.length_append]
  omega

theorem greatest?_heads {first start : Nat} {text : List Char}
    (h : greatest? (loopPatterns.flatMap fun p => (p.findAll text).map (·.span.start)) = some start) :
    first + start ∈ headsFrom first text ∧ ∀ n ∈ headsFrom first text, n ≤ first + start := by
  obtain ⟨hmem, hmax⟩ := greatest?_eq_some h
  constructor
  · obtain ⟨p, hp, hstart⟩ := List.mem_flatMap.mp hmem
    obtain ⟨o, ho, rfl⟩ := List.mem_map.mp hstart
    exact List.mem_flatMap.mpr ⟨p, hp, List.mem_map.mpr ⟨o, ho, rfl⟩⟩
  · intro n hn
    obtain ⟨p, hp, hn⟩ := List.mem_flatMap.mp hn
    obtain ⟨o, ho, rfl⟩ := List.mem_map.mp hn
    have hle := hmax o.span.start (List.mem_flatMap.mpr ⟨p, hp, List.mem_map.mpr ⟨o, ho, rfl⟩⟩)
    omega

variable {source : List Char} {pos : Nat} {loop : Span}

/-- The positions of the loop heads that are looked at for a position. -/
def headsBefore (source : List Char) (pos : Nat) : List Nat :=
  headsFrom (pos - loopReach) (slice source (pos - loopReach) pos)

theorem lt_of_mem_headsBefore (hpos : pos ≤ source.length) {n : Nat} (h : n ∈ headsBefore source pos) : n < pos := by
  have hlt := lt_of_mem_headsFrom h
  simp only [slice, List.length_take, List.length_drop] at hlt
  omega

/-- The loop starts at the last head and ends at the brace that closes it. -/
theorem of_enclosingLoop? (hpos : pos ≤ source.length) (h : enclosingLoop? source pos = some loop) :
    (loop.start ∈ headsBefore source pos ∧ ∀ n ∈ headsBefore source pos, n ≤ loop.start) ∧
      loop.stop = (closingBrace? 0 false loop.start (source.drop loop.start)).getD source.length := by
  have hfirst : ((pos : Int) - loopReach).toNat = pos - loopReach := by omega
  have hposition : position source pos = pos := by
    rw [position, if_neg (by omega)]
    exact Nat.min_eq_left hpos
  simp only [enclosingLoop?, hfirst, hposition] at h
  obtain ⟨start, hstart, rfl⟩ := Option.map_eq_some_iff.mp h
  exact ⟨greatest?_heads hstart, rfl⟩

/-! ## Enclosing a position -/

theorem le_stop_iff (hpos : pos ≤ source.length) {start : Nat} (hstart : start ≤ pos) :
    pos ≤ (closingBrace? 0 false start (source.drop start)).getD source.length ↔
      StillOpen (slice source start pos) := by
  have hdrop : source.drop start = slice source start pos ++ source.drop pos := by
    have hboth := List.take_append_drop (pos - start) (source.drop start)
    rw [List.drop_drop, Nat.add_sub_cancel' hstart] at hboth
    exact hboth.symm
  have hlength : start + (slice source start pos).length = pos := by
    simp only [slice, List.length_take, List.length_drop]
    omega
  obtain ⟨depth, opened, happend⟩ := closingBrace?_append 0 false start (slice source start pos) (source.drop pos)
  rw [stillOpen_iff start, hdrop, happend, hlength]
  cases hbefore : closingBrace? 0 false start (slice source start pos) with
  | some k =>
      have hlt := (closingBrace?_bounds hbefore).2
      rw [hlength] at hlt
      simpa using hlt
  | none =>
      cases hafter : closingBrace? depth opened pos (source.drop pos) with
      | some k => simpa using (closingBrace?_bounds hafter).1
      | none => simpa using hpos

/-- The loop given for a position starts before it, at the last loop head in reach. It goes on up to the position
if and only if the braces opened since the head have not been closed before the position. -/
theorem loop_encloses_iff (hpos : pos ≤ source.length) (h : enclosingLoop? source pos = some loop) :
    (loop.start ∈ headsBefore source pos ∧ ∀ n ∈ headsBefore source pos, n ≤ loop.start) ∧
      loop.start < pos ∧ (pos ≤ loop.stop ↔ StillOpen (slice source loop.start pos)) := by
  obtain ⟨hlast, hstop⟩ := of_enclosingLoop? hpos h
  have hlt := lt_of_mem_headsBefore hpos hlast.1
  rw [hstop]
  exact ⟨hlast, hlt, le_stop_iff hpos (Nat.le_of_lt hlt)⟩

/-- A block that is closed within the loop leaves the loop open. -/
theorem loop_encloses_iff_inner_block :
    let source := "while(a)\x7bif(b)\x7b\x7dx\x7d".toList
    (16 ≤ source.length ∧ enclosingLoop? source (16 : Nat) = some ⟨0, 17⟩) ∧ StillOpen (slice source 0 16) := by
  intro source
  have hlength : 16 ≤ source.length := by decide
  have hloop : enclosingLoop? source (16 : Nat) = some ⟨0, 17⟩ := by decide +kernel
  obtain ⟨-, -, hiff⟩ := loop_encloses_iff hlength hloop
  exact ⟨⟨hlength, hloop⟩, hiff.mp (by decide)⟩

/-- A loop that is closed before the position is given all the same. -/
theorem loop_closed_before :
    ∃ loop, enclosingLoop? "while(1)\x7b\x7dx".toList (10 : Nat) = some loop ∧
      ¬ (loop.start < 10 ∧ 10 ≤ loop.stop) :=
  ⟨⟨0, 9⟩, by decide +kernel, by decide⟩

end EsqlAudit.Cursor
