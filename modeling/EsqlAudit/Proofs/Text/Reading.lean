import EsqlAudit.Text.Pattern

/-!
# Readings of a pattern

`Fits p u w t` says that in the text `u ++ w ++ t` the pattern `p` can take `w`. The relation forgets which
reading is preferred. A search finds one of its readings (`read_sound`) and finds one whenever there is one
(`read_complete`).
-/

namespace EsqlAudit.Text

/-- The place after the text `u` and before the text `t`. -/
def Place.between (u t : List Char) : Place :=
  ⟨u.getLast?, u.length, t⟩

theorem Place.between_concat (u : List Char) (c : Char) (t : List Char) :
    (⟨some c, u.length + 1, t⟩ : Place) = Place.between (u ++ [c]) t := by
  simp [Place.between]

/-! ## Fitting -/

/-- The pattern can take `w` after `u` and before `t`, and adds to the groups remembered before. -/
inductive Pattern.Fits : Pattern → List Char → List Char → List Char → List (Nat × Span) →
    List (Nat × Span) → Prop where
  | empty {u t gs} : Fits .empty u [] t gs gs
  | one {cls u c t gs} : cls c = true → Fits (.one cls) u [c] t gs gs
  | greedy {cls u w t gs} : (∀ c ∈ w, cls c = true) → Fits (.greedy cls) u w t gs gs
  | lazy {cls u w t gs} : (∀ c ∈ w, cls c = true) → Fits (.lazy cls) u w t gs gs
  | seq {p q u v w t gs gs₁ gs₂} :
      Fits p u v (w ++ t) gs gs₁ → Fits q (u ++ v) w t gs₁ gs₂ → Fits (.seq p q) u (v ++ w) t gs gs₂
  | altLeft {p q u w t gs gs'} : Fits p u w t gs gs' → Fits (.alt p q) u w t gs gs'
  | altRight {p q u w t gs gs'} : Fits q u w t gs gs' → Fits (.alt p q) u w t gs gs'
  | group {n p u w t gs gs'} : Fits p u w t gs gs' →
      Fits (.group n p) u w t gs ((n, ⟨u.length, (u ++ w).length⟩) :: gs')
  | wordEdge {u t gs} : (Place.between u t).isWordEdge = true → Fits .wordEdge u [] t gs gs
  | lineStart {u t gs} : (Place.between u t).isLineStart = true → Fits .lineStart u [] t gs gs
  | lineEnd {u t gs} : (Place.between u t).isLineEnd = true → Fits .lineEnd u [] t gs gs

/-! ## Runs of a class -/

section Runs

variable {α : Type} {cls : Char → Bool} {gs : List (Nat × Span)} {next : Reading → Option α} {a : α}

theorem greedyRun_eq_some (u x : List Char)
    (h : greedyRun cls gs next u.getLast? u.length x = some a) :
    ∃ w t, x = w ++ t ∧ (∀ c ∈ w, cls c = true) ∧ next ⟨.between (u ++ w) t, gs⟩ = some a := by
  induction x generalizing u with
  | nil => exact ⟨[], [], rfl, by simp, by simpa [greedyRun, Place.between] using h⟩
  | cons c x ih =>
      have here : next ⟨.between u (c :: x), gs⟩ = some a →
          ∃ w t, c :: x = w ++ t ∧ (∀ d ∈ w, cls d = true) ∧ next ⟨.between (u ++ w) t, gs⟩ = some a :=
        fun hn => ⟨[], c :: x, rfl, by simp, by simpa using hn⟩
      rw [greedyRun] at h
      split at h
      · rename_i hc
        split at h
        · rename_i b hb
          cases h
          obtain ⟨w, t, rfl, hw, hn⟩ := ih (u ++ [c]) (by simpa using hb)
          exact ⟨c :: w, t, rfl, by simpa using ⟨hc, hw⟩, by simpa using hn⟩
        · exact here h
      · exact here h

theorem greedyRun_isSome (u w t : List Char) (hw : ∀ c ∈ w, cls c = true)
    (hn : (next ⟨.between (u ++ w) t, gs⟩).isSome) :
    (greedyRun cls gs next u.getLast? u.length (w ++ t)).isSome := by
  induction w generalizing u with
  | nil =>
      rw [List.append_nil] at hn
      cases t with
      | nil => exact hn
      | cons c t =>
          rw [List.nil_append, greedyRun]
          split
          · split
            · rfl
            · exact hn
          · exact hn
  | cons c w ih =>
      have hrest := ih (u ++ [c]) (fun d hd => hw d (by simp [hd])) (by simpa using hn)
      rw [List.cons_append, greedyRun, if_pos (hw c (by simp))]
      split
      · rfl
      · rename_i hnone
        simp [hnone] at hrest

/-- A greedy run takes as much as possible where what follows allows it. -/
theorem greedyRun_longest (u x : List Char)
    (h : next ⟨.between (u ++ x.takeWhile cls) (x.dropWhile cls), gs⟩ = some a) :
    greedyRun cls gs next u.getLast? u.length x = some a := by
  induction x generalizing u with
  | nil => simpa [greedyRun, Place.between] using h
  | cons c x ih =>
      rw [greedyRun]
      split
      · rename_i hc
        have hrest := ih (u ++ [c]) (by simpa [hc] using h)
        rw [List.getLast?_concat, List.length_append, List.length_singleton] at hrest
        rw [hrest]
      · rename_i hc
        simpa [hc, Place.between] using h

/-- A lazy run takes as little as possible: what follows fails after every shorter run. -/
theorem lazyRun_eq_some (u x : List Char)
    (h : lazyRun cls gs next u.getLast? u.length x = some a) :
    ∃ w t, x = w ++ t ∧ (∀ c ∈ w, cls c = true) ∧ next ⟨.between (u ++ w) t, gs⟩ = some a ∧
      ∀ v c v', w = v ++ c :: v' → next ⟨.between (u ++ v) (c :: v' ++ t), gs⟩ = none := by
  induction x generalizing u with
  | nil => exact ⟨[], [], rfl, by simp, by simpa [lazyRun, Place.between] using h, by simp⟩
  | cons c x ih =>
      rw [lazyRun] at h
      split at h
      · rename_i b hb
        cases h
        exact ⟨[], c :: x, rfl, by simp, by simpa [Place.between] using hb, by simp⟩
      · rename_i hnone
        split at h
        · rename_i hc
          obtain ⟨w, t, rfl, hw, hn, hleast⟩ := ih (u ++ [c]) (by simpa using h)
          refine ⟨c :: w, t, rfl, by simpa using ⟨hc, hw⟩, by simpa using hn, ?_⟩
          intro v d v' hv
          cases v with
          | nil =>
              obtain ⟨rfl, rfl⟩ := List.cons.inj hv
              simpa [Place.between] using hnone
          | cons e v =>
              obtain ⟨rfl, hw'⟩ := List.cons.inj hv
              simpa using hleast v d v' hw'
        · cases h

theorem lazyRun_isSome (u w t : List Char) (hw : ∀ c ∈ w, cls c = true)
    (hn : (next ⟨.between (u ++ w) t, gs⟩).isSome) :
    (lazyRun cls gs next u.getLast? u.length (w ++ t)).isSome := by
  induction w generalizing u with
  | nil =>
      rw [List.append_nil] at hn
      cases t with
      | nil => exact hn
      | cons c t =>
          rw [List.nil_append, lazyRun]
          split
          · rfl
          · rename_i hnone
            simp [show next ⟨.between u (c :: t), gs⟩ = none from hnone] at hn
  | cons c w ih =>
      have hrest := ih (u ++ [c]) (fun d hd => hw d (by simp [hd])) (by simpa using hn)
      rw [List.cons_append, lazyRun]
      split
      · rfl
      · rw [if_pos (hw c (by simp))]
        simpa using hrest

end Runs

/-! ## Searching and fitting -/

namespace Pattern

variable {α : Type}

/-- What a search finds fits. -/
theorem read_sound (p : Pattern) {u x : List Char} {gs : List (Nat × Span)}
    {next : Reading → Option α} {a : α} (h : p.read ⟨.between u x, gs⟩ next = some a) :
    ∃ w t gs', x = w ++ t ∧ Fits p u w t gs gs' ∧ next ⟨.between (u ++ w) t, gs'⟩ = some a := by
  induction p generalizing u x gs next with
  | empty => exact ⟨[], x, gs, rfl, .empty, by simpa [read] using h⟩
  | one cls =>
      cases x with
      | nil => simp [read, Place.between] at h
      | cons c x =>
          simp only [read, Place.between] at h
          split at h
          · rename_i hc
            rw [Place.between_concat] at h
            exact ⟨[c], x, gs, rfl, .one hc, h⟩
          · cases h
  | greedy cls =>
      obtain ⟨w, t, rfl, hw, hn⟩ := greedyRun_eq_some u x h
      exact ⟨w, t, gs, rfl, .greedy hw, hn⟩
  | lazy cls =>
      obtain ⟨w, t, rfl, hw, hn, _⟩ := lazyRun_eq_some u x h
      exact ⟨w, t, gs, rfl, .lazy hw, hn⟩
  | seq p q ihp ihq =>
      obtain ⟨v, _, gs₁, rfl, hp, hq⟩ := ihp h
      obtain ⟨w, t, gs₂, rfl, hq, hn⟩ := ihq hq
      exact ⟨v ++ w, t, gs₂, by simp, .seq hp hq, by simpa using hn⟩
  | alt p q ihp ihq =>
      rw [read] at h
      split at h
      · rename_i b hb
        cases h
        obtain ⟨w, t, gs', rfl, hp, hn⟩ := ihp hb
        exact ⟨w, t, gs', rfl, .altLeft hp, hn⟩
      · obtain ⟨w, t, gs', rfl, hq, hn⟩ := ihq h
        exact ⟨w, t, gs', rfl, .altRight hq, hn⟩
  | group n p ih =>
      obtain ⟨w, t, gs', rfl, hp, hn⟩ := ih h
      exact ⟨w, t, _, rfl, .group hp, hn⟩
  | wordEdge =>
      rw [read] at h
      split at h
      · exact ⟨[], x, gs, rfl, .wordEdge ‹_›, by simpa using h⟩
      · cases h
  | lineStart =>
      rw [read] at h
      split at h
      · exact ⟨[], x, gs, rfl, .lineStart ‹_›, by simpa using h⟩
      · cases h
  | lineEnd =>
      rw [read] at h
      split at h
      · exact ⟨[], x, gs, rfl, .lineEnd ‹_›, by simpa using h⟩
      · cases h

theorem read_seq {p q : Pattern} {u x : List Char} {gs : List (Nat × Span)} {next : Reading → Option α} {a : α}
    (h : (seq p q).read ⟨.between u x, gs⟩ next = some a) :
    ∃ w t gs', x = w ++ t ∧ Fits p u w t gs gs' ∧ q.read ⟨.between (u ++ w) t, gs'⟩ next = some a :=
  p.read_sound h

/-- A lazy group is as short as what follows allows. -/
theorem read_group_lazy {n : Nat} {cls : Char → Bool} {u x : List Char} {gs : List (Nat × Span)}
    {next : Reading → Option α} {a : α} (h : (group n (lazy cls)).read ⟨.between u x, gs⟩ next = some a) :
    ∃ w t, x = w ++ t ∧ (∀ c ∈ w, cls c = true) ∧
      next ⟨.between (u ++ w) t, (n, ⟨u.length, (u ++ w).length⟩) :: gs⟩ = some a ∧
      ∀ v c v', w = v ++ c :: v' →
        next ⟨.between (u ++ v) (c :: v' ++ t), (n, ⟨u.length, (u ++ v).length⟩) :: gs⟩ = none :=
  lazyRun_eq_some u x h

/-- Where a reading fits and what follows succeeds, a search finds something. -/
theorem read_complete {p : Pattern} {u w t : List Char} {gs gs' : List (Nat × Span)}
    (h : Fits p u w t gs gs') {next : Reading → Option α}
    (hn : (next ⟨.between (u ++ w) t, gs'⟩).isSome) :
    (p.read ⟨.between u (w ++ t), gs⟩ next).isSome := by
  induction h generalizing next with
  | empty => simpa [read] using hn
  | one hc =>
      simp only [List.cons_append, List.nil_append, read, Place.between, hc, ↓reduceIte,
        Place.between_concat]
      exact hn
  | greedy hw => exact greedyRun_isSome _ _ _ hw hn
  | lazy hw => exact lazyRun_isSome _ _ _ hw hn
  | seq _ _ ihp ihq =>
      rw [List.append_assoc]
      refine ihp ?_
      exact ihq (by simpa using hn)
  | altLeft _ ih =>
      rw [read]
      split
      · rfl
      · rename_i hnone
        have := ih hn
        simp [hnone] at this
  | altRight _ ih =>
      rw [read]
      split
      · rfl
      · exact ih hn
  | group _ ih => exact ih hn
  | wordEdge he => simpa [read, he] using hn
  | lineStart he => simpa [read, he] using hn
  | lineEnd he => simpa [read, he] using hn

end Pattern

end EsqlAudit.Text
