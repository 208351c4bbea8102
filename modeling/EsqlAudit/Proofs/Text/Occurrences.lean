import EsqlAudit.Proofs.Text.Reading
import EsqlAudit.Text.Search

/-!
# Occurrences of a pattern

`Scans p u t os` follows a search for all occurrences through the text `t` after the text `u`: a character
is passed, or an occurrence is taken. Order, coverage and absence of occurrences are read off it. A search for one
occurrence gives the first of them, unless the pattern may take nothing.
-/

namespace EsqlAudit.Text

namespace Pattern

variable {p : Pattern} {u w t : List Char} {o : Occurrence} {os : List Occurrence}

/-! ## The occurrence at a place -/

theorem at?_sound {x : List Char} (h : p.at? (.between u x) = some o) :
    ∃ w t, x = w ++ t ∧ Fits p u w t [] o.groups ∧ o.span = ⟨u.length, (u ++ w).length⟩ := by
  obtain ⟨w, t, gs, rfl, hf, ho⟩ := p.read_sound h
  cases ho
  exact ⟨w, t, rfl, hf, rfl⟩

theorem at?_complete {gs : List (Nat × Span)} (h : Fits p u w t [] gs) :
    ∃ o, p.at? (.between u (w ++ t)) = some o :=
  Option.isSome_iff_exists.mp (read_complete h rfl)

/-! ## Steps of a search -/

theorem findAllFrom_skip (p : Pattern) (u w t : List Char) (n : Nat) :
    p.findAllFrom u.getLast? u.length (w.length + n) (w ++ t) =
      p.findAllFrom (u ++ w).getLast? (u ++ w).length n t := by
  induction w generalizing u with
  | nil => simp
  | cons c w ih =>
      have hrest := ih (u ++ [c])
      rw [List.length_cons, show w.length + 1 + n = w.length + n + 1 by omega, List.cons_append, findAllFrom]
      simpa using hrest

/-- A character at which nothing is taken is passed. -/
theorem findAllFrom_pass {c : Char}
    (h : ∀ o, p.at? (.between u (c :: t)) = some o → o.span.stop ≤ u.length) :
    p.findAllFrom u.getLast? u.length 0 (c :: t) =
      p.findAllFrom (u ++ [c]).getLast? (u ++ [c]).length 0 t := by
  rw [findAllFrom, List.getLast?_concat, List.length_append, List.length_singleton]
  split
  · rename_i o ho
    rw [if_neg (Nat.not_lt.mpr (h o ho))]
  · rfl

/-- An occurrence is taken, and what it takes after its first part is skipped. -/
theorem findAllFrom_take_part {r : List Char} (h : p.at? (.between u (w ++ t)) = some o) (hw : w ≠ [])
    (hspan : o.span = ⟨u.length, (u ++ (w ++ r)).length⟩) :
    p.findAllFrom u.getLast? u.length 0 (w ++ t) =
      o :: p.findAllFrom (u ++ w).getLast? (u ++ w).length r.length t := by
  cases w with
  | nil => exact absurd rfl hw
  | cons c w =>
      have hlt : u.length < o.span.stop := by simp [hspan]
      have hskip : o.span.stop - u.length - 1 = w.length + r.length := by simp [hspan]
      have hmove := findAllFrom_skip p (u ++ [c]) w t r.length
      rw [List.getLast?_concat, List.length_append, List.length_singleton, List.append_assoc,
        List.singleton_append] at hmove
      rw [List.cons_append] at h ⊢
      rw [findAllFrom, show p.at? ⟨u.getLast?, u.length, c :: (w ++ t)⟩ = some o from h]
      simp only [hlt, ↓reduceIte, hskip, hmove]

/-- An occurrence is taken as a whole. -/
theorem findAllFrom_take (h : p.at? (.between u (w ++ t)) = some o) (hw : w ≠ [])
    (hspan : o.span = ⟨u.length, (u ++ w).length⟩) :
    p.findAllFrom u.getLast? u.length 0 (w ++ t) =
      o :: p.findAllFrom (u ++ w).getLast? (u ++ w).length 0 t :=
  findAllFrom_take_part (r := []) h hw (by rwa [List.append_nil])

/-- A text in which nothing is taken is passed. -/
theorem findAllFrom_pass_all
    (h : ∀ v c v', w = v ++ c :: v' → p.at? (.between (u ++ v) (c :: v' ++ t)) = none) :
    p.findAllFrom u.getLast? u.length 0 (w ++ t) =
      p.findAllFrom (u ++ w).getLast? (u ++ w).length 0 t := by
  induction w generalizing u with
  | nil => simp
  | cons c w ih =>
      have hhere := h [] c w rfl
      rw [List.append_nil] at hhere
      rw [List.cons_append, findAllFrom_pass (fun o ho => by simp_all), ih ?_]
      · simp
      · intro v d v' hv
        simpa using h (c :: v) d v' (by simp [hv])

/-! ## Scanning -/

/-- The search for all occurrences in `t`, after `u` has been passed, gives `os`. -/
inductive Scans (p : Pattern) : List Char → List Char → List Occurrence → Prop where
  | nil {u : List Char} : Scans p u [] []
  | pass {u t : List Char} {c : Char} {os : List Occurrence} :
      (∀ o, p.at? (.between u (c :: t)) = some o → o.span.stop ≤ u.length) →
      Scans p (u ++ [c]) t os → Scans p u (c :: t) os
  | take {u w t : List Char} {o : Occurrence} {os : List Occurrence} :
      p.at? (.between u (w ++ t)) = some o → w ≠ [] →
      o.span = ⟨u.length, (u ++ w).length⟩ → Scans p (u ++ w) t os → Scans p u (w ++ t) (o :: os)

theorem scans_findAllFrom (p : Pattern) (u t : List Char) :
    Scans p u t (p.findAllFrom u.getLast? u.length 0 t) := by
  match t with
  | [] => exact .nil
  | c :: t =>
      by_cases h : ∀ o, p.at? (.between u (c :: t)) = some o → o.span.stop ≤ u.length
      · rw [findAllFrom_pass h]
        exact .pass h (scans_findAllFrom p (u ++ [c]) t)
      · simp only [Classical.not_forall, Nat.not_le] at h
        obtain ⟨o, ho, hlt⟩ := h
        obtain ⟨w, t', hx, _, hspan⟩ := at?_sound ho
        have hw : w ≠ [] := by
          rintro rfl
          simp [hspan] at hlt
        have hlen : t'.length < (c :: t).length := by
          have := List.length_pos_iff.mpr hw
          rw [hx, List.length_append]
          omega
        rw [hx] at ho ⊢
        rw [findAllFrom_take ho hw hspan]
        exact .take ho hw hspan (scans_findAllFrom p (u ++ w) t')
termination_by t.length
decreasing_by
  · exact Nat.lt_succ_self _
  · exact hlen

theorem scans_findAll (p : Pattern) (s : List Char) : Scans p [] s (p.findAll s) :=
  scans_findAllFrom p [] s

/-! ## What a scan finds -/

theorem Scans.mem (h : Scans p u t os) (ho : o ∈ os) :
    ∃ v w t', t = v ++ (w ++ t') ∧ w ≠ [] ∧ p.at? (.between (u ++ v) (w ++ t')) = some o ∧
      o.span = ⟨(u ++ v).length, (u ++ v ++ w).length⟩ := by
  induction h with
  | nil => cases ho
  | @pass u t c os _ _ ih =>
      obtain ⟨v, w, t', rfl, hw, hat, hspan⟩ := ih ho
      exact ⟨c :: v, w, t', rfl, hw, by simpa using hat, by simpa using hspan⟩
  | @take u w₁ t o₁ os hat hw hspan _ ih =>
      rcases List.mem_cons.mp ho with rfl | ho
      · exact ⟨[], w₁, t, rfl, hw, by simpa using hat, by simpa using hspan⟩
      · obtain ⟨v, w, t', rfl, hw, hat, hspan⟩ := ih ho
        exact ⟨w₁ ++ v, w, t', by simp, hw, by simpa using hat, by simpa using hspan⟩

/-- The occurrences stand in the order of the text. -/
theorem Scans.ordered (h : Scans p u t os) : os.Pairwise fun a b => a.span.start < b.span.start := by
  induction h with
  | nil => exact .nil
  | pass _ _ ih => exact ih
  | @take u w t o os _ hw hspan hrest ih =>
      refine .cons (fun o' ho' => ?_) ih
      obtain ⟨v, _, _, _, _, _, hspan'⟩ := hrest.mem ho'
      have hpos := List.length_pos_iff.mpr hw
      simp only [hspan, hspan', List.length_append]
      omega

/-- A place where the pattern takes something lies in an occurrence that is found. -/
theorem Scans.covers (h : Scans p u t os) {v x : List Char} (hx : t = v ++ x)
    (ho : p.at? (.between (u ++ v) x) = some o) (hlt : (u ++ v).length < o.span.stop) :
    ∃ o' ∈ os, o'.span.start ≤ (u ++ v).length ∧ (u ++ v).length < o'.span.stop := by
  induction h generalizing v with
  | @nil u =>
      obtain ⟨rfl, rfl⟩ := List.append_eq_nil_iff.mp hx.symm
      obtain ⟨w, t', hw, _, hspan⟩ := at?_sound ho
      obtain ⟨rfl, _⟩ := List.append_eq_nil_iff.mp hw.symm
      simp [hspan] at hlt
  | @pass u t c os hnone _ ih =>
      cases v with
      | nil =>
          subst hx
          have := hnone o (by simpa using ho)
          simp at hlt
          omega
      | cons d v =>
          obtain ⟨rfl, rfl⟩ := List.cons.inj hx
          simpa using ih rfl (by simpa using ho) (by simpa using hlt)
  | @take u w t o₁ os _ _ hspan _ ih =>
      by_cases hv : v.length < w.length
      · exact ⟨o₁, by simp, by simp [hspan], by simpa [hspan] using hv⟩
      · obtain ⟨v', rfl, rfl⟩ : ∃ v', v = w ++ v' ∧ t = v' ++ x := by
          rcases List.append_eq_append_iff.mp hx with ⟨a, rfl, rfl⟩ | ⟨a, rfl, rfl⟩
          · exact ⟨a, rfl, rfl⟩
          · have : a = [] := by simpa using hv
            subst this
            exact ⟨[], by simp, by simp⟩
        obtain ⟨o', ho', hcover⟩ := ih rfl (by simpa using ho) (by simpa using hlt)
        exact ⟨o', by simp [ho'], by simpa using hcover⟩

/-- Nothing is found exactly when the pattern takes nothing anywhere. -/
theorem findAll_eq_nil_iff {s : List Char} :
    p.findAll s = [] ↔ ∀ v x o, s = v ++ x → p.at? (.between v x) = some o → o.span.stop ≤ v.length := by
  constructor
  · intro h v x o hs ho
    refine Nat.le_of_not_lt fun hlt => ?_
    obtain ⟨o', ho', _⟩ := (scans_findAll p s).covers hs (by simpa using ho) (by simpa using hlt)
    simp [h] at ho'
  · intro h
    apply List.eq_nil_iff_forall_not_mem.mpr
    intro o ho
    obtain ⟨v, w, t, rfl, hw, hat, hspan⟩ := (scans_findAll p s).mem ho
    have hle := h v (w ++ t) o rfl (by simpa using hat)
    have hpos := List.length_pos_iff.mpr hw
    simp only [hspan, List.nil_append, List.length_append] at hle
    omega

/-! ## The first occurrence -/

theorem find?_sound {s : List Char} (h : p.find? s = some o) : ∃ v x, s = v ++ x ∧ p.at? (.between v x) = some o := by
  suffices hfrom : ∀ u : List Char, p.findFrom? u.getLast? u.length s = some o →
      ∃ v x, s = v ++ x ∧ p.at? (.between (u ++ v) x) = some o by
    simpa using hfrom [] h
  clear h
  induction s with
  | nil => exact fun u hu => ⟨[], [], rfl, by simpa [findFrom?, Place.between] using hu⟩
  | cons c s ih =>
      intro u hu
      rw [findFrom?] at hu
      split at hu
      · rename_i o' ho'
        cases hu
        exact ⟨[], c :: s, rfl, by simpa [Place.between] using ho'⟩
      · obtain ⟨v, x, rfl, hat⟩ := ih (u ++ [c]) (by simpa using hu)
        exact ⟨c :: v, x, rfl, by simpa using hat⟩

/-- Whether the pattern may take nothing. -/
def isNullable : Pattern → Bool
  | .one _ => false
  | .seq p q => p.isNullable && q.isNullable
  | .alt p q => p.isNullable || q.isNullable
  | .group _ p => p.isNullable
  | .empty | .greedy _ | .lazy _ | .wordEdge | .lineStart | .lineEnd => true

theorem Fits.ne_nil {gs gs' : List (Nat × Span)} (h : Fits p u w t gs gs') (hp : p.isNullable = false) : w ≠ [] := by
  induction h with
  | one => exact List.cons_ne_nil _ _
  | seq _ _ ihp ihq =>
      rcases Bool.and_eq_false_iff.mp hp with hp | hq
      · exact List.append_ne_nil_of_left_ne_nil (ihp hp) _
      · exact List.append_ne_nil_of_right_ne_nil _ (ihq hq)
  | altLeft _ ih => exact ih (Bool.or_eq_false_iff.mp hp).1
  | altRight _ ih => exact ih (Bool.or_eq_false_iff.mp hp).2
  | group _ ih => exact ih hp
  | empty | greedy _ | lazy _ | wordEdge _ | lineStart _ | lineEnd _ => cases hp

/-- The search for one occurrence gives the first of all occurrences. -/
theorem find?_eq_head? (hp : p.isNullable = false) (s : List Char) : p.find? s = (p.findAll s).head? := by
  suffices hfrom : ∀ u : List Char,
      p.findFrom? u.getLast? u.length s = (p.findAllFrom u.getLast? u.length 0 s).head? from
    hfrom []
  induction s with
  | nil =>
      intro u
      rw [findFrom?, findAllFrom, List.head?_nil, Option.eq_none_iff_forall_ne_some]
      intro o ho
      obtain ⟨w, t, hw, hfits, -⟩ := at?_sound ho
      exact hfits.ne_nil hp (List.append_eq_nil_iff.mp hw.symm).1
  | cons c s ih =>
      intro u
      cases hat : p.at? (.between u (c :: s)) with
      | none =>
          have hrest := ih (u ++ [c])
          rw [findFrom?, show p.at? ⟨u.getLast?, u.length, c :: s⟩ = none from hat, findAllFrom_pass (by simp [hat]),
            ← hrest]
          simp
      | some o =>
          obtain ⟨w, t, hw, hfits, hspan⟩ := at?_sound hat
          rw [findFrom?, show p.at? ⟨u.getLast?, u.length, c :: s⟩ = some o from hat, hw,
            findAllFrom_take (hw ▸ hat) (hfits.ne_nil hp) hspan]
          rfl

end Pattern

end EsqlAudit.Text
