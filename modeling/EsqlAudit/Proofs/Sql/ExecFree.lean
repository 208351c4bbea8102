import EsqlAudit.Proofs.Sql.Exec

/-!
# Texts without `EXEC`

A text in which the word `EXEC` occurs in no letter case holds neither a statement nor a mark of a declare
section, and a search passes it.
-/

namespace EsqlAudit.Sql
open Text Pattern

/-- The letters `EXEC`, in any letter case, stand nowhere in the text. -/
def ExecFree (s : List Char) : Prop :=
  ∀ m, m <:+: s → m.map Char.toUpper ≠ "EXEC".toList

variable {p r s u w x t : List Char}

theorem ExecFree.part (h : ExecFree s) (ht : t <:+: s) : ExecFree t :=
  fun m hm => h m (hm.trans ht)

theorem execFree_iff :
    ExecFree s ↔ ∀ i < s.length, ((s.drop i).take 4).map Char.toUpper ≠ "EXEC".toList := by
  constructor
  · intro h i _
    exact h _ (( List.take_prefix _ _).isInfix.trans (List.drop_suffix _ _).isInfix)
  · intro h m hm hexec
    have hlen : m.length = 4 := by simpa using congrArg List.length hexec
    obtain ⟨x, y, rfl⟩ := hm
    apply h x.length (by simp; omega)
    rw [List.append_assoc, List.drop_left, ← hlen, List.take_left]
    exact hexec

instance (s : List Char) : Decidable (ExecFree s) :=
  decidable_of_iff _ execFree_iff.symm

theorem ExecFree.not_spells (h : ExecFree s) {e : List Char} (he : e <:+: s) : ¬ Spells "EXEC" e := by
  intro hspell
  obtain ⟨a, b, c, d, rfl, ha, hb, hc, hd⟩ := spells_exec hspell
  apply h _ he
  have hA := toUpper_eq_of_caseKey_eq (by simp) ha
  have hB := toUpper_eq_of_caseKey_eq (by simp) hb
  have hC := toUpper_eq_of_caseKey_eq (by simp) hc
  have hD := toUpper_eq_of_caseKey_eq (by simp) hd
  simp only [List.map_cons, List.map_nil, hA, hB, hC, hD]
  decide

/-! ## Joining texts -/

theorem infix_append_cases {m : List Char} (h : m <:+: p ++ r) :
    m <:+: p ∨ m <:+: r ∨ ∃ m₁ m₂, m = m₁ ++ m₂ ∧ m₁ ≠ [] ∧ m₂ ≠ [] ∧ m₁ <:+ p ∧ m₂ <+: r := by
  obtain ⟨x, y, hxy⟩ := h
  rw [List.append_assoc] at hxy
  rcases List.append_eq_append_iff.mp hxy with ⟨v, rfl, hm⟩ | ⟨v, rfl, rfl⟩
  · rcases List.append_eq_append_iff.mp hm with ⟨v', rfl, _⟩ | ⟨m₂, rfl, rfl⟩
    · exact Or.inl ⟨x, v', by simp⟩
    · by_cases h₁ : v = []
      · subst h₁
        exact Or.inr (Or.inl ⟨[], y, by simp⟩)
      · by_cases h₂ : m₂ = []
        · subst h₂
          exact Or.inl ⟨x, [], by simp⟩
        · exact Or.inr (Or.inr ⟨v, m₂, rfl, h₁, h₂, ⟨x, rfl⟩, ⟨y, rfl⟩⟩)
  · exact Or.inr (Or.inl ⟨v, y, by simp⟩)

/-- No `EXEC` arises where a text is joined to one whose first letters are none of its last letter. -/
theorem ExecFree.append (hp : ExecFree p) (hr : ExecFree r) (hfirst : ∀ c ∈ r.take 3, c.toUpper ≠ 'C') :
    ExecFree (p ++ r) := by
  intro m hm hexec
  rcases infix_append_cases hm with hm | hm | ⟨m₁, m₂, rfl, h₁, h₂, _, hpre⟩
  · exact hp m hm hexec
  · exact hr m hm hexec
  · have hlen : (m₁ ++ m₂).length = 4 := by simpa using congrArg List.length hexec
    have h₁pos := List.length_pos_iff.mpr h₁
    have hlast : (m₂.getLast h₂).toUpper = 'C' := by
      have := congrArg List.getLast? hexec
      rw [List.map_append, List.getLast?_append, List.getLast?_map, List.getLast?_eq_some_getLast h₂] at this
      simpa using this
    obtain ⟨z, rfl⟩ := hpre
    refine hfirst (m₂.getLast h₂) ?_ hlast
    rw [List.length_append] at hlen
    rw [List.take_append, List.take_of_length_le (by omega)]
    exact List.mem_append_left _ (List.getLast_mem h₂)

theorem ExecFree.append_exec (hp : ExecFree p) : ExecFree (p ++ "EXE".toList) :=
  hp.append (by decide) (by decide)

/-- No `EXEC` arises where a text is joined to one that ends in none of its letters. -/
theorem ExecFree.append_of_getLast (hp : ExecFree p) (hr : ExecFree r)
    (hlast : ∀ c ∈ p.getLast?.toList, c.toUpper ∉ "EXEC".toList) : ExecFree (p ++ r) := by
  intro m hm hexec
  rcases infix_append_cases hm with hm | hm | ⟨m₁, m₂, rfl, h₁, _, ⟨x, rfl⟩, _⟩
  · exact hp m hm hexec
  · exact hr m hm hexec
  · apply hlast (m₁.getLast h₁)
    · simp [List.getLast?_append, List.getLast?_eq_some_getLast h₁]
    · rw [← hexec]
      exact List.mem_map_of_mem (List.mem_append_left _ (List.getLast_mem h₁))

/-! ## Searching -/

/-- No `EXEC` starts in the first part of a text, if none stands in it and the next three characters. -/
theorem ExecFree.not_starts (h : ExecFree (w ++ t.take 3)) {v v' e z : List Char} (hw : w = v ++ v')
    (hne : v' ≠ []) (hx : v' ++ t = e ++ z) : ¬ Spells "EXEC" e := by
  intro hspell
  have hlen : e.length = 4 := hspell.length_eq
  have hpos := List.length_pos_iff.mpr hne
  refine h.not_spells ?_ hspell
  have he : e = v'.take 4 ++ t.take (4 - v'.length) := by
    rw [← List.take_append, hx, ← hlen, List.take_left]
  have hsub : t.take (4 - v'.length) = (t.take 3).take (4 - v'.length) := by
    rw [List.take_take, Nat.min_eq_left (by omega)]
  have hpre : e <+: v' ++ t.take 3 := by
    rw [he, hsub, ← List.take_append]
    exact List.take_prefix _ _
  rw [hw, List.append_assoc]
  exact hpre.isInfix.trans (List.suffix_append _ _).isInfix

/-- The pattern fits only where the word `EXEC` starts. -/
def StartsExec (q : Pattern) : Prop :=
  ∀ u x o, q.at? (.between u x) = some o → ∃ e z, x = e ++ z ∧ Spells "EXEC" e

theorem execPattern_startsExec (k : String) : StartsExec (execPattern k) := by
  intro u x o ho
  obtain ⟨h, g, b, t, rfl, hh, _⟩ := at?_execPattern ho
  obtain ⟨e, c, h', rfl, he, _⟩ := hh.starts
  exact ⟨e, c :: h' ++ (g ++ (b ++ ';' :: t)), by simp, he⟩

theorem sectionPattern_startsExec : StartsExec sectionPattern := by
  intro u x o ho
  obtain ⟨m, d, m', t, rfl, hm, _⟩ := at?_sectionPattern ho
  obtain ⟨e, m₁, rfl, he⟩ := hm.starts
  exact ⟨e, m₁ ++ (d ++ (m' ++ t)), by simp, he⟩

/-- A text in which no `EXEC` starts is passed. -/
theorem findAllFrom_execFree {q : Pattern} (hq : StartsExec q) (h : ExecFree (w ++ t.take 3)) :
    q.findAllFrom u.getLast? u.length 0 (w ++ t) =
      q.findAllFrom (u ++ w).getLast? (u ++ w).length 0 t := by
  apply findAllFrom_pass_all
  intro v c v' hw
  rw [Option.eq_none_iff_forall_ne_some]
  intro o ho
  obtain ⟨e, z, hx, he⟩ := hq _ _ _ ho
  exact h.not_starts hw (by simp) hx he

theorem findAllFrom_execFree_nil {q : Pattern} (hq : StartsExec q) (h : ExecFree w) :
    q.findAllFrom u.getLast? u.length 0 w = [] := by
  have hpass := findAllFrom_execFree (u := u) (t := []) hq (by simpa using h)
  rwa [List.append_nil, findAllFrom] at hpass

end EsqlAudit.Sql
