import EsqlAudit.Proofs.Text.Keyword
import EsqlAudit.Proofs.Text.Occurrences
import EsqlAudit.Sql.Block

/-!
# Where embedded statements and declare sections stand

An embedded statement is a head (`EXEC`, a word, and white space after each) and everything up to the first
semicolon after it. A declare section starts with a head too.
-/

namespace EsqlAudit.Sql
open Text Pattern

/-- A text is cut in one way only at the first occurrence of a character. -/
theorem cut_unique {c : Char} {a a' b b' : List Char} (ha : c ∉ a) (ha' : c ∉ a')
    (h : a ++ c :: b = a' ++ c :: b') : a = a' ∧ b = b' := by
  rcases List.append_eq_append_iff.mp h with ⟨v, rfl, hv⟩ | ⟨v, rfl, hv⟩
  · cases v with
    | nil => exact ⟨by simp, by simpa using hv⟩
    | cons d v =>
        obtain ⟨rfl, _⟩ := List.cons.inj hv
        exact absurd (by simp) ha'
  · cases v with
    | nil => exact ⟨by simp, by simpa using hv.symm⟩
    | cons d v =>
        obtain ⟨rfl, _⟩ := List.cons.inj hv
        exact absurd (by simp) ha

theorem cut_after {c : Char} {a b x y : List Char} (ha : c ∉ a) (h : a ++ y = x ++ c :: b) :
    ∃ y', x = a ++ y' ∧ y = y' ++ c :: b := by
  rcases List.append_eq_append_iff.mp h with ⟨v, rfl, rfl⟩ | ⟨v, rfl, hv⟩
  · exact ⟨v, rfl, rfl⟩
  · cases v with
    | nil => exact ⟨[], by simp, by simpa using hv.symm⟩
    | cons d v =>
        obtain ⟨rfl, _⟩ := List.cons.inj hv
        exact absurd (by simp) ha

/-! ## Heads -/

theorem spells_exec {e : List Char} (h : Spells "EXEC" e) : ∃ a b c d, e = [a, b, c, d] ∧
    caseKey a = 'e' ∧ caseKey b = 'x' ∧ caseKey c = 'e' ∧ caseKey d = 'c' := by
  have hkeys : "EXEC".toList.map caseKey = ['e', 'x', 'e', 'c'] := by decide
  obtain ⟨a, b, c, d, rfl⟩ : ∃ a b c d, e = [a, b, c, d] := by
    have hlen := h.length_eq
    match e, hlen with
    | [a, b, c, d], _ => exact ⟨a, b, c, d, rfl⟩
  rw [Spells, hkeys] at h
  simp only [List.map_cons, List.map_nil, List.cons.injEq, and_true] at h
  exact ⟨a, b, c, d, rfl, h⟩

/-- `EXEC` and the word `k`, each with white space after it. -/
inductive ExecHead (k : String) : List Char → Prop where
  | mk {e b v c} : Spells "EXEC" e → b ≠ [] → Blanks b → Spells k v → c ≠ [] → Blanks c →
      ExecHead k (e ++ (b ++ (v ++ c)))

variable {k : String} {h u w x t : List Char}

theorem ExecHead.starts (hh : ExecHead k h) :
    ∃ e b h', h = e ++ (b :: h') ∧ Spells "EXEC" e ∧ isBlank b = true := by
  cases hh with
  | @mk e b v b' he hb hblank =>
      cases b with
      | nil => exact absurd rfl hb
      | cons c b => exact ⟨e, c, b ++ (v ++ b'), rfl, he, hblank c (by simp)⟩

/-- A character of a head is white space or a letter of one of its words. -/
theorem ExecHead.mem (hh : ExecHead k h) {c : Char} (hc : c ∈ h) :
    isBlank c = true ∨ caseKey c ∈ "EXEC".toList.map caseKey ∨ caseKey c ∈ k.toList.map caseKey := by
  cases hh with
  | mk he _ hb hv _ hb' =>
      simp only [List.mem_append] at hc
      rcases hc with hc | hc | hc | hc
      · exact Or.inr (Or.inl (he ▸ List.mem_map_of_mem hc))
      · exact Or.inl (hb c hc)
      · exact Or.inr (Or.inr (hv ▸ List.mem_map_of_mem hc))
      · exact Or.inl (hb' c hc)

theorem ExecHead.semicolon_not_mem (hh : ExecHead "SQL" h) : ';' ∉ h := by
  intro hc
  rcases hh.mem hc with hc | hc | hc <;> revert hc <;> decide

/-- A head before a text that starts with no white space ends in one place only. -/
theorem ExecHead.unique {h' x' : List Char} {c c' : Char} (hh : ExecHead "SQL" h) (hh' : ExecHead "SQL" h')
    (hc : isBlank c = false) (hc' : isBlank c' = false) (heq : h ++ c :: x = h' ++ c' :: x') :
    h = h' ∧ c :: x = c' :: x' := by
  cases hh with
  | @mk e a v b he _ ha hv _ hb =>
      cases hh' with
      | @mk e' a' v' b' he' _ ha' hv' _ hb' =>
          simp only [List.append_assoc] at heq
          obtain ⟨rfl, hafter⟩ := List.append_inj heq (he.length_eq.trans he'.length_eq.symm)
          obtain ⟨d, w, rfl, hd⟩ := hv.starts (by decide) (by decide)
          obtain ⟨d', w', rfl, hd'⟩ := hv'.starts (by decide) (by decide)
          obtain ⟨rfl, hword⟩ := Blanks.unique ha ha' hd hd' hafter
          obtain ⟨hsql, hrest⟩ := List.append_inj hword (hv.length_eq.trans hv'.length_eq.symm)
          obtain ⟨rfl, hx⟩ := Blanks.unique hb hb' hc hc' hrest
          exact ⟨by rw [hsql], hx⟩

/-- The pattern of a head, before another pattern. -/
def headed (k : String) (q : Pattern) : Pattern :=
  .seq (.word "EXEC") (.seq .blanks1 (.seq (.word k) (.seq .blanks1 q)))

theorem fits_headed {q : Pattern} {gs gs' : List (Nat × Span)} :
    Fits (headed k q) u w t gs gs' ↔ ∃ h w', w = h ++ w' ∧ ExecHead k h ∧ Fits q (u ++ h) w' t gs gs' := by
  constructor
  · intro hfit
    obtain ⟨e, b, _, rfl, he, hne, hb, hfit⟩ := fits_word_blanks1.mp hfit
    obtain ⟨v, b', w', rfl, hv, hne', hb', hfit⟩ := fits_word_blanks1.mp hfit
    exact ⟨e ++ (b ++ (v ++ b')), w', by simp, .mk he hne hb hv hne' hb', by simpa using hfit⟩
  · rintro ⟨_, w', rfl, @⟨e, b, v, b', he, hne, hb, hv, hne', hb'⟩, hfit⟩
    have hq : Fits q (u ++ e ++ b ++ v ++ b') w' t gs gs' := by simpa using hfit
    have hword := fits_word_blanks1.mpr ⟨v, b', w', rfl, hv, hne', hb', hq⟩
    exact fits_word_blanks1.mpr ⟨e, b, v ++ (b' ++ w'), by simp, he, hne, hb, hword⟩

theorem read_headed {α : Type} {q : Pattern} {gs : List (Nat × Span)} {next : Reading → Option α} {a : α}
    (hr : (headed k q).read ⟨.between u x, gs⟩ next = some a) :
    ∃ h x', x = h ++ x' ∧ ExecHead k h ∧ q.read ⟨.between (u ++ h) x', gs⟩ next = some a := by
  obtain ⟨e, b, _, rfl, he, hne, hb, hr⟩ := read_word_blanks1 hr
  obtain ⟨v, b', x', rfl, hv, hne', hb', hr⟩ := read_word_blanks1 hr
  exact ⟨e ++ (b ++ (v ++ b')), x', by simp, .mk he hne hb hv hne' hb', by simpa using hr⟩

/-! ## Statements -/

/-- White space and a semicolon, which end a statement and a mark. -/
def ending : Pattern :=
  .seq .blanks (.seq (.exactly ";") .empty)

theorem fits_ending {gs gs' : List (Nat × Span)} :
    Fits ending u w t gs gs' ↔ ∃ b, w = b ++ [';'] ∧ Blanks b ∧ gs' = gs := by
  constructor
  · intro hfit
    obtain ⟨b, _, _, rfl, hblank, hrest⟩ := fits_seq.mp hfit
    obtain ⟨c, _, _, rfl, hsemi, hnil⟩ := fits_seq.mp hrest
    obtain ⟨hb, rfl⟩ := fits_blanks.mp hblank
    obtain ⟨rfl, rfl⟩ := fits_exactly.mp hsemi
    obtain ⟨rfl, rfl⟩ := fits_empty.mp hnil
    exact ⟨b, rfl, hb, rfl⟩
  · rintro ⟨b, rfl, hb, rfl⟩
    refine .seq (fits_blanks.mpr ⟨hb, rfl⟩) ?_
    exact .seq (v := [';']) (fits_exactly.mpr ⟨rfl, rfl⟩) .empty

theorem execPattern_eq (k : String) :
    execPattern k = headed k (.seq (.group 1 (.lazy fun _ => true)) ending) := rfl

theorem fits_execPattern {g b : List Char} (hh : ExecHead k h) (hb : Blanks b) :
    Fits (execPattern k) u (h ++ (g ++ (b ++ [';']))) t []
      [(1, ⟨(u ++ h).length, (u ++ h ++ g).length⟩)] := by
  rw [execPattern_eq, fits_headed]
  refine ⟨h, g ++ (b ++ [';']), rfl, hh, .seq (.group (.lazy (by simp))) ?_⟩
  exact fits_ending.mpr ⟨b, rfl, hb, rfl⟩

/-- The statement that is found starts with a head and ends at the first semicolon after it. -/
theorem at?_execPattern {o : Occurrence} (ho : (execPattern k).at? (.between u x) = some o) :
    ∃ h g b t, x = h ++ (g ++ (b ++ ';' :: t)) ∧ ExecHead k h ∧ Blanks b ∧ ';' ∉ g ∧
      o = ⟨⟨u.length, (u ++ h ++ g ++ b).length + 1⟩, [(1, ⟨(u ++ h).length, (u ++ h ++ g).length⟩)]⟩ := by
  rw [at?, execPattern_eq] at ho
  obtain ⟨h, _, rfl, hh, ho⟩ := read_headed ho
  rw [Pattern.read] at ho
  obtain ⟨g, _, rfl, _, ho, hleast⟩ := read_group_lazy ho
  obtain ⟨_, t, _, rfl, hfit, ho⟩ := ending.read_sound ho
  obtain ⟨b, rfl, hb, rfl⟩ := fits_ending.mp hfit
  refine ⟨h, g, b, t, by simp, hh, hb, ?_, ?_⟩
  · -- A semicolon in the statement would have ended it there.
    intro hg
    obtain ⟨v, v', rfl⟩ := List.append_of_mem hg
    have hfit : Fits ending (u ++ h ++ v) [';'] (v' ++ (b ++ [';'] ++ t))
        [(1, ⟨(u ++ h).length, (u ++ h ++ v).length⟩)] [(1, ⟨(u ++ h).length, (u ++ h ++ v).length⟩)] :=
      fits_ending.mpr ⟨[], rfl, by simp [Blanks], rfl⟩
    have hnone := hleast v ';' v' rfl
    rw [← Option.not_isSome_iff_eq_none] at hnone
    exact hnone (read_complete hfit rfl)
  · cases ho
    simp [Place.between, Nat.add_assoc]

theorem at?_execPattern_lt {o : Occurrence} (ho : (execPattern k).at? (.between u x) = some o) :
    u.length < o.span.stop := by
  obtain ⟨h, g, b, t, _, _, _, _, rfl⟩ := at?_execPattern ho
  simp only [List.length_append]
  omega

theorem at?_execPattern_complete (hh : ExecHead k h) (ht : ';' ∈ t) :
    ∃ o, (execPattern k).at? (.between u (h ++ t)) = some o := by
  obtain ⟨g, t', rfl⟩ := List.append_of_mem ht
  have hfit := fits_execPattern (u := u) (t := t') (g := g) (b := []) hh (by simp [Blanks])
  simpa using at?_complete hfit

theorem findAll_execPattern_eq_nil_iff {s : List Char} : (execPattern k).findAll s = [] ↔
    ∀ u h t, s = u ++ (h ++ t) → ExecHead k h → ';' ∉ t := by
  rw [findAll_eq_nil_iff]
  constructor
  · intro hnone u h t hs hh ht
    obtain ⟨o, ho⟩ := at?_execPattern_complete (u := u) hh ht
    exact absurd (hnone u (h ++ t) o hs ho) (Nat.not_le.mpr (at?_execPattern_lt ho))
  · intro hnone u x o hs ho
    obtain ⟨h, g, b, t, rfl, hh, _⟩ := at?_execPattern ho
    exact absurd (by simp) (hnone u h (g ++ (b ++ ';' :: t)) hs hh)

/-! ## Declare sections -/

/-- `EXEC SQL`, the word `k`, `DECLARE SECTION` and a semicolon. -/
inductive SectionMark (k : String) : List Char → Prop where
  | mk {h v b d c s f} : ExecHead "SQL" h → Spells k v → b ≠ [] → Blanks b → Spells "DECLARE" d →
      c ≠ [] → Blanks c → Spells "SECTION" s → Blanks f →
      SectionMark k (h ++ (v ++ (b ++ (d ++ (c ++ (s ++ (f ++ [';'])))))))

/-- A mark ends at its first semicolon. -/
theorem SectionMark.ends {m : List Char} (hm : SectionMark k m)
    (hk : caseKey ';' ∉ k.toList.map caseKey) : ∃ m', m = m' ++ [';'] ∧ ';' ∉ m' := by
  cases hm with
  | @mk h v b d b' s b'' hh hv _ hb hd _ hb' hs hb'' =>
      refine ⟨h ++ (v ++ (b ++ (d ++ (b' ++ (s ++ b''))))), by simp, ?_⟩
      have hblank : isBlank ';' = false := by decide
      simp only [List.mem_append, not_or]
      exact ⟨hh.semicolon_not_mem, hv.not_mem hk, hb.not_mem hblank, hd.not_mem (by decide), hb'.not_mem hblank,
        hs.not_mem (by decide), hb''.not_mem hblank⟩

theorem SectionMark.starts {m : List Char} (hm : SectionMark k m) :
    ∃ e m', m = e ++ m' ∧ Spells "EXEC" e := by
  cases hm with
  | mk hh =>
      obtain ⟨e, b, h', rfl, he, _⟩ := hh.starts
      exact ⟨e, _, by simp only [List.append_assoc]; rfl, he⟩

theorem sectionMark_eq (k : String) : sectionMark k =
    headed "SQL" (.seq (.word k) (.seq .blanks1 (.seq (.word "DECLARE") (.seq .blanks1
      (.seq (.word "SECTION") ending))))) := rfl

theorem fits_sectionMark {gs gs' : List (Nat × Span)} :
    Fits (sectionMark k) u w t gs gs' ↔ SectionMark k w ∧ gs' = gs := by
  rw [sectionMark_eq, fits_headed]
  constructor
  · rintro ⟨h, _, rfl, hh, hfit⟩
    obtain ⟨v, b, _, rfl, hv, hne, hb, hrest⟩ := fits_word_blanks1.mp hfit
    obtain ⟨d, b', _, rfl, hd, hne', hb', hrest⟩ := fits_word_blanks1.mp hrest
    obtain ⟨s, _, _, rfl, hword, hend⟩ := fits_seq.mp hrest
    obtain ⟨hs, rfl⟩ := fits_word.mp hword
    obtain ⟨b'', rfl, hb'', rfl⟩ := fits_ending.mp hend
    exact ⟨.mk hh hv hne hb hd hne' hb' hs hb'', rfl⟩
  · rintro ⟨⟨hh, hv, hne, hb, hd, hne', hb', hs, hb''⟩, rfl⟩
    refine ⟨_, _, rfl, hh, fits_word_blanks1.mpr ⟨_, _, _, rfl, hv, hne, hb, ?_⟩⟩
    refine fits_word_blanks1.mpr ⟨_, _, _, rfl, hd, hne', hb', ?_⟩
    exact .seq (fits_word.mpr ⟨hs, rfl⟩) (fits_ending.mpr ⟨_, rfl, hb'', rfl⟩)

theorem at?_sectionPattern {o : Occurrence} (ho : sectionPattern.at? (.between u x) = some o) :
    ∃ m d m' t, x = m ++ (d ++ (m' ++ t)) ∧ SectionMark "BEGIN" m ∧ SectionMark "END" m' ∧
      o = ⟨⟨u.length, (u ++ m ++ d ++ m').length⟩, [(1, ⟨(u ++ m).length, (u ++ m ++ d).length⟩)]⟩ := by
  obtain ⟨_, t, rfl, hfit, hspan⟩ := at?_sound ho
  obtain ⟨m, _, _, rfl, hbegin, hrest⟩ := fits_seq.mp hfit
  obtain ⟨d, _, _, rfl, hgroup, hrest⟩ := fits_seq.mp hrest
  obtain ⟨m', _, _, rfl, hend, hnil⟩ := fits_seq.mp hrest
  obtain ⟨hm, rfl⟩ := fits_sectionMark.mp hbegin
  obtain ⟨_, hlazy, rfl⟩ := fits_group.mp hgroup
  obtain ⟨_, rfl⟩ := fits_lazy.mp hlazy
  obtain ⟨hm', rfl⟩ := fits_sectionMark.mp hend
  obtain ⟨rfl, hgroups⟩ := fits_empty.mp hnil
  refine ⟨m, d, m', t, by simp, hm, hm', ?_⟩
  obtain ⟨span, groups⟩ := o
  simp_all

theorem at?_sectionPattern_complete {m d m' : List Char} (hm : SectionMark "BEGIN" m)
    (hm' : SectionMark "END" m') : ∃ o, sectionPattern.at? (.between u (m ++ (d ++ (m' ++ t)))) = some o := by
  have hfit : Fits sectionPattern u (m ++ (d ++ (m' ++ []))) t []
      [(1, ⟨(u ++ m).length, (u ++ m ++ d).length⟩)] := by
    refine .seq (fits_sectionMark.mpr ⟨hm, rfl⟩) (.seq (.group (.lazy (by simp))) ?_)
    exact .seq (fits_sectionMark.mpr ⟨hm', rfl⟩) .empty
  simpa using at?_complete hfit

end EsqlAudit.Sql
