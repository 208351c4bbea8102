import EsqlAudit.Proofs.Analysis.History
import EsqlAudit.Proofs.Sql.Statements

/-!
# The pass over the statements is exhaustive

After the pass, the statements that are still found are the marks of declare sections, and a second pass changes
nothing. A statement of the text that is left starts at a head, and a head cannot reach into a call, so it stood in
the text before; there the search has passed its place or has found a mark.
-/

namespace EsqlAudit.Sql
open Text Pattern

/-! ## What a statement says -/

section Content

variable {h h' g g' b b' : List Char}

theorem spells_sql {v : List Char} (h : Spells "SQL" v) : ∃ c v', v = c :: v' ∧ isBlank c = false :=
  h.starts (by decide) (by decide)

/-- Wherever the white space around it is cut off, a statement says the same. -/
theorem ExecHead.strip_unique (hh : ExecHead "SQL" h) (hh' : ExecHead "SQL" h') (hb : Blanks b) (hb' : Blanks b')
    (heq : h ++ (g ++ b) = h' ++ (g' ++ b')) : strip g = strip g' := by
  cases hh with
  | @mk e a v c he _ ha hv _ hc =>
      cases hh' with
      | @mk e' a' v' c' he' _ ha' hv' _ hc' =>
          simp only [List.append_assoc] at heq
          obtain ⟨_, hafter⟩ := List.append_inj heq (he.length_eq.trans he'.length_eq.symm)
          obtain ⟨d, w, rfl, hd⟩ := spells_sql hv
          obtain ⟨d', w', rfl, hd'⟩ := spells_sql hv'
          obtain ⟨_, hword⟩ := Blanks.unique ha ha' hd hd' hafter
          obtain ⟨_, hrest⟩ := List.append_inj hword (hv.length_eq.trans hv'.length_eq.symm)
          rw [← strip_blanks hc hb, hrest, strip_blanks hc' hb']

theorem groupText_statement (u h g z : List Char) (span : Span) :
    Occurrence.groupText ⟨span, [(1, ⟨(u ++ h).length, (u ++ h ++ g).length⟩)]⟩ (u ++ (h ++ (g ++ z))) 1 = g := by
  rw [← List.append_assoc u]
  exact slice_append (u ++ h) g z

/-- What is found at a statement says what the statement says and ends where it ends, whatever stands around it. -/
theorem at?_statement (hh : ExecHead "SQL" h) (hg : ';' ∉ g) (hb : Blanks b) (u t : List Char) :
    ∃ o, (execPattern "SQL").at? (.between u ((h ++ (g ++ (b ++ [';']))) ++ t)) = some o ∧
      o.span = ⟨u.length, (u ++ (h ++ (g ++ (b ++ [';'])))).length⟩ ∧
      strip (o.groupText (u ++ ((h ++ (g ++ (b ++ [';']))) ++ t)) 1) = strip g := by
  have hcut : (h ++ (g ++ (b ++ [';']))) ++ t = h ++ (g ++ (b ++ ';' :: t)) := by simp
  have hsemi : isBlank ';' = false := by decide
  rw [hcut]
  obtain ⟨o, ho⟩ := at?_execPattern_complete (u := u) (t := g ++ (b ++ ';' :: t)) hh (by simp)
  obtain ⟨h', g', b', t', heq, hh', hb', hg', rfl⟩ := at?_execPattern ho
  refine ⟨_, ho, ?_⟩
  have hfirst : ';' ∉ h ++ (g ++ b) := by
    simp [hh.semicolon_not_mem, hg, hb.not_mem hsemi]
  have hfirst' : ';' ∉ h' ++ (g' ++ b') := by
    simp [hh'.semicolon_not_mem, hg', hb'.not_mem hsemi]
  obtain ⟨hsame, rfl⟩ := cut_unique hfirst hfirst' (by simpa using heq)
  have hlen := congrArg List.length hsame
  constructor
  · simp only [List.length_append, List.length_singleton, Span.mk.injEq, true_and] at hlen ⊢
    omega
  · rw [heq, groupText_statement]
    exact (hh.strip_unique hh' hb hb' hsame).symm

end Content

/-- The occurrence that is taken is a statement up to its first semicolon. -/
theorem taken_statement {u w t : List Char} {o : Occurrence}
    (hat : (execPattern "SQL").at? (.between u (w ++ t)) = some o) (hspan : o.span = ⟨u.length, (u ++ w).length⟩) :
    ∃ h g b, w = h ++ (g ++ (b ++ [';'])) ∧ ExecHead "SQL" h ∧ ';' ∉ g ∧ Blanks b ∧
      o.groupText (u ++ (w ++ t)) 1 = g := by
  obtain ⟨h, g, b, t', heq, hh, hb, hg, rfl⟩ := at?_execPattern hat
  have hlen : w.length = (h ++ (g ++ (b ++ [';']))).length := by
    simp only [Span.mk.injEq, List.length_append, List.length_singleton, true_and] at hspan ⊢
    omega
  obtain ⟨hw, _⟩ := List.append_inj (heq.trans (by simp : _ = (h ++ (g ++ (b ++ [';']))) ++ t')) hlen
  refine ⟨h, g, b, hw, hh, hg, hb, ?_⟩
  rw [heq, groupText_statement]

/-! ## Blocks and what is put in their place -/

/-- The block is a statement up to its first semicolon, no mark of a declare section, with its kind. -/
inductive Block.Stated (b : Block) : Prop where
  | mk {h g c : List Char} : b.content = h ++ (g ++ (c ++ [';'])) → ExecHead "SQL" h → ';' ∉ g → Blanks c →
      isSectionMark g = false → b.kind = classify (strip g) → Stated b

theorem Block.Stated.semicolon {b : Block} (h : b.Stated) : ';' ∈ b.content := by
  cases h with
  | mk hcontent => simp [hcontent]

/-- The text `t` is the text `s`, which stands after `u`, with each of the blocks replaced by its call and all else
kept. -/
inductive Replaced : List Char → List Char → List Block → List Char → Prop where
  | nil {u s} : Replaced u s [] s
  | cons {u v s bs t} {b : Block} : b.start = (u ++ v).length → b.stop = (u ++ v ++ b.content).length → b.Stated →
      Replaced (u ++ v ++ b.content) s bs t →
      Replaced u (v ++ (b.content ++ s)) (b :: bs) (v ++ (placeholder b.kind ++ t))

namespace Replaced

variable {u s t : List Char} {bs : List Block}

theorem extend {w : List Char} (h : Replaced (u ++ w) s bs t) : Replaced u (w ++ s) bs (w ++ t) := by
  cases h with
  | nil => exact .nil
  | @cons _ v s bs t b hstart hstop hstated hrest =>
      rw [← List.append_assoc w, ← List.append_assoc w]
      exact .cons (by simpa using hstart) (by simpa using hstop) hstated (by simpa using hrest)

theorem enter {b : Block} (h : Replaced (u ++ b.content) s bs t) (hstart : b.start = u.length)
    (hstop : b.stop = (u ++ b.content).length) (hstated : b.Stated) :
    Replaced u (b.content ++ s) (b :: bs) (placeholder b.kind ++ t) :=
  .cons (v := []) (by simpa using hstart) (by simpa using hstop) hstated (by simpa using h)

theorem eq_spliceFrom (h : Replaced u s bs t) : t = spliceFrom u.length s (bs.map Block.edit) := by
  induction h with
  | nil => rfl
  | @cons u v s bs t b hstart hstop _ _ ih =>
      rw [List.map_cons, Block.edit, hstart, hstop, spliceFrom_cons, ih]

theorem bounds (h : Replaced u s bs t) {b : Block} (hb : b ∈ bs) :
    u.length ≤ b.start ∧ b.start < b.stop ∧ slice (u ++ s) b.start b.stop = b.content := by
  induction h with
  | nil => cases hb
  | @cons u v s bs t b₀ hstart hstop hstated _ ih =>
      rcases List.mem_cons.mp hb with rfl | hb
      · have hpos := List.length_pos_of_mem hstated.semicolon
        refine ⟨by simp [hstart], by simp [hstart, hstop, hpos], ?_⟩
        rw [hstart, hstop, ← List.append_assoc, slice_append]
      · obtain ⟨hle, hlt, hslice⟩ := ih hb
        refine ⟨?_, hlt, by simpa using hslice⟩
        simp only [List.length_append] at hle
        omega

theorem apart (h : Replaced u s bs t) : bs.Pairwise fun b b' => b.stop ≤ b'.start := by
  induction h with
  | nil => exact .nil
  | cons _ hstop _ hrest ih =>
      refine List.pairwise_cons.mpr ⟨fun b' hb' => ?_, ih⟩
      rw [hstop]
      exact (hrest.bounds hb').1

/-- A statement that starts the text that is left starts the text before. -/
theorem front {h z : List Char} (hr : Replaced u s bs (h ++ z)) (hh : ExecHead "SQL" h) (hz : ';' ∈ z) :
    ∃ z', s = h ++ z' ∧ ';' ∈ z' := by
  generalize ht : h ++ z = t at hr
  cases hr with
  | nil => exact ⟨z, ht.symm, hz⟩
  | @cons _ v s bs t b _ _ hstated _ =>
      obtain ⟨v', rfl, _⟩ := hh.before_inert (by unfold Spare; decide) (placeholder_inert b.kind) ht
      exact ⟨v' ++ (b.content ++ s), by simp, by simp [hstated.semicolon]⟩

end Replaced

/-! ## Texts without statements to replace -/

theorem passed_of_none {u x : List Char} (hnone : ∀ h z, x = h ++ z → ExecHead "SQL" h → ';' ∉ z) :
    ∀ o, (execPattern "SQL").at? (.between u x) = some o → o.span.stop ≤ u.length := by
  intro o ho
  obtain ⟨h, g, b, z, heq, hh, _⟩ := at?_execPattern ho
  exact absurd (by simp) (hnone h (g ++ (b ++ ';' :: z)) heq hh)

/-- The statements that are found in `t` after `u` are marks of declare sections. -/
def Settled (u t : List Char) : Prop :=
  ∀ o ∈ (execPattern "SQL").findAllFrom u.getLast? u.length 0 t, isSectionMark (o.groupText (u ++ t) 1) = true

namespace Settled

variable {u t : List Char}

theorem pass {c : Char} (h : Settled (u ++ [c]) t)
    (hnone : ∀ h z, c :: t = h ++ z → ExecHead "SQL" h → ';' ∉ z) : Settled u (c :: t) := by
  intro o ho
  rw [findAllFrom_pass (passed_of_none hnone)] at ho
  simpa using h o ho

/-- A mark stays a mark, whatever follows it. -/
theorem mark {h g b : List Char} (hh : ExecHead "SQL" h) (hg : ';' ∉ g) (hb : Blanks b)
    (hmark : isSectionMark g = true) (hrest : Settled (u ++ (h ++ (g ++ (b ++ [';'])))) t) :
    Settled u ((h ++ (g ++ (b ++ [';']))) ++ t) := by
  obtain ⟨o, hat, hspan, hstrip⟩ := at?_statement hh hg hb u t
  intro o' ho'
  rw [findAllFrom_take hat (by simp) hspan] at ho'
  rcases List.mem_cons.mp ho' with rfl | ho'
  · rwa [isSectionMark, hstrip]
  · rw [← List.append_assoc u]
    exact hrest o' ho'

theorem call {k : Kind} (h : Settled (u ++ placeholder k) t) : Settled u (placeholder k ++ t) := by
  have hnone : ∀ v c v', placeholder k = v ++ c :: v' →
      (execPattern "SQL").at? (.between (u ++ v) (c :: v' ++ t)) = none := by
    intro v c v' hv
    rw [Option.eq_none_iff_forall_ne_some]
    intro o ho
    obtain ⟨h, g, b, z, heq, hh, _⟩ := at?_execPattern ho
    have hinert := placeholder_inert k
    rw [hv] at hinert
    exact hh.not_in_inert (by unfold Spare; decide) hinert (by simp) heq.symm
  intro o ho
  rw [findAllFrom_pass_all hnone] at ho
  simpa using h o ho

end Settled

/-! ## The pass -/

/-- The block of a statement that occurs in `s`, with its line by `starts`. -/
def blockOf (starts : List Nat) (s : List Char) (o : Occurrence) : Block :=
  ⟨o.span.start, o.span.stop, lineIn starts o.span.start, o.text s, classify (strip (o.groupText s 1))⟩

/-- The blocks of the occurrences that are no marks of declare sections. -/
def blocksOf (starts : List Nat) (s : List Char) (os : List Occurrence) : List Block :=
  (os.filter fun o => !isSectionMark (o.groupText s 1)).map (blockOf starts s)

theorem replaced_of_scans (starts : List Nat) {s u t : List Char} {os : List Occurrence}
    (h : Scans (execPattern "SQL") u t os) (hs : s = u ++ t) :
    ∃ r, Replaced u t (blocksOf starts s os) r ∧ ∀ v, Settled v r := by
  induction h with
  | nil => exact ⟨[], .nil, fun v o ho => by simp [findAllFrom] at ho⟩
  | @pass u t c os hpassed _ ih =>
      obtain ⟨r, hr, hsettled⟩ := ih (by simpa using hs)
      have hkept : Replaced u (c :: t) (blocksOf starts s os) (c :: r) := Replaced.extend (w := [c]) hr
      refine ⟨c :: r, hkept, fun v => (hsettled (v ++ [c])).pass ?_⟩
      -- A statement here would have been one in the text before, and the search would have taken it.
      intro h z hz hh hsemi
      rw [hz] at hkept
      obtain ⟨z', hbefore, hsemi'⟩ := hkept.front hh hsemi
      obtain ⟨o, ho⟩ := at?_execPattern_complete (u := u) hh hsemi'
      exact absurd (hpassed o (hbefore ▸ ho)) (Nat.not_le.mpr (at?_execPattern_lt ho))
  | @take u w t o os hat hw hspan _ ih =>
      obtain ⟨r, hr, hsettled⟩ := ih (by simpa using hs)
      obtain ⟨h, g, b, hcut, hh, hg, hb, hgroup⟩ := taken_statement hat hspan
      rw [← hs] at hgroup
      cases hmark : isSectionMark g with
      | true =>
          have hskip : blocksOf starts s (o :: os) = blocksOf starts s os := by
            simp [blocksOf, hgroup, hmark]
          rw [hskip]
          subst hcut
          exact ⟨_, hr.extend, fun v => .mark hh hg hb hmark (hsettled _)⟩
      | false =>
          have henter : blocksOf starts s (o :: os) = blockOf starts s o :: blocksOf starts s os := by
            simp [blocksOf, hgroup, hmark]
          have hcontent : (blockOf starts s o).content = w := by
            rw [blockOf, Occurrence.text, hspan, hs, slice_append]
          have hkind : (blockOf starts s o).kind = classify (strip g) := by rw [blockOf, hgroup]
          rw [henter]
          rw [← hcontent] at hr hspan ⊢
          refine ⟨_, hr.enter (congrArg Span.start hspan) (congrArg Span.stop hspan) ?_, fun v => (hsettled _).call⟩
          exact .mk (hcontent.trans hcut) hh hg hb hmark hkind

theorem isSectionMark_iff {x : List Char} : isSectionMark x = true ↔
    "BEGIN DECLARE".toList <+: upper (strip x) ∨ "END DECLARE".toList <+: upper (strip x) := by
  simp [isSectionMark, List.isPrefixOf_iff_prefix]

namespace Preparer

theorem replaceStatements_eq (p : Preparer) (s : List Char) : p.replaceStatements s =
    (splice s ((blocksOf p.starts s ((execPattern "SQL").findAll s)).map Block.edit),
      ⟨p.blocks ++ blocksOf p.starts s ((execPattern "SQL").findAll s), p.starts⟩) := by
  simp only [replaceStatements, foldl_enter, blocksOf, List.map_map]
  rfl

theorem replaceStatements_of_settled {s : List Char} (h : Settled [] s) (p : Preparer) :
    p.replaceStatements s = (s, p) := by
  have hfound : ((execPattern "SQL").findAll s).filter (fun o => !isSectionMark (o.groupText s 1)) = [] := by
    refine List.filter_eq_nil_iff.mpr fun o ho => ?_
    have hmark := h o ho
    simpa using hmark
  simp [replaceStatements, hfound, splice, spliceFrom]

/-- The pass replaces the blocks that it enters and nothing else. What it leaves are marks of declare sections, and a
second pass finds nothing to replace. -/
theorem replaceStatements_exhaustive (p : Preparer) (s : List Char) :
    ∃ t bs, p.replaceStatements s = (t, { p with blocks := p.blocks ++ bs }) ∧ Replaced [] s bs t ∧
      (bs.Pairwise fun b b' => b.stop ≤ b'.start) ∧
      (∀ b ∈ bs, b.start < b.stop ∧ slice s b.start b.stop = b.content) ∧
      (∀ o ∈ (execPattern "SQL").findAll t, "BEGIN DECLARE".toList <+: upper (strip (o.groupText t 1)) ∨
        "END DECLARE".toList <+: upper (strip (o.groupText t 1))) ∧
      ∀ q : Preparer, q.replaceStatements t = (t, q) := by
  obtain ⟨t, hr, hsettled⟩ := replaced_of_scans (s := s) p.starts (scans_findAll (execPattern "SQL") s) rfl
  refine ⟨t, _, ?_, hr, hr.apart, fun b hb => (hr.bounds hb).2, fun o ho => ?_, ?_⟩
  · rw [replaceStatements_eq, splice, ← List.length_nil, ← hr.eq_spliceFrom]
  · exact isSectionMark_iff.mp (hsettled [] o ho)
  · exact replaceStatements_of_settled (hsettled [])

end Preparer

end EsqlAudit.Sql
