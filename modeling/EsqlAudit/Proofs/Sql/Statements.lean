import EsqlAudit.Proofs.Sql.Exec
import EsqlAudit.Proofs.Text.Splice

/-!
# Replacing embedded statements

The blocks of the pass over the statements are stretches of the text it reads, in order and apart. Each ends
with a semicolon. The calls put in their place start no statement, so a text without precompiler options is
left without them.
-/

namespace EsqlAudit.Sql
open Text Pattern

/-! ## Blocks -/

/-- The replacement of a block. -/
def Block.edit (b : Block) : Span × List Char :=
  (⟨b.start, b.stop⟩, placeholder b.kind)

/-- The position, the text and the line of the block are those of a stretch of `s`. -/
structure Block.PointsInto (b : Block) (s : List Char) : Prop where
  content : slice s b.start b.stop = b.content
  line : b.line = lineAt s b.start

theorem replaceStatements_text (s : List Char) :
    (replaceStatements s).text = splice s ((replaceStatements s).blocks.map Block.edit) := by
  simp only [replaceStatements, List.map_map]
  rfl

theorem cuts_statements (s : List Char) :
    Cuts [] s (((replaceStatements s).blocks.map Block.edit).map (·.1)) := by
  have h := (scans_findAll (execPattern "SQL") s).cuts fun o => !isSectionMark (o.groupText s 1)
  simp only [replaceStatements, List.map_map]
  exact h

/-- A block is a statement that is found and is no mark of a declare section. -/
theorem mem_statements {s : List Char} {b : Block} : b ∈ (replaceStatements s).blocks ↔
    ∃ o ∈ (execPattern "SQL").findAll s, isSectionMark (o.groupText s 1) = false ∧
      b = ⟨o.span.start, o.span.stop, lineAt s o.span.start, o.text s,
        classify (strip (o.groupText s 1))⟩ := by
  simp only [replaceStatements, List.mem_map, List.mem_filter, Bool.not_eq_true', lineIn_lineStarts]
  constructor
  · rintro ⟨o, ⟨ho, hmark⟩, rfl⟩
    exact ⟨o, ho, hmark, rfl⟩
  · rintro ⟨o, ho, hmark, rfl⟩
    exact ⟨o, ⟨ho, hmark⟩, rfl⟩

theorem statement_pointsInto {s : List Char} {b : Block} (hb : b ∈ (replaceStatements s).blocks) :
    b.PointsInto s := by
  obtain ⟨o, _, _, rfl⟩ := mem_statements.mp hb
  exact ⟨rfl, rfl⟩

/-- What a statement that is found looks like in the text. -/
theorem found_statement {s : List Char} {o : Occurrence} (ho : o ∈ (execPattern "SQL").findAll s) :
    ∃ u h g b t, s = u ++ (h ++ (g ++ (b ++ ';' :: t))) ∧ ExecHead "SQL" h ∧ Blanks b ∧ ';' ∉ g ∧
      o = ⟨⟨u.length, (u ++ h ++ g ++ b).length + 1⟩, [(1, ⟨(u ++ h).length, (u ++ h ++ g).length⟩)]⟩ := by
  obtain ⟨u, w, t, rfl, _, hat, _⟩ := (scans_findAll _ s).mem ho
  obtain ⟨h, g, b, t', hx, hh, hb, hg, rfl⟩ := at?_execPattern hat
  exact ⟨u, h, g, b, t', by simp [hx], hh, hb, hg, by simp⟩

theorem semicolon_mem_content {s : List Char} {b : Block} (hb : b ∈ (replaceStatements s).blocks) :
    ';' ∈ slice s b.start b.stop := by
  obtain ⟨o, ho, _, rfl⟩ := mem_statements.mp hb
  obtain ⟨u, h, g, b, t, rfl, _, _, _, rfl⟩ := found_statement ho
  have hslice := slice_append u (h ++ (g ++ (b ++ [';']))) t
  simp only [List.append_assoc, List.singleton_append, List.length_append, List.length_singleton] at hslice ⊢
  rw [show u.length + (h.length + (g.length + b.length)) + 1 =
    u.length + (h.length + (g.length + (b.length + 1))) by omega, hslice]
  simp

/-! ## Calls in place of statements -/

/-- A text that can be no part of a head, wherever it is put. -/
structure Inert (s : List Char) : Prop where
  opens : s.head? = some '_'
  closes : s.getLast? = some ')'
  solid : ∀ c ∈ s, isBlank c = false

theorem placeholder_inert (k : Kind) : Inert (placeholder k) := by
  cases k <;> exact ⟨by decide, by decide, by decide⟩

theorem placeholder_newline (k : Kind) : '\n' ∉ placeholder k := by
  cases k <;> decide

section Inert

variable {k : String} {h : List Char}

/-- Neither end of an inert text is a letter of the words of a head. -/
def Spare (k : String) : Prop :=
  caseKey '_' ∉ k.toList.map caseKey ∧ caseKey ')' ∉ k.toList.map caseKey

theorem ExecHead.not_mem_inert (hh : ExecHead k h) (hk : Spare k) : '_' ∉ h ∧ ')' ∉ h := by
  have hexec : Spare "EXEC" := by unfold Spare; decide
  constructor
  · intro hc
    rcases hh.mem hc with hc | hc | hc
    · revert hc; decide
    · exact hexec.1 hc
    · exact hk.1 hc
  · intro hc
    rcases hh.mem hc with hc | hc | hc
    · revert hc; decide
    · exact hexec.2 hc
    · exact hk.2 hc

/-- No head starts in an inert text. -/
theorem ExecHead.not_in_inert (hh : ExecHead k h) (hk : Spare k) {r v y z : List Char}
    (hnew : Inert (r ++ v)) (hne : v ≠ []) : h ++ z ≠ v ++ y := by
  intro hx
  have hlast : ')' ∈ v := by
    have hcloses := hnew.closes
    rw [List.getLast?_append, List.getLast?_eq_some_getLast hne, Option.some_or,
      Option.some.injEq] at hcloses
    exact hcloses ▸ List.getLast_mem hne
  rcases List.append_eq_append_iff.mp hx with ⟨v', rfl, _⟩ | ⟨h', rfl, _⟩
  · obtain ⟨e, b, h', rfl, _, hb⟩ := hh.starts
    have := hnew.solid b (by simp)
    simp [hb] at this
  · exact (hh.not_mem_inert hk).2 (by simp [hlast])

/-- A head that starts before an inert text ends before it. -/
theorem ExecHead.before_inert (hh : ExecHead k h) (hk : Spare k) {v new y z : List Char}
    (hnew : Inert new) (hx : h ++ z = v ++ (new ++ y)) : ∃ v', v = h ++ v' ∧ z = v' ++ (new ++ y) := by
  rcases List.append_eq_append_iff.mp hx with ⟨v', hv, hz⟩ | ⟨h', rfl, hy⟩
  · exact ⟨v', hv, hz⟩
  · cases h' with
    | nil => exact ⟨[], by simp, by simpa using hy.symm⟩
    | cons c h' =>
        obtain ⟨r, rfl⟩ := List.head?_eq_some_iff.mp hnew.opens
        obtain ⟨rfl, _⟩ := List.cons.inj hy
        exact absurd (by simp) (hh.not_mem_inert hk).1

/-- Inert replacements of stretches that hold a semicolon make no new statement. -/
theorem head_of_spliceFrom {edits : List (Span × List Char)} {u t x z : List Char} (hk : Spare k)
    (hcuts : Cuts u t (edits.map (·.1))) (hnew : ∀ e ∈ edits, Inert e.2)
    (hsemi : ∀ e ∈ edits, ';' ∈ slice (u ++ t) e.1.start e.1.stop)
    (hx : spliceFrom u.length t edits = x ++ (h ++ z)) (hh : ExecHead k h) (hz : ';' ∈ z) :
    ∃ x' z', t = x' ++ (h ++ z') ∧ ';' ∈ z' := by
  induction edits generalizing u t x with
  | nil => exact ⟨x, z, hx, hz⟩
  | cons e edits ih =>
      obtain ⟨span, new⟩ := e
      rw [List.map_cons] at hcuts
      cases hcuts with
      | @cons _ v w t _ hcuts =>
          have hinert : Inert new := hnew (_, new) List.mem_cons_self
          have hw : ';' ∈ w := by
            have := hsemi (_, new) List.mem_cons_self
            rwa [← List.append_assoc, slice_append] at this
          rw [spliceFrom_cons] at hx
          rcases List.append_eq_append_iff.mp hx with ⟨x₁, rfl, hx₁⟩ | ⟨v₁, rfl, hx₁⟩
          · rcases List.append_eq_append_iff.mp hx₁ with ⟨x₂, rfl, hx₂⟩ | ⟨n, rfl, hx₂⟩
            · obtain ⟨x', z', rfl, hz'⟩ := ih hcuts (fun e he => hnew e (by simp [he]))
                (fun e he => by simpa using hsemi e (by simp [he])) hx₂
              exact ⟨v ++ (w ++ x'), z', by simp, hz'⟩
            · cases n with
              | nil =>
                  obtain ⟨x', z', rfl, hz'⟩ := ih (x := []) hcuts (fun e he => hnew e (by simp [he]))
                    (fun e he => by simpa using hsemi e (by simp [he])) (by simpa using hx₂.symm)
                  exact ⟨v ++ (w ++ x'), z', by simp, hz'⟩
              | cons c n => exact absurd hx₂ (hh.not_in_inert hk hinert (by simp))
          · obtain ⟨v', rfl, rfl⟩ := hh.before_inert hk hinert hx₁
            exact ⟨x, v' ++ (w ++ t), by simp, by simp [hw]⟩

end Inert

/-- Replacing the statements makes no precompiler option. -/
theorem options_free_replaceStatements {s : List Char} (h : (execPattern "ORACLE").findAll s = []) :
    (execPattern "ORACLE").findAll (replaceStatements s).text = [] := by
  rw [findAll_execPattern_eq_nil_iff] at h ⊢
  intro u hd t hs hh ht
  rw [replaceStatements_text] at hs
  have hinert : ∀ e ∈ (replaceStatements s).blocks.map Block.edit, Inert e.2 := by
    intro e he
    obtain ⟨b, _, rfl⟩ := List.mem_map.mp he
    exact placeholder_inert b.kind
  have hsemi : ∀ e ∈ (replaceStatements s).blocks.map Block.edit,
      ';' ∈ slice ([] ++ s) e.1.start e.1.stop := by
    intro e he
    obtain ⟨b, hb, rfl⟩ := List.mem_map.mp he
    exact semicolon_mem_content hb
  obtain ⟨u', t', rfl, ht'⟩ := head_of_spliceFrom (u := []) (by unfold Spare; decide) (cuts_statements s)
    hinert hsemi hs hh ht
  exact h u' hd t' rfl hh ht'

theorem replaceOptions_of_free {s : List Char} (h : (execPattern "ORACLE").findAll s = []) :
    replaceOptions s = s := by
  simp [replaceOptions, Pattern.replaceAll, h, splice, spliceFrom]

end EsqlAudit.Sql
