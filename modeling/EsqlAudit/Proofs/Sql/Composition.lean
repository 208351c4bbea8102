import EsqlAudit.Proofs.Sql.Exhaustive

/-!
# The pass over the statements behind a semicolon

A statement ends at its first semicolon and its head holds none, so no statement reaches over a semicolon that ends a
text: the pass over two texts, the first of which ends so, is the pass over each of them. What stands before a text only
moves its blocks.
-/

namespace EsqlAudit.Sql
open Text Pattern

/-! ## Texts in steps of the pass -/

/-- No statement starts the text. -/
def StartsNone (t : List Char) : Prop :=
  ∀ h z, t = h ++ z → ExecHead "SQL" h → ';' ∉ z

/-- A text that ends with a semicolon starts no statement because of what follows it. -/
theorem StartsNone.append {t : List Char} (h : StartsNone t) (hend : t.getLast? = some ';') (s : List Char) :
    StartsNone (t ++ s) := by
  obtain ⟨x, rfl⟩ := List.getLast?_eq_some_iff.mp hend
  intro hd z heq hh _
  rw [List.append_assoc, List.singleton_append] at heq
  obtain ⟨y, rfl, -⟩ := cut_after hh.semicolon_not_mem heq.symm
  exact absurd (by simp) (h hd (y ++ [';']) (by simp) hh)

/-- A text is passed character by character, and each statement that starts is taken up to its semicolon. -/
theorem statement_induction {motive : List Char → Prop} (nil : motive [])
    (pass : ∀ c t, StartsNone (c :: t) → motive t → motive (c :: t))
    (take : ∀ h g t, ExecHead "SQL" h → ';' ∉ g → motive t → motive ((h ++ (g ++ [';'])) ++ t)) (t : List Char) :
    motive t := by
  match t with
  | [] => exact nil
  | c :: t =>
      by_cases hnone : StartsNone (c :: t)
      · exact pass c t hnone (statement_induction nil pass take t)
      · simp only [StartsNone, Classical.not_forall, Classical.not_not] at hnone
        obtain ⟨h, z, heq, hh, hz⟩ := hnone
        obtain ⟨g, t', rfl, hg⟩ := List.eq_append_cons_of_mem hz
        have hcut : c :: t = (h ++ (g ++ [';'])) ++ t' := by simp [heq]
        have hlen : t'.length < (c :: t).length := by
          simp only [hcut, List.length_append, List.length_singleton]
          omega
        rw [hcut]
        exact take h g t' hh hg (statement_induction nil pass take t')
termination_by t.length
decreasing_by
  · exact Nat.lt_succ_self _
  · exact hlen

/-! ## Blocks of a text that stands after another -/

/-- The blocks of the pass over `t` when `t` stands after `u`. -/
def blocksAfter (u t : List Char) : List Block :=
  blocksOf (lineStarts (u ++ t)) (u ++ t) ((execPattern "SQL").findAllFrom u.getLast? u.length 0 t)

/-- The block of the statement `w`, which says `g`, after `u`. -/
def statementBlock (u w g : List Char) : Block :=
  ⟨u.length, (u ++ w).length, newlines u + 1, w, classify (strip g)⟩

section Blocks

variable {u t h g : List Char}

theorem blocksAfter_nil (u : List Char) : blocksAfter u [] = [] := rfl

theorem blocksAfter_pass {c : Char} (hnone : StartsNone (c :: t)) :
    blocksAfter u (c :: t) = blocksAfter (u ++ [c]) t := by
  rw [blocksAfter, findAllFrom_pass (passed_of_none hnone), blocksAfter, List.append_assoc, List.singleton_append]

theorem isSectionMark_congr {x y : List Char} (h : strip x = strip y) : isSectionMark x = isSectionMark y := by
  simp only [isSectionMark, h]

theorem blocksAfter_take (hh : ExecHead "SQL" h) (hg : ';' ∉ g) :
    blocksAfter u ((h ++ (g ++ [';'])) ++ t) =
      (if isSectionMark g then [] else [statementBlock u (h ++ (g ++ [';'])) g]) ++
        blocksAfter (u ++ (h ++ (g ++ [';']))) t := by
  obtain ⟨o, hat, hspan, hstrip⟩ := at?_statement (b := []) hh hg (by simp [Blanks]) u t
  rw [List.nil_append] at hat hspan hstrip
  have hne : h ++ (g ++ [';']) ≠ [] := by simp
  generalize h ++ (g ++ [';']) = w at hat hspan hstrip hne ⊢
  have hblock : blockOf (lineStarts (u ++ (w ++ t))) (u ++ (w ++ t)) o = statementBlock u w g := by
    rw [blockOf, hspan, lineIn_lineStarts, lineAt_append, Occurrence.text, hspan, slice_append, hstrip, statementBlock]
  rw [blocksAfter, findAllFrom_take hat hne hspan, blocksAfter, List.append_assoc, blocksOf, List.filter_cons,
    isSectionMark_congr hstrip]
  cases isSectionMark g with
  | true => rfl
  | false => exact congrArg (· :: _) hblock

/-- The block behind a text of `n` characters and `k` newlines. -/
def Block.shift (n k : Nat) (b : Block) : Block :=
  { b with start := b.start + n, stop := b.stop + n, line := b.line + k }

theorem shift_statementBlock (u v w g : List Char) :
    (statementBlock v w g).shift u.length (newlines u) = statementBlock (u ++ v) w g := by
  simp only [Block.shift, statementBlock, List.length_append, newlines_append, Block.mk.injEq, and_true]
  omega

/-- What stands before a text moves its blocks and changes nothing else. -/
theorem blocksAfter_shift (u v t : List Char) :
    blocksAfter (u ++ v) t = (blocksAfter v t).map (Block.shift u.length (newlines u)) := by
  induction t using statement_induction generalizing v with
  | nil => rfl
  | pass c t hnone ih =>
      rw [blocksAfter_pass hnone, blocksAfter_pass hnone, List.append_assoc]
      exact ih (v ++ [c])
  | take h g t hh hg ih =>
      rw [blocksAfter_take hh hg, blocksAfter_take hh hg, List.append_assoc, ih, List.map_append]
      congr 1
      split
      · rfl
      · rw [List.map_singleton, shift_statementBlock]

theorem blocksAfter_append {s : List Char} (hend : ∀ c ∈ s.getLast?, c = ';') (u t : List Char) :
    blocksAfter u (s ++ t) = blocksAfter u s ++ blocksAfter (u ++ s) t := by
  induction s using statement_induction generalizing u with
  | nil => simp [blocksAfter_nil]
  | pass c s hnone ih =>
      have hlast : (c :: s).getLast? = some ';' := by
        have hsome := List.getLast?_eq_some_getLast (List.cons_ne_nil c s)
        rw [hsome, hend _ hsome]
      have hrest : ∀ d ∈ s.getLast?, d = ';' := fun d hd => hend d (by
        rw [List.getLast?_cons, Option.mem_def.mp hd]
        rfl)
      have hboth : StartsNone (c :: (s ++ t)) := hnone.append hlast t
      rw [List.cons_append, blocksAfter_pass hboth, blocksAfter_pass hnone, ih hrest, List.append_assoc,
        List.singleton_append]
  | take h g s hh hg ih =>
      have hrest : ∀ d ∈ s.getLast?, d = ';' := fun d hd => hend d (by
        rw [List.getLast?_append, Option.mem_def.mp hd]
        rfl)
      rw [List.append_assoc _ s t, blocksAfter_take hh hg, blocksAfter_take hh hg, ih hrest, ← List.append_assoc,
        List.append_assoc u]

end Blocks

/-! ## Texts that are left -/

theorem Block.Stated.shift {b : Block} (h : b.Stated) (n k : Nat) : (b.shift n k).Stated := by
  cases h with
  | mk hcontent hh hg hc hmark hkind => exact .mk hcontent hh hg hc hmark hkind

namespace Replaced

variable {u v s s' t t' : List Char} {bs bs' : List Block}

theorem shift (h : Replaced v s bs t) (u : List Char) (k : Nat) :
    Replaced (u ++ v) s (bs.map (Block.shift u.length k)) t := by
  induction h with
  | nil => exact .nil
  | @cons v w s bs t b hstart hstop hstated _ ih =>
      have hrest : Replaced (u ++ v ++ w ++ b.content) s (bs.map (Block.shift u.length k)) t := by simpa using ih
      refine .cons (b := b.shift u.length k) ?_ ?_ (hstated.shift u.length k) hrest
      · simp only [Block.shift, hstart, List.length_append]
        omega
      · simp only [Block.shift, hstop, List.length_append]
        omega

theorem append (h : Replaced u s bs t) (h' : Replaced (u ++ s) s' bs' t') :
    Replaced u (s ++ s') (bs ++ bs') (t ++ t') := by
  induction h with
  | nil => exact h'.extend
  | @cons u v s bs t b hstart hstop hstated _ ih =>
      have hrest := ih (by simpa using h')
      simpa using Replaced.cons hstart hstop hstated hrest

end Replaced

/-! ## The pass -/

theorem replaceStatements_blocks (s : List Char) : (replaceStatements s).blocks = blocksAfter [] s := rfl

theorem replaced_replaceStatements (s : List Char) :
    Replaced [] s (replaceStatements s).blocks (replaceStatements s).text := by
  obtain ⟨t, hr, -⟩ := replaced_of_scans (s := s) (lineStarts s) (scans_findAll (execPattern "SQL") s) rfl
  have htext : t = (replaceStatements s).text := by
    rw [replaceStatements_text]
    exact hr.eq_spliceFrom
  exact htext ▸ hr

theorem blocks_append {s₁ : List Char} (h : s₁.getLast? = some ';') (s₂ : List Char) :
    (replaceStatements (s₁ ++ s₂)).blocks = (replaceStatements s₁).blocks ++
      (replaceStatements s₂).blocks.map (Block.shift s₁.length (newlines s₁)) := by
  simp only [replaceStatements_blocks]
  rw [blocksAfter_append (by simp [h]), ← blocksAfter_shift, List.append_nil, List.nil_append]

theorem text_append {s₁ : List Char} (h : s₁.getLast? = some ';') (s₂ : List Char) :
    (replaceStatements (s₁ ++ s₂)).text = (replaceStatements s₁).text ++ (replaceStatements s₂).text := by
  have hsecond := (replaced_replaceStatements s₂).shift s₁ (newlines s₁)
  rw [List.append_nil] at hsecond
  have hboth := (replaced_replaceStatements s₁).append hsecond
  rw [← blocks_append h] at hboth
  rw [replaceStatements_text]
  exact hboth.eq_spliceFrom.symm

namespace Preparer

theorem replaceStatements_turnTo (p : Preparer) (s : List Char) : (p.turnTo s).replaceStatements s =
    ((Sql.replaceStatements s).text, ⟨p.blocks ++ (Sql.replaceStatements s).blocks, lineStarts s⟩) := by
  rw [replaceStatements_eq, replaceStatements_text]
  rfl

/-- Behind a semicolon the pass starts afresh: it leaves what it leaves of each part, and its blocks are those of each
part, those of the second in their places behind the first. -/
theorem replaceStatements_append {s₁ : List Char} (h : s₁.getLast? = some ';') (s₂ : List Char) :
    ∃ t₁ bs₁ t₂ bs₂,
      (∀ p : Preparer, (p.turnTo s₁).replaceStatements s₁ = (t₁, ⟨p.blocks ++ bs₁, lineStarts s₁⟩)) ∧
      (∀ p : Preparer, (p.turnTo s₂).replaceStatements s₂ = (t₂, ⟨p.blocks ++ bs₂, lineStarts s₂⟩)) ∧
      ∀ p : Preparer, (p.turnTo (s₁ ++ s₂)).replaceStatements (s₁ ++ s₂) =
        (t₁ ++ t₂, ⟨p.blocks ++ (bs₁ ++ bs₂.map (Block.shift s₁.length (newlines s₁))), lineStarts (s₁ ++ s₂)⟩) := by
  refine ⟨_, _, _, _, fun p => p.replaceStatements_turnTo s₁, fun p => p.replaceStatements_turnTo s₂, fun p => ?_⟩
  rw [replaceStatements_turnTo, text_append h, blocks_append h]

/-- The words `EXEC` and `SQL` on the two sides of the semicolon make no statement. -/
theorem replaceStatements_append_split_head :
    let s₁ := "\nEXEC SQL COMMIT;EXEC;".toList
    let s₂ := " SQL 1;\nEXEC SQL OPEN c;".toList
    let r := (Preparer.new.turnTo (s₁ ++ s₂)).replaceStatements (s₁ ++ s₂)
    s₁.getLast? = some ';' ∧ r.1 = "\n__exec_sql_commit__()EXEC; SQL 1;\n__exec_sql_open__()".toList ∧
      r.2.blocks.map Block.start = [1, 30] ∧ r.2.blocks.map Block.line = [2, 3] := by
  intro s₁ s₂ r
  have hend : s₁.getLast? = some ';' := by decide
  obtain ⟨t₁, bs₁, t₂, bs₂, h₁, h₂, h⟩ := replaceStatements_append hend s₂
  have htext : r.1 = t₁ ++ t₂ := congrArg Prod.fst (h .new)
  have hblocks : r.2.blocks = bs₁ ++ bs₂.map (Block.shift s₁.length (newlines s₁)) :=
    congrArg (·.2.blocks) (h .new)
  obtain rfl : _ = t₁ := congrArg Prod.fst (h₁ .new)
  obtain rfl : _ = t₂ := congrArg Prod.fst (h₂ .new)
  obtain rfl : _ = bs₁ := congrArg (·.2.blocks) (h₁ .new)
  obtain rfl : _ = bs₂ := congrArg (·.2.blocks) (h₂ .new)
  exact ⟨hend, htext.trans (by decide +kernel), by rw [hblocks]; decide +kernel, by rw [hblocks]; decide +kernel⟩

end Preparer

end EsqlAudit.Sql
