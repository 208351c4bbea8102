import EsqlAudit.Proofs.Analysis.Namesakes
import EsqlAudit.Proofs.Sql.Positions
import EsqlAudit.Proofs.Syntax.Lines

/-!
# Blocks on the lines of functions

The line of a block counts the newlines of the statements before it, and the lines of functions do not: the
call that stands for a statement is on one line. In a program without declare sections and precompiler
options, blocks are counted for the functions that hold their calls if and only if no statement but the last
goes over several lines.
-/

namespace EsqlAudit.Sql
open Text Pattern

/-- The lines of the plain text on which the calls stand that are put in the place of the blocks. -/
def placeholderLines (s : List Char) : List Nat :=
  (insertions ((prepare s).blocks.map Block.edit)).map (lineAt (prepare s).text)

theorem placeholderLines_sorted (s : List Char) : (placeholderLines s).Pairwise (· ≤ ·) := by
  rw [placeholderLines, List.pairwise_map]
  exact (insertionsFrom_sorted 0 0 _).imp fun h => lineAt_mono _ h

section Plain

variable {s : List Char} (hsections : sectionPattern.findAll s = [])
  (hoptions : (execPattern "ORACLE").findAll s = [])

include hsections hoptions

theorem prepare_plain : (prepare s).blocks = (replaceStatements s).blocks ∧
    (prepare s).text = (replaceStatements s).text := by
  have hblocks : (openSections s).blocks = [] := List.map_eq_nil_iff.mpr hsections
  have htext := openSections_text_of_nil hblocks
  have hfree := options_free_replaceStatements hoptions
  constructor
  · rw [prepare, hblocks, htext, List.nil_append]
  · rw [prepare, htext, replaceOptions_of_free hfree]

/-- The call for each block stands where it is said to. -/
theorem placeholder_stands {i k : Nat} {b : Block} (hb : (prepare s).blocks[i]? = some b)
    (hk : (insertions ((prepare s).blocks.map Block.edit))[i]? = some k) :
    ∃ x y, (prepare s).text = x ++ (placeholder b.kind ++ y) ∧ x.length = k := by
  obtain ⟨hblocks, htext⟩ := prepare_plain hsections hoptions
  rw [hblocks] at hb hk
  have he : ((replaceStatements s).blocks.map Block.edit)[i]? = some b.edit := by
    rw [List.getElem?_map, hb]
    rfl
  rw [htext, replaceStatements_text]
  exact insertions_stands (cuts_statements s) he hk

/-- A block is as many lines below its call as the statements before it hold newlines. -/
theorem blocks_lines : (prepare s).blocks.map (·.line) =
    List.zipWith (· + ·) (placeholderLines s) (newlinesBefore 0 ((prepare s).blocks.map (·.content))) := by
  obtain ⟨hblocks, htext⟩ := prepare_plain hsections hoptions
  have hnew : ∀ e ∈ (replaceStatements s).blocks.map Block.edit, '\n' ∉ e.2 := by
    intro e he
    obtain ⟨b, _, rfl⟩ := List.mem_map.mp he
    exact placeholder_newline b.kind
  have hlines : (replaceStatements s).blocks.map (·.line) =
      ((replaceStatements s).blocks.map Block.edit).map fun e => lineAt s e.1.start := by
    rw [List.map_map]
    exact List.map_congr_left fun b hb => (statement_pointsInto hb).line
  have hcontents : (replaceStatements s).blocks.map (·.content) =
      ((replaceStatements s).blocks.map Block.edit).map fun e => slice s e.1.start e.1.stop := by
    rw [List.map_map]
    exact List.map_congr_left fun b hb => (statement_pointsInto hb).content.symm
  rw [placeholderLines, hblocks, htext, hlines, hcontents, replaceStatements_text]
  exact lineAt_insertions (cuts_statements s) hnew

theorem lines_eq (h : ∀ b ∈ (prepare s).blocks.dropLast, '\n' ∉ b.content) :
    (prepare s).blocks.map (·.line) = placeholderLines s := by
  have hlen : (placeholderLines s).length = (prepare s).blocks.length := by
    rw [placeholderLines, List.length_map, insertions, length_insertionsFrom, List.length_map]
  have hone : ∀ t ∈ ((prepare s).blocks.map (·.content)).dropLast, '\n' ∉ t := by
    rw [← List.map_dropLast]
    intro t ht
    obtain ⟨b, hb, rfl⟩ := List.mem_map.mp ht
    exact h b hb
  rw [blocks_lines hsections hoptions, newlinesBefore_eq_replicate 0 hone, List.length_map, ← hlen,
    zipWith_add_replicate_zero]

/-- After a statement over several lines, the last block is below its call, which is below all others. -/
theorem last_drifts {b : Block} (hb : b ∈ (prepare s).blocks.dropLast) (hline : '\n' ∈ b.content) :
    ∃ x t lines blockLines, (prepare s).text = x ++ '_' :: t ∧
      placeholderLines s = lines ++ [lineAt (prepare s).text x.length] ∧
      (∀ l ∈ lines, l ≤ lineAt (prepare s).text x.length) ∧ blockLines.length = lines.length ∧
      ∃ l, (prepare s).blocks.map (·.line) = blockLines ++ [l] ∧ lineAt (prepare s).text x.length < l := by
  rcases List.eq_nil_or_concat (prepare s).blocks with hnil | ⟨bs, z, hbs⟩
  · rw [hnil] at hb
    cases hb
  rcases List.eq_nil_or_concat (insertions ((prepare s).blocks.map Block.edit)) with hnil | ⟨ks, k, hks⟩
  · have hlen := congrArg List.length hnil
    rw [insertions, length_insertionsFrom, hbs] at hlen
    simp at hlen
  rw [List.concat_eq_append] at hbs hks
  have hlen : ks.length = bs.length := by
    have hboth := congrArg List.length hks
    rw [insertions, length_insertionsFrom, hbs] at hboth
    simpa using hboth.symm
  obtain ⟨x, y, htext, rfl⟩ := placeholder_stands hsections hoptions (i := bs.length) (b := z) (k := k)
    (by simp [hbs]) (by simp [hks, hlen])
  obtain ⟨rest, hrest⟩ := List.head?_eq_some_iff.mp (placeholder_inert z.kind).opens
  have hlines : placeholderLines s =
      ks.map (lineAt (prepare s).text) ++ [lineAt (prepare s).text x.length] := by
    rw [placeholderLines, hks, List.map_append, List.map_singleton]
  have hcontents : (prepare s).blocks.map (·.content) = bs.map (·.content) ++ [z.content] := by
    rw [hbs, List.map_append, List.map_singleton]
  have hdrift := blocks_lines hsections hoptions
  rw [hlines, hcontents, newlinesBefore_concat,
    List.zipWith_append (by simp [length_newlinesBefore, hlen])] at hdrift
  have hsorted := placeholderLines_sorted s
  rw [hlines, List.pairwise_append] at hsorted
  have hnewlines : 0 < newlines (bs.map (·.content)).flatten := by
    rw [hbs, List.dropLast_concat] at hb
    refine Nat.pos_of_ne_zero fun hzero => newlines_eq_zero_iff.mp hzero ?_
    exact List.mem_flatten.mpr ⟨b.content, List.mem_map_of_mem hb, hline⟩
  refine ⟨x, rest ++ y, _, _, by rw [htext, hrest]; rfl, hlines, ?_, ?_, _, hdrift, ?_⟩
  · exact fun l hl => hsorted.2.2 l hl _ List.mem_cons_self
  · simp [length_newlinesBefore, hlen]
  · dsimp only
    omega

end Plain

end EsqlAudit.Sql

namespace EsqlAudit.Analysis
open Complexity Syntax Text Sql

/-! ## Counting for functions -/

/-- How many of the lines are lines of the function. -/
def linesIn (f : Function) (lines : List Nat) : Nat :=
  lines.countP fun l => decide (f.startLine ≤ l) && decide (l ≤ f.endLine)

theorem blocksIn_eq (blocks : List Block) (f : Function) :
    blocksIn blocks f = linesIn f (blocks.map (·.line)) := by
  rw [linesIn, List.countP_map]
  rfl

/-- Whatever tree the plain text of the program has, each function is reported with the number of calls for
blocks on its lines. -/
def Attributed (s : List Char) : Prop :=
  ∀ (options : Options) (parse : List Char → Option Node) (inventory : Comment.Inventory) (filepath : String)
    (fs : List Function), Function.all (programOf parse s) = .ok fs →
    ∀ (i : Nat) (f : Function) (m : FunctionMetrics), fs[i]? = some f →
      (analyze options parse inventory s filepath).1.functions[i]? = some m →
      m.sqlBlocks = linesIn f (placeholderLines s)

theorem attributed_of_lines_eq {s : List Char}
    (h : (prepare s).blocks.map (·.line) = placeholderLines s) : Attributed s := by
  intro options parse inventory filepath fs hall i f m hf hm
  rw [functions_analyze options inventory filepath hall] at hm
  obtain ⟨g, r, hg, _, rfl⟩ := getElem?_reported hm
  cases hf.symm.trans hg
  rw [← h, ← blocksIn_eq]
  rfl

/-! ## A function up to the last call -/

/-- A tree of one function that ends before the byte at `stop` and is named by this byte. -/
def probe (stop : Nat) : Node :=
  .mk .functionDefinition 0 stop
    [.mk .functionDeclarator stop (stop + 1) [.mk .identifier stop (stop + 1) [] true false] true false]
    true false

/-- The function of the tree. -/
def probed (stop line : Nat) : Function :=
  ⟨"_", 1, line, some (probe stop), [], "void"⟩

theorem ofDefinition_probe {p : Program} {stop : Nat}
    (hname : p.nodeText (.mk .identifier stop (stop + 1) [] true false) = .ok "_") :
    Function.ofDefinition p (probe stop) = .ok (some (probed stop (p.lineOf stop))) := by
  have hdeclarator : Function.declarator? (probe stop) = some (.mk .functionDeclarator stop (stop + 1)
      [.mk .identifier stop (stop + 1) [] true false] true false) := rfl
  have hidentifier : Function.identifierIn p (.mk .functionDeclarator stop (stop + 1)
      [.mk .identifier stop (stop + 1) [] true false] true false) = .ok (some "_") := by
    show (p.nodeText (.mk .identifier stop (stop + 1) [] true false)).map some = _
    rw [hname]
    rfl
  have hfirst : p.lineOf 0 = 1 := by simp [Program.lineOf]
  simp only [Function.ofDefinition, hdeclarator, hidentifier, bind, Except.bind]
  simp only [probe, Node.start, Node.stop, hfirst]
  rfl

theorem all_probe (u t : List Char) :
    ∃ others, Function.all (.load (u ++ '_' :: t) (some (probe (Utf8.encode u).length))) =
      .ok (probed (Utf8.encode u).length (lineAt (u ++ '_' :: t) u.length) :: others) := by
  have hname := Program.nodeText_load (u := u) (t := t) (some (probe (Utf8.encode u).length)) (c := '_') (b := 95)
    (n := .mk .identifier (Utf8.encode u).length ((Utf8.encode u).length + 1) [] true false) rfl rfl rfl rfl
  have hdef := ofDefinition_probe hname
  rw [Program.lineOf_load] at hdef
  generalize hp : Program.load (u ++ '_' :: t) (some (probe (Utf8.encode u).length)) = p at hdef ⊢
  have hdefinitions : p.nodes.filter (·.kind == .functionDefinition) = [probe (Utf8.encode u).length] := by
    rw [← hp]
    rfl
  have htree : Function.inTree p =
      .ok [probed (Utf8.encode u).length (lineAt (u ++ '_' :: t) u.length)] := by
    rw [Function.inTree, hdefinitions, List.mapM_cons, hdef]
    rfl
  exact ⟨_, by rw [Function.all, htree]; rfl⟩

/-- The tree makes a report of its function. -/
theorem reported_probe (blocks : List Block) (p : Program) (stop line : Nat) (others : List Function) :
    (reported ⟨false, false, false, false⟩ blocks p (probed stop line :: others))[0]? =
      some (describe blocks (probed stop line) ⟨1, 0, none⟩) := by
  have hfirst : namesake (probed stop line :: others) (probed stop line) = probed stop line := by
    simp [namesake]
  have hfigures : figuresOf ⟨false, false, false, false⟩ p (probed stop line) = .ok ⟨1, 0, none⟩ := by
    rw [figuresOf_eq]
    rfl
  rw [reported_eq, List.map_cons, hfirst, hfigures]
  rfl

theorem linesIn_concat (f : Function) (lines : List Nat) (l : Nat) :
    linesIn f (lines ++ [l]) = linesIn f lines + if f.startLine ≤ l ∧ l ≤ f.endLine then 1 else 0 := by
  rw [linesIn, List.countP_append, linesIn]
  simp [List.countP_cons]

theorem Attributed.probed {s x t : List Char} (h : Attributed s) (htext : (prepare s).text = x ++ '_' :: t) :
    linesIn (probed (Utf8.encode x).length (lineAt (prepare s).text x.length)) ((prepare s).blocks.map (·.line)) =
      linesIn (probed (Utf8.encode x).length (lineAt (prepare s).text x.length)) (placeholderLines s) := by
  obtain ⟨others, hprobe⟩ := all_probe x t
  rw [← htext] at hprobe
  have hall : Function.all (programOf (fun _ => some (probe (Utf8.encode x).length)) s) =
      .ok (Analysis.probed (Utf8.encode x).length (lineAt (prepare s).text x.length) :: others) := hprobe
  have hreport := functions_analyze ⟨false, false, false, false⟩ .empty "" hall
  have hfirst := reported_probe (prepare s).blocks (programOf (fun _ => some (probe (Utf8.encode x).length)) s)
    (Utf8.encode x).length (lineAt (prepare s).text x.length) others
  rw [← hreport] at hfirst
  have hcount := h _ _ _ _ _ hall 0 _ _ List.getElem?_cons_zero hfirst
  rw [← blocksIn_eq]
  exact Int.ofNat_inj.mp hcount

/-- A statement over several lines that is not the last makes the last one be counted on a later line than
that of its call. -/
theorem not_attributed {s : List Char} (hsections : sectionPattern.findAll s = [])
    (hoptions : (execPattern "ORACLE").findAll s = []) {b : Block} (hb : b ∈ (prepare s).blocks.dropLast)
    (hline : '\n' ∈ b.content) : ¬ Attributed s := by
  intro hattr
  obtain ⟨x, t, lines, blockLines, htext, hlines, hle, hlen, l, hblocks, hlt⟩ :=
    last_drifts hsections hoptions hb hline
  have hcount := hattr.probed htext
  have hpos : ∀ k ∈ lines ++ [lineAt (prepare s).text x.length], 1 ≤ k := by
    rw [← hlines]
    intro k hk
    obtain ⟨i, _, rfl⟩ := List.mem_map.mp hk
    exact Nat.le_add_left 1 _
  rw [hblocks, hlines] at hcount
  generalize lineAt (prepare s).text x.length = last at *
  generalize (Utf8.encode x).length = stop at hcount
  have hpart : linesIn (probed stop last) (blockLines ++ [l]) ≤ blockLines.length := by
    rw [linesIn_concat, if_neg fun h => Nat.not_le.mpr hlt h.2]
    exact List.countP_le_length
  have hfull : linesIn (probed stop last) (lines ++ [last]) = (lines ++ [last]).length := by
    rw [linesIn, List.countP_eq_length]
    intro k hk
    have hk' : k ≤ last := by
      rcases List.mem_append.mp hk with hk | hk
      · exact hle k hk
      · exact Nat.le_of_eq (List.mem_singleton.mp hk)
    simp [probed, hpos k hk, hk']
  rw [hcount, hfull, List.length_append, List.length_singleton] at hpart
  omega

/-- In a program without declare sections and precompiler options, each block is as many lines below its call
as the statements before it hold newlines. So blocks are counted for the functions that hold their calls if
and only if no statement but the last goes over several lines. -/
theorem attributed_iff {s : List Char} (hsections : sectionPattern.findAll s = [])
    (hoptions : (execPattern "ORACLE").findAll s = []) :
    (∀ (i : Nat) b k, (prepare s).blocks[i]? = some b →
        (insertions ((prepare s).blocks.map Block.edit))[i]? = some k →
        ∃ x y, (prepare s).text = x ++ (placeholder b.kind ++ y) ∧ x.length = k) ∧
      (prepare s).blocks.map (·.line) =
        List.zipWith (· + ·) (placeholderLines s) (newlinesBefore 0 ((prepare s).blocks.map (·.content))) ∧
      (Attributed s ↔ ∀ b ∈ (prepare s).blocks.dropLast, '\n' ∉ b.content) := by
  refine ⟨fun i b k => placeholder_stands hsections hoptions, blocks_lines hsections hoptions, ?_, ?_⟩
  · exact fun hattr b hb hline => not_attributed hsections hoptions hb hline hattr
  · exact fun h => attributed_of_lines_eq (lines_eq hsections hoptions h)

theorem attributed_iff_last_over_lines :
    let s := "EXEC SQL COMMIT;EXEC SQL SELECT\n1;".toList
    (sectionPattern.findAll s = [] ∧ (execPattern "ORACLE").findAll s = []) ∧ Attributed s := by
  intro s
  have hsections : sectionPattern.findAll s = [] := List.eq_nil_of_length_eq_zero (by decide +kernel)
  have hoptions : (execPattern "ORACLE").findAll s = [] := List.eq_nil_of_length_eq_zero (by decide +kernel)
  exact ⟨⟨hsections, hoptions⟩, (attributed_iff hsections hoptions).2.2.mpr (by decide +kernel)⟩

theorem not_attributed_after_two_lines : ¬ Attributed "EXEC SQL SELECT\n1;EXEC SQL COMMIT;".toList := by
  have hsections : sectionPattern.findAll "EXEC SQL SELECT\n1;EXEC SQL COMMIT;".toList = [] :=
    List.eq_nil_of_length_eq_zero (by decide +kernel)
  have hoptions : (execPattern "ORACLE").findAll "EXEC SQL SELECT\n1;EXEC SQL COMMIT;".toList = [] :=
    List.eq_nil_of_length_eq_zero (by decide +kernel)
  have hlines : ∃ b ∈ (prepare "EXEC SQL SELECT\n1;EXEC SQL COMMIT;".toList).blocks.dropLast,
      '\n' ∈ b.content := by decide +kernel
  obtain ⟨b, hb, hline⟩ := hlines
  exact not_attributed hsections hoptions hb hline

end EsqlAudit.Analysis
