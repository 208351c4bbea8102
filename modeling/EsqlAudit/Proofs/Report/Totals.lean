import EsqlAudit.Proofs.Analysis.Faults
import EsqlAudit.Proofs.Complexity.Cyclomatic
import EsqlAudit.Proofs.Report.Csv
import EsqlAudit.Proofs.Table
import Mathlib.Algebra.BigOperators.Group.List.Lemmas

/-!
# Totals of a report

The figures that a report states of its files are counts of the lists in it: each analysis writes a list and its length
side by side, and a file that could not be read or analyzed has neither.
-/

namespace EsqlAudit

/-! ## Statements by kind -/

/-- Each statement is counted under one kind. -/
theorem Sql.sum_countKinds (blocks : List Block) : ((countKinds blocks).map (·.2)).sum = blocks.length := by
  have hcounted : countKinds blocks = Counter.tally (blocks.map (·.kind)) := by
    rw [countKinds, ← List.nil_append (blocks.map _), ← Counter.foldl_add_tally, List.foldl_map]
    rfl
  rw [hcounted, ← Counter.total_eq_sum, Counter.total_tally, List.length_map]

/-! ## Issues by severity -/

namespace Memory

theorem countOf_split (r : Result) :
    r.countOf .critical + r.countOf .error + r.countOf .warning + r.countOf .info = r.issues.length := by
  obtain ⟨issues, _, _⟩ := r
  simp only [Result.countOf]
  induction issues with
  | nil => rfl
  | cons i issues ih =>
      simp only [List.countP_cons, List.length_cons]
      cases i.severity with
      | critical => simp; omega
      | error => simp; omega
      | warning => simp; omega
      | info => simp; omega

/-- The severity that a record of an issue states. -/
def statedSeverity (r : Record) : String :=
  r.text "severity" ""

theorem statedSeverity_toRecord (i : Issue) : statedSeverity i.toRecord = i.severity.name := rfl

theorem records_toRecord (r : Result) : r.toRecord.records "issues" = r.issues.map Issue.toRecord := by
  change (r.issues.map fun i => Json.obj i.toRecord).map Json.members = _
  rw [List.map_map]
  rfl

theorem countP_info (r : Result) :
    (r.toRecord.records "issues").countP (statedSeverity · == Severity.info.name) = r.countOf .info := by
  rw [records_toRecord, List.countP_map, Result.countOf]
  congr 1
  funext i
  rw [Function.comp_apply, statedSeverity_toRecord]
  cases i.severity <;> decide

/-- Every issue is of a severity that is counted, but for those that only inform. -/
theorem counts_toRecord (r : Result) :
    r.toRecord.int "critical_count" 0 + r.toRecord.int "error_count" 0 + r.toRecord.int "warning_count" 0 +
      (r.toRecord.records "issues").countP (statedSeverity · == Severity.info.name) =
        r.toRecord.int "total_issues" 0 := by
  have hsplit := countOf_split r
  rw [countP_info]
  change (r.countOf .critical : Int) + r.countOf .error + r.countOf .warning + r.countOf .info = r.issues.length
  omega

end Memory

/-! ## The counters of a file -/

/-- What the metrics of a file state are counts of what they list. -/
structure FileMetrics.Tallies (f : FileMetrics) : Prop where
  cursors : f.cursorIssueCount = (issuesOf f.cursors).length
  memory : f.memoryIssueCount = (issuesOf f.memory).length
  statements : f.sqlBlocks = (f.sqlStatistics.members "by_type").total
  figures : ∀ g ∈ f.functions, 1 ≤ g.cyclomatic ∧ 0 ≤ g.cognitive
  severities : ∀ m, f.memory = some m →
    m.int "critical_count" 0 + m.int "error_count" 0 + m.int "warning_count" 0 +
      (m.records "issues").countP (Memory.statedSeverity · == Severity.info.name) = m.int "total_issues" 0

namespace Analysis
open Comment Complexity Files Syntax

theorem statedIssues_cursors (wanted : Bool) (r : Cursor.Result) :
    statedIssues (whenOn wanted r.toRecord) = (issuesOf (whenOn wanted r.toRecord)).length := by
  cases wanted with
  | false => rfl
  | true =>
      change (r.issues.length : Int) = ((r.issues.map fun i => Json.obj i.toRecord).map Json.members).length
      rw [List.length_map, List.length_map]

theorem statedIssues_memory (wanted : Bool) (r : Memory.Result) :
    statedIssues (whenOn wanted r.toRecord) = (issuesOf (whenOn wanted r.toRecord)).length := by
  cases wanted with
  | false => rfl
  | true =>
      change (r.issues.length : Int) = (r.toRecord.records "issues").length
      rw [Memory.records_toRecord, List.length_map]

theorem sqlBlocks_statistics (blocks : List Sql.Block) :
    (statistics blocks).int "total_blocks" 0 = ((statistics blocks).members "by_type").total := by
  refine Eq.trans ?_ (Record.total_ofNat (Sql.countKinds blocks) (·.1.name) (·.2)).symm
  rw [Sql.sum_countKinds]
  rfl

section
variable {options : Options} {blocks : List Sql.Block} {p : Program}

theorem figures_of_workOut {f : Function} {r : Figures} (h : workOut options p f = .ok r) :
    1 ≤ r.cyclomatic ∧ 0 ≤ r.cognitive := by
  rw [workOut] at h
  split at h
  · cases h
  · cases h
  · rename_i a b ha hb
    obtain ⟨halstead, -, rfl⟩ := of_map_ok h
    have hone := one_le_cyclomatic ha
    dsimp only
    omega

theorem figures_measureProgram {g : FunctionMetrics} (hg : g ∈ (measureProgram options blocks p).1) :
    1 ≤ g.cyclomatic ∧ 0 ≤ g.cognitive := by
  cases hall : Function.all p with
  | error e =>
      rw [measureProgram, hall] at hg
      cases hg
  | ok fs =>
      rw [measureProgram_eq hall] at hg
      obtain ⟨i, hi⟩ := List.getElem?_of_mem hg
      obtain ⟨f, -, hf⟩ := List.mem_map.mp (List.mem_of_getElem? (getElem?_gather hi))
      obtain ⟨r, hr, rfl⟩ := of_map_ok hf
      rw [figuresOf_eq] at hr
      exact figures_of_workOut hr

variable {inventory : Inventory} {source : List Char} {filepath : String}

theorem tallies_examine : (examine options inventory source filepath blocks p).1.Tallies := by
  have hfigures := fun g => @figures_measureProgram options blocks p g
  have hstatements := sqlBlocks_statistics blocks
  rcases hmeasured : measureProgram options blocks p with ⟨functions, fault⟩
  rw [hmeasured] at hfigures
  cases fault with
  | some e =>
      rw [examine_failed hmeasured]
      exact ⟨rfl, rfl, hstatements, hfigures, fun m hm => by cases hm⟩
  | none =>
      rw [examine_done hmeasured]
      refine ⟨statedIssues_cursors .., statedIssues_memory .., hstatements, hfigures, fun m hm => ?_⟩
      cases hon : options.memory with
      | false =>
          simp only [hon] at hm
          cases hm
      | true =>
          simp only [hon] at hm
          cases hm
          exact Memory.counts_toRecord _

end

theorem tallies_unreadable (filepath message : String) : (unreadable filepath message).Tallies :=
  ⟨rfl, rfl, rfl, fun _ hg => absurd hg List.not_mem_nil, fun m hm => by cases hm⟩

theorem of_openFile_error {disk : Disk} {given : String} {f : FileMetrics} (h : openFile disk given = .error f) :
    ∃ filepath message, f = unreadable filepath message := by
  rw [openFile, openAt] at h
  split at h
  · cases h
  · cases h
    exact ⟨_, _, rfl⟩
  · cases h
    exact ⟨_, _, rfl⟩

theorem tallies_file (a : Analyzer) (w : Surroundings) (given : String) : (a.file w given).1.Tallies := by
  rw [Analyzer.file]
  cases hopened : openFile w.disk given with
  | error f =>
      obtain ⟨filepath, message, rfl⟩ := of_openFile_error hopened
      exact tallies_unreadable filepath message
  | ok found =>
      rw [Analyzer.opened, (source_follows ..).value]
      exact tallies_examine

theorem tallies_each (a : Analyzer) (w : Surroundings) (paths : List String) : ∀ f ∈ (a.each w paths).1, f.Tallies := by
  induction paths generalizing a with
  | nil => intro f hf; cases hf
  | cons path rest ih =>
      intro f hf
      rcases List.mem_cons.mp hf with rfl | hf
      · exact tallies_file a w path
      · exact ih (a.file w path).2 f hf

end Analysis

/-! ## The totals of a report -/

namespace Report

variable (r : Report)

theorem length_withPaths {α : Type} (items : FileMetrics → List α) :
    (r.withPaths items).length = (r.files.map fun f => (items f).length).sum := by
  rw [withPaths, List.length_flatMap]
  simp

/-- A total over the files is the length of the list that goes through them. -/
theorem totalOf_eq_length {α : Type} {count : FileMetrics → Int} {items : FileMetrics → List α}
    (h : ∀ f ∈ r.files, count f = (items f).length) : totalOf (r.files.map count) = (r.withPaths items).length := by
  rw [length_withPaths, List.map_congr_left h]
  exact totalOf_natCast r.files fun f => (items f).length

theorem totalFunctions_eq : r.totalFunctions = (r.files.map (·.functionCount)).sum := by
  rw [totalFunctions, List.sum_eq_foldl, List.foldl_map]

theorem length_csvRows : r.csvRows.length = r.totalFunctions + 1 := by
  rw [csvRows, List.length_cons, List.length_map, length_withPaths, totalFunctions_eq]
  rfl

theorem complexFunctions_zero (h : ∀ f ∈ r.files, ∀ g ∈ f.functions, 1 ≤ g.cyclomatic) (cognitive : Int) :
    r.complexFunctions 0 cognitive = r.withPaths (·.functions) := by
  rw [complexFunctions, withPaths, withPaths]
  refine List.flatMap_congr fun f hf => ?_
  rw [List.filter_eq_self.mpr]
  intro g hg
  have hone := h f hf g hg
  rw [decide_eq_true (show 0 < g.cyclomatic by omega), Bool.true_or]

end Report

/-- Whatever files are asked for, the totals of the report are the lengths of its lists: those of the issues with
cursors and with memory, of the notes, and of the statements of each kind. There is a row for each function and
one more, every function is above a threshold of zero, and the issues with memory that no severity counts are
those that only inform. -/
theorem files_totals (a : Analysis.Analyzer) (w : Analysis.Surroundings) (paths : List String) :
    let r := (a.files w paths).1
    r.totalCursorIssues = r.cursorIssues.length ∧
    r.totalMemoryIssues = r.memoryIssues.length ∧
    r.totalTodos = r.todos.length ∧
    r.totalSqlBlocks = totalOf (r.files.map fun f => (f.sqlStatistics.members "by_type").total) ∧
    (r.csvRows.length = r.totalFunctions + 1 ∧ ∀ row ∈ r.csvRows, row.length = 13) ∧
    (∀ g ∈ r.functions, 1 ≤ g.cyclomatic ∧ 0 ≤ g.cognitive) ∧
    (∀ cognitive, r.complexFunctions 0 cognitive = r.withPaths (·.functions)) ∧
    ∀ f ∈ r.files, ∀ m, f.memory = some m →
      let counted := m.int "critical_count" 0 + m.int "error_count" 0 + m.int "warning_count" 0
      counted ≤ m.int "total_issues" 0 ∧
        m.int "total_issues" 0 - counted =
          (m.records "issues").countP (Memory.statedSeverity · == Severity.info.name) := by
  intro r
  have htallies : ∀ f ∈ r.files, f.Tallies := Analysis.tallies_each a.clear w paths
  refine ⟨?_, ?_, ?_, ?_, ⟨r.length_csvRows, fun row => r.length_csvRow⟩, fun g hg => ?_, fun cognitive => ?_,
    fun f hf m hm => ?_⟩
  · exact r.totalOf_eq_length fun f hf => (htallies f hf).cursors
  · exact r.totalOf_eq_length fun f hf => (htallies f hf).memory
  · exact r.totalOf_eq_length fun f _ => rfl
  · rw [Report.totalSqlBlocks, List.map_congr_left fun f hf => (htallies f hf).statements]
  · obtain ⟨f, hf, hg⟩ := List.mem_flatMap.mp hg
    exact (htallies f hf).figures g hg
  · exact r.complexFunctions_zero (fun f hf g hg => ((htallies f hf).figures g hg).1) cognitive
  · have hcounts := (htallies f hf).severities m hm
    dsimp only
    omega

/-- A file with a critical call and one that only informs. -/
def twoCalls : Analysis.Surroundings :=
  ⟨⟨.directory [("a.pc", .file (Utf8.encode "gets(s);fscanf(f,s);".toList))], []⟩, fun _ _ => none⟩

/-- One of the two files is missing. -/
theorem files_totals_two_calls :
    let r := ((Analysis.Analyzer.new .all).files twoCalls ["a.pc", "b.pc"]).1
    r.totalMemoryIssues = 2 ∧ r.memoryIssues.length = 2 ∧ ∃ f ∈ r.files, ∃ m, f.memory = some m ∧
      (m.records "issues").countP (Memory.statedSeverity · == Severity.info.name) = 1 := by
  intro r
  have hstated : r.files.map (fun f => f.memory.map fun m => (m.int "total_issues" 0,
      m.int "critical_count" 0 + m.int "error_count" 0 + m.int "warning_count" 0)) = [some (2, 1), none] := by
    decide +kernel
  have htotal : r.totalMemoryIssues = 2 := by decide +kernel
  obtain ⟨-, hmemory, -, -, -, -, -, hinform⟩ :=
    files_totals (Analysis.Analyzer.new .all) twoCalls ["a.pc", "b.pc"]
  obtain ⟨f, rest, hfiles, hf, -⟩ := List.map_eq_cons_iff.mp hstated
  obtain ⟨m, hm, hcounts⟩ := Option.map_eq_some_iff.mp hf
  obtain ⟨hissues, hcounted⟩ := Prod.mk.inj hcounts
  have hmem : f ∈ r.files := hfiles ▸ List.mem_cons_self
  have hdifference := (hinform f hmem m hm).2
  refine ⟨htotal, ?_, f, hmem, m, hm, ?_⟩
  · exact Int.ofNat_inj.mp (hmemory.symm.trans htotal)
  · rw [hissues, hcounted] at hdifference
    exact Int.ofNat_inj.mp hdifference.symm

end EsqlAudit
