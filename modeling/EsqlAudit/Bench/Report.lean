import EsqlAudit.Analysis.Files
import EsqlAudit.Bench.Basic
import EsqlAudit.Report.Csv
import EsqlAudit.Report.Html
import EsqlAudit.Report.Markdown
import EsqlAudit.Workload.Source

/-!
Benches of whole analyses and of the forms of a report.
-/
namespace EsqlAudit.Bench
open Analysis Files

/-- A tree of files, from their ways and texts. -/
def treeOf (files : List (List String × List Char)) : Tree :=
  files.foldl (fun t (way, text) => Tree.insert (.file (Utf8.encode text)) way t) .empty

/-- A setting in which everything is analyzed. -/
def settingOf (root : Tree) : Setting := ⟨⟨root, []⟩, .all, fun _ => parse⟩

/-- The name of a module of a workload. -/
def moduleName (i : Nat) : String := s!"mod_{i}.pc"

/-- One source analyzed in full and with its functions only, and two paths that lead to no file. -/
def sources (n : Nat) : Figures :=
  let source := Workload.functions n ++ Workload.hostProgram 1
  let (full, _) := analyze .all parse .empty source "synthetic_workload_mixed.pc"
  let (bare, _) := analyze ⟨false, false, false, false⟩ parse .empty source "<string>"
  let r : Report := ⟨[full, bare], none⟩
  let w := settingOf (.directory [("sub", .empty)])
  let (missing, _) := analyzeFile w .empty "missing.pc"
  let (directory, _) := analyzeFile w .empty "sub"
  .ok [.ofNat full.functionCount, .ofNat r.csvRows.length, .ofNat (r.json none).length,
    .ofNat (r.complexFunctions 1 1).length, .bool missing.parseErrors,
    .bool directory.parseErrors]

/-- Modules, every other one in a directory of its own, and a file of another kind. -/
def modulesOnTwoLevels (n : Nat) : Tree :=
  treeOf ((List.range n).map (fun i =>
      ((if i % 2 == 0 then [] else ["sub"]) ++ [moduleName i], Workload.joined (Workload.hostModule i))) ++
    [(["extra.sc"], Workload.functions 1)])

/-- Reports on directories and on lists of files. -/
def directories (n : Nat) : Figures := do
  let w := settingOf (modulesOnTwoLevels n)
  let survey (directory : String) (recursive : Bool) (patterns : List String) :=
    let (r, inventory) := analyzeDirectory w directory recursive (patterns.map String.toList)
    (r.mapError Fault.pattern).map fun (report, paths) => (report, paths, inventory)
  let (all, announced, inventory) ← survey "." true ["*.pc"]
  let (top, _) ← survey "." false ["*.pc", "*.sc"]
  let (nowhere, _) ← survey "missing" true ["*.pc"]
  let (listed, _) := analyzeFiles w [moduleName 0, "missing.pc"]
  return [.ofNat all.files.length, .ofNat top.files.length, .ofNat nowhere.files.length,
    .ofNat listed.files.length, .ofNat announced.length, .ofNat inventory.modules.length]

/-- A file with more notes and issues than a report shows of one file. -/
def overflowing : FileMetrics :=
  { FileMetrics.blank "overflow.pc" with
    totalLines := 100
    nonEmptyLines := 90
    todos := (List.range 25).map fun i =>
      [("tag", .str "TODO"), ("message", .str s!"msg{i}"), ("line_number", .ofNat i),
       ("priority", .str "high")]
    cursors := some
      [("total_cursors", .int 1), ("total_issues", .int 20), ("nested_cursor_count", .int 0),
       ("issues", .arr ((List.range 20).map fun i =>
         .obj [("severity", .str "info"), ("cursor_name", .str s!"c{i}"), ("line_number", .ofNat i),
           ("message", .str "m")]))]
    memory := some
      [("total_issues", .int 12), ("critical_count", .int 12),
       ("issues", .arr ((List.range 12).map fun i =>
         .obj [("severity", .str "critical"), ("line_number", .ofNat i),
           ("message", .str s!"msg{i}"), ("recommendation", .str "fix")]))] }

/-- A file with one function of medium complexity. -/
def small : FileMetrics :=
  { FileMetrics.blank "small.pc" with
    totalLines := 10
    nonEmptyLines := 8
    functions := [⟨"func", 1, 10, 10, 7, 9, 0, 0, "void", none⟩] }

/-- Analyzed modules, and files that bring a report to its limits. -/
def limitFiles (n : Nat) : List FileMetrics :=
  (List.range n).map (fun i =>
    (analyze .all parse .empty (Workload.hostProgram 2) (moduleName i)).1) ++
  [overflowing, small, FileMetrics.blank "empty.pc"]

/-- The lengths of reports in their forms, and what a report collects from its files. -/
def forms (now : Moment) (assets : Report.Html.Assets) (n : Nat) : Figures := do
  let grouped {α : Type} (r : Except UnknownGroup α) : Except Fault α := r.mapError .group
  let markdown (files : List FileMetrics) : Except Fault Json := do
    return .ofNat (← grouped (Report.Markdown.render now ⟨files, none⟩)).length
  let r : Report := ⟨limitFiles n, none⟩
  let one : Report := ⟨[small], none⟩
  let sections ← r.files.mapM fun f => grouped (Report.Markdown.fileSection f)
  let page ← grouped (Report.Html.render assets now one)
  return [← markdown r.files, ← markdown [], ← markdown [overflowing],
    .int (totalOf (sections.map fun s => (s.length : Int))), .ofNat r.files.length,
    .ofNat sections.length, .ofNat r.todos.length, .ofNat r.cursorIssues.length,
    .ofNat r.memoryIssues.length, .ofNat (one.datedJson now (some 2)).length,
    .ofNat (one.datedJson now none).length, .ofNat page.length]

end EsqlAudit.Bench
