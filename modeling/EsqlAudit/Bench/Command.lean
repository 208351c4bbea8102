import EsqlAudit.Bench.Report
import EsqlAudit.Command.Run

/-!
A bench of the command line: the codes with which runs end, and what runs are made of.
-/
namespace EsqlAudit.Bench
open Command Files

/-- Modules, and two files that are found where the case of letters does not count. -/
def modulesAndMore (n : Nat) : Tree :=
  treeOf ((List.range n).map (fun i => ([moduleName i], Workload.joined (Workload.hostModule i))) ++
    [(["UPPER.PC"], Workload.functions 1), (["sub", "inner.pc"], Workload.memory 1)])

/-- Runs on the first module, which may be missing, and on the directories. -/
def runs : List (List String) :=
  [["analyze", "mod_0.pc"],
   ["analyze", "."],
   ["analyze", ".", "-v"],
   ["analyze", ".", "-R"],
   ["analyze", ".", "-p", "*.pc;*.sc"],
   ["analyze", ".", "-i", "*.pc"],
   ["analyze", ".", "-f", "json", "-o", "out.json"],
   ["analyze", ".", "-f", "json-pretty"],
   ["analyze", ".", "-f", "html", "-o", "out.html"],
   ["analyze", ".", "-f", "markdown", "-o", "out.md"],
   ["analyze", ".", "-f", "csv", "-o", "out.csv"],
   ["analyze", ".", "-tc", "1", "-tg", "1"],
   ["analyze", ".", "--no-halstead", "--no-todos", "--no-cursors", "--no-memory"],
   ["todos", "mod_0.pc"],
   ["todos", "."],
   ["security", "mod_0.pc"],
   ["security", "."],
   ["inventory", "mod_0.pc"],
   ["inventory", "."],
   ["inventory", "sub"],
   ["preprocess", "mod_0.pc"],
   ["preprocess", "UPPER.PC"],
   ["analyze", "mod_0.pc", "-f", "csv"]]

/-- Runs of the program, the reading of patterns, the search for files, and colors. -/
def commands (now : Moment) (assets : Report.Html.Assets) (n : Nat) : Figures :=
  let w : World := ⟨⟨modulesAndMore n, []⟩, fun _ => parse, now, assets⟩
  let patterns (s : String) : Json := .arr ((parsePatterns s.toList).map Json.ofChars)
  let found (recursive : Bool) : Json :=
    .ofNat (findFilesFolded w.disk (Path.ofText ".".toList) recursive [defaultPattern]).length
  let grades := [1, 7, 12].map fun value => (cyclomaticGrade value).color
  let severities := ["critical", "error", "warning", "info", "other"].map issueColor
  .ok [.arr (runs.map fun arguments => .ofNat (run w arguments).exitCode),
    patterns "*.pc;*.sc;*.inc", patterns "", patterns " ; ",
    .bool (matchesFolded defaultPattern "UPPER.PC".toList), found true, found false,
    .ofStrings (grades ++ severities)]

end EsqlAudit.Bench
