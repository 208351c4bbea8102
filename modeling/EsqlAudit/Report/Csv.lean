import EsqlAudit.Report.Basic
import EsqlAudit.Text.Basic

/-!
Reports as tables of comma-separated values, one row for each function. A cell with a comma, a quote or a
line end is quoted, with its quotes doubled.
-/
namespace EsqlAudit.Report
open Text

def csvHeader : List String :=
  ["file", "function", "start_line", "end_line", "lines", "cyclomatic", "cognitive", "sql_blocks",
   "params", "return_type", "halstead_volume", "halstead_difficulty", "halstead_bugs"]

/-- The row of a function. -/
def csvRow (filepath : String) (f : FunctionMetrics) : List String :=
  let h := f.halstead.getD []
  [filepath, f.name, toString f.startLine, toString f.endLine, toString f.lineCount,
   toString f.cyclomatic, toString f.cognitive, toString f.sqlBlocks, toString f.parameters,
   f.returnType, h.text "volume" "", h.text "difficulty" "", h.text "bugs_estimate" ""]

/-- The rows of a report, the header first. -/
def csvRows (r : Report) : List (List String) :=
  csvHeader :: (r.withPaths (·.functions)).map fun (path, f) => csvRow path f

/-- A cell as it is written. -/
def csvCell (cell : String) : List Char :=
  let cs := cell.toList
  if cs.any fun c => c == ',' || c == '"' || c == '\r' || c == '\n' then
    '"' :: (cs.flatMap fun c => if c == '"' then ['"', '"'] else [c]) ++ ['"']
  else cs

/-- A row as it is written, with its line end. -/
def csvLine (row : List String) : List Char :=
  joinWith [','] (row.map csvCell) ++ ['\r', '\n']

/-- The report as text. -/
def csv (r : Report) : List Char :=
  r.csvRows.flatMap csvLine

end EsqlAudit.Report
