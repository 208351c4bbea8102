import EsqlAudit.Json.Printer
import EsqlAudit.Report.Basic

/-!
Reports as JSON documents.
-/
namespace EsqlAudit
open Decimal

/-- The member for a section that holds anything. -/
def sectionMember (key : String) (part? : Option Record) : Record :=
  match filled part? with
  | some r => [(key, .obj r)]
  | none => []

namespace FunctionMetrics

/-- The function as it stands in a document. -/
def toRecord (f : FunctionMetrics) : Record :=
  [("name", .str f.name), ("start_line", .int f.startLine), ("end_line", .int f.endLine),
   ("line_count", .int f.lineCount), ("cyclomatic_complexity", .int f.cyclomatic),
   ("cognitive_complexity", .int f.cognitive), ("sql_blocks_count", .int f.sqlBlocks),
   ("parameters_count", .int f.parameters), ("return_type", .str f.returnType)] ++
    sectionMember "halstead" f.halstead

end FunctionMetrics

namespace FileMetrics

/-- The notes of a file as they stand in a document. -/
def todoMembers (f : FileMetrics) : Record :=
  if f.todos.isEmpty then []
  else [("todos", .arr (f.todos.map .obj)), ("todo_count", .ofNat f.todoCount)]

/-- The file as it stands in a document. -/
def toRecord (f : FileMetrics) : Record :=
  [("filepath", .str f.filepath), ("total_lines", .int f.totalLines),
   ("non_empty_lines", .int f.nonEmptyLines), ("function_count", .ofNat f.functionCount),
   ("avg_cyclomatic", .float (roundTo 2 f.averageCyclomatic)),
   ("avg_cognitive", .float (roundTo 2 f.averageCognitive)),
   ("max_cyclomatic", .int f.maxCyclomatic), ("max_cognitive", .int f.maxCognitive),
   ("total_sql_blocks", .int f.sqlBlocks), ("sql_statistics", .obj f.sqlStatistics),
   ("parse_errors", .bool f.parseErrors),
   ("functions", .arr (f.functions.map fun g => .obj g.toRecord))] ++
    sectionMember "module_info" f.moduleInfo ++ f.todoMembers ++
    sectionMember "cursor_analysis" f.cursors ++ sectionMember "memory_analysis" f.memory

end FileMetrics

/-- A day and a time of day. -/
structure Moment where
  year : Nat
  month : Nat
  day : Nat
  hour : Nat
  minute : Nat
  second : Nat

namespace Moment

/-- A number in two digits. -/
def twoDigits (n : Nat) : String :=
  String.ofList (padZeros 2 (Nat.toDigits 10 n))

def clock (m : Moment) : String :=
  twoDigits m.hour ++ ":" ++ twoDigits m.minute ++ ":" ++ twoDigits m.second

/-- Year, month, day and time, for machines. -/
def iso (m : Moment) : String :=
  String.ofList (padZeros 4 (Nat.toDigits 10 m.year)) ++ "-" ++ twoDigits m.month ++ "-" ++
    twoDigits m.day ++ "T" ++ m.clock

/-- Day, month, year and time, for readers. -/
def dayFirst (m : Moment) : String :=
  twoDigits m.day ++ "/" ++ twoDigits m.month ++ "/" ++
    String.ofList (padZeros 4 (Nat.toDigits 10 m.year)) ++ " à " ++ m.clock

end Moment

namespace Report

/-- The totals of a report as they stand in a document. -/
def summary (r : Report) : Record :=
  [("total_files", .ofNat r.files.length), ("total_functions", .ofNat r.totalFunctions),
   ("total_lines", .int r.totalLines), ("total_sql_blocks", .int r.totalSqlBlocks),
   ("avg_cyclomatic", .float (roundTo 2 r.averageCyclomatic)),
   ("avg_cognitive", .float (roundTo 2 r.averageCognitive)), ("total_todos", .int r.totalTodos),
   ("total_cursor_issues", .int r.totalCursorIssues),
   ("total_memory_issues", .int r.totalMemoryIssues)]

/-- The report as a document. -/
def toRecord (r : Report) : Record :=
  [("summary", .obj r.summary), ("files", .arr (r.files.map fun f => .obj f.toRecord))] ++
    sectionMember "module_inventory" r.inventory

/-- The report as JSON text. -/
def json (r : Report) (indent : Option Nat) : String :=
  Json.print ⟨indent, false⟩ (.obj r.toRecord)

/-- The version of the documents. -/
def version : String := "0.2.0"

/-- The report with a note on its making, as JSON text. -/
def datedJson (r : Report) (now : Moment) (indent : Option Nat) : String :=
  Json.print ⟨indent, false⟩ (.obj
    [("metadata", .obj [("version", .str version), ("generated_at", .str now.iso),
      ("tool", .str "Pro*C Static Analyzer")]),
     ("report", .obj r.toRecord)])

end Report

end EsqlAudit
