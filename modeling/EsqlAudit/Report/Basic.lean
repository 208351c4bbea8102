import EsqlAudit.Complexity.Halstead
import EsqlAudit.Json.Record

/-!
Reports: the measures of functions, of files and of a set of files, and the totals and averages over them.
The sections of a file that hold issues or notes are records, which keep the members they were made with.
-/
namespace EsqlAudit

structure FunctionMetrics where
  name : String
  startLine : Int
  endLine : Int
  lineCount : Int
  cyclomatic : Int
  cognitive : Int
  sqlBlocks : Int
  parameters : Int
  returnType : String
  halstead : Option Record

structure FileMetrics where
  filepath : String
  totalLines : Int
  nonEmptyLines : Int
  functions : List FunctionMetrics
  sqlStatistics : Record
  parseErrors : Bool
  errorMessage : String
  moduleInfo : Option Record
  todos : List Record
  cursors : Option Record
  memory : Option Record

structure Report where
  files : List FileMetrics
  inventory : Option Record

/-- The sum of whole numbers. -/
def totalOf (ns : List Int) : Int :=
  ns.foldl (fun (sum n : Int) => sum + n) 0

/-- The mean of whole numbers, zero if there are none. -/
def averageOf (ns : List Int) : Float :=
  if ns.isEmpty then 0.0
  else ((Complexity.divide (totalOf ns) ns.length).toOption).getD 0.0

/-- The greatest of whole numbers, zero if there are none. -/
def greatestOf : List Int → Int
  | [] => 0
  | n :: ns => ns.foldl (fun best m => if best < m then m else best) n

/-- A section that holds anything. -/
def filled (part? : Option Record) : Option Record :=
  part?.filter fun r => !r.isEmpty

/-- The number of issues that a section states. -/
def statedIssues (part? : Option Record) : Int :=
  match part? with
  | some r => r.int "total_issues" 0
  | none => 0

/-- The issues that a section lists. -/
def issuesOf (part? : Option Record) : List Record :=
  match part? with
  | some r => r.records "issues"
  | none => []

namespace FileMetrics

/-- A file of which nothing is known. -/
def blank (filepath : String) : FileMetrics :=
  { filepath, totalLines := 0, nonEmptyLines := 0, functions := [], sqlStatistics := [],
    parseErrors := false, errorMessage := "", moduleInfo := none, todos := [], cursors := none,
    memory := none }

def functionCount (f : FileMetrics) : Nat := f.functions.length

def averageCyclomatic (f : FileMetrics) : Float := averageOf (f.functions.map (·.cyclomatic))

def averageCognitive (f : FileMetrics) : Float := averageOf (f.functions.map (·.cognitive))

def maxCyclomatic (f : FileMetrics) : Int := greatestOf (f.functions.map (·.cyclomatic))

def maxCognitive (f : FileMetrics) : Int := greatestOf (f.functions.map (·.cognitive))

def sqlBlocks (f : FileMetrics) : Int := f.sqlStatistics.int "total_blocks" 0

def todoCount (f : FileMetrics) : Nat := f.todos.length

def cursorIssueCount (f : FileMetrics) : Int := statedIssues f.cursors

def memoryIssueCount (f : FileMetrics) : Int := statedIssues f.memory

/-- The number of notes of high priority. -/
def urgentTodos (f : FileMetrics) : Nat :=
  f.todos.countP fun t => t.text "priority" "" == "high"

end FileMetrics

namespace Report

def empty : Report := ⟨[], none⟩

def functions (r : Report) : List FunctionMetrics := r.files.flatMap (·.functions)

def totalFunctions (r : Report) : Nat := r.files.foldl (fun n f => n + f.functionCount) 0

def totalLines (r : Report) : Int := totalOf (r.files.map (·.totalLines))

def totalSqlBlocks (r : Report) : Int := totalOf (r.files.map (·.sqlBlocks))

def totalTodos (r : Report) : Int := totalOf (r.files.map fun f => (f.todoCount : Int))

def totalCursorIssues (r : Report) : Int := totalOf (r.files.map (·.cursorIssueCount))

def totalMemoryIssues (r : Report) : Int := totalOf (r.files.map (·.memoryIssueCount))

def averageCyclomatic (r : Report) : Float := averageOf (r.functions.map (·.cyclomatic))

def averageCognitive (r : Report) : Float := averageOf (r.functions.map (·.cognitive))

/-- The items of every file with the path of the file. -/
def withPaths {α : Type} (r : Report) (items : FileMetrics → List α) : List (String × α) :=
  r.files.flatMap fun f => (items f).map fun a => (f.filepath, a)

/-- The functions above one of two thresholds. -/
def complexFunctions (r : Report) (cyclomatic cognitive : Int) : List (String × FunctionMetrics) :=
  r.withPaths fun f =>
    f.functions.filter fun g => decide (cyclomatic < g.cyclomatic) || decide (cognitive < g.cognitive)

def todos (r : Report) : List (String × Record) := r.withPaths (·.todos)

def cursorIssues (r : Report) : List (String × Record) := r.withPaths fun f => issuesOf f.cursors

def memoryIssues (r : Report) : List (String × Record) := r.withPaths fun f => issuesOf f.memory

end Report

end EsqlAudit
