import EsqlAudit.Analysis.Files
import EsqlAudit.Sql.Preparer

/-!
An analyzer that lives through many calls. It keeps its preparer, the program that it looked at last and the inventory
of modules; a call that fails leaves behind what it has done so far.
-/
namespace EsqlAudit.Analysis
open Comment Files

structure Analyzer where
  options : Options
  preparer : Sql.Preparer
  program : Syntax.Program
  inventory : Inventory

/-- What a call finds outside the analyzer: the files, and the trees of plain C texts, which may depend on the path of
a file. -/
structure Surroundings where
  disk : Disk
  parse : String → List Char → Option Syntax.Node

namespace Analyzer

/-- An analyzer that has not been called yet. -/
def new (options : Options) : Analyzer := ⟨options, .new, .none, .empty⟩

/-- Prepares a host program and turns to the program that is left. -/
def turnTo (a : Analyzer) (parse : List Char → Option Syntax.Node) (source : List Char) : Analyzer :=
  let (text, preparer) := a.preparer.run source
  { a with preparer, program := .load text (parse text) }

/-- Analyzes a host program, given the tree of its plain C text. -/
def source (a : Analyzer) (parse : List Char → Option Syntax.Node) (source : List Char) (filepath : String) :
    FileMetrics × Analyzer :=
  let a := a.turnTo parse source
  let (metrics, inventory) := examine a.options a.inventory source filepath a.preparer.blocks a.program
  (metrics, { a with inventory })

/-- Analyzes a file that was opened. -/
def opened (a : Analyzer) (w : Surroundings) :
    Except FileMetrics (List Char × String) → FileMetrics × Analyzer
  | .ok (source, filepath) => a.source (w.parse filepath) source filepath
  | .error f => (f, a)

/-- Analyzes the file at a path. -/
def file (a : Analyzer) (w : Surroundings) (given : String) : FileMetrics × Analyzer :=
  a.opened w (openFile w.disk given)

/-- Analyzes files one after the other. -/
def each (a : Analyzer) (w : Surroundings) : List String → List FileMetrics × Analyzer
  | [] => ([], a)
  | path :: rest =>
    let (f, a) := a.file w path
    let (fs, a) := a.each w rest
    (f :: fs, a)

/-- Starts an inventory anew. -/
def clear (a : Analyzer) : Analyzer := { a with inventory := .empty }

/-- The report on some files, with the inventory as it is then. -/
def survey (a : Analyzer) (w : Surroundings) (paths : List String) : Report × Analyzer :=
  let (files, a) := a.each w paths
  (⟨files, whenOn a.options.todos a.inventory.toRecord⟩, a)

/-- The report on some files. -/
def files (a : Analyzer) (w : Surroundings) (paths : List String) : Report × Analyzer :=
  a.clear.survey w paths

/-- The report on files that were selected, with their paths. -/
def selected (a : Analyzer) (w : Surroundings) :
    Except PatternFault (Option (List String)) → Except PatternFault (Report × List String) × Analyzer
  | .error e => (.error e, a)
  | .ok none => (.ok (.empty, []), a)
  | .ok (some paths) =>
    let (report, a) := a.survey w paths
    (.ok (report, paths), a)

/-- The report on the files that patterns select in a directory, with the paths of these files. -/
def directory (a : Analyzer) (w : Surroundings) (directory : String) (recursive : Bool)
    (patterns : List (List Char)) : Except PatternFault (Report × List String) × Analyzer :=
  a.clear.selected w (selectPaths w.disk (Path.ofText directory.toList) recursive patterns)

end Analyzer

/-- What an analyzer can be asked for. -/
inductive Call where
  | source (parse : List Char → Option Syntax.Node) (source : List Char) (filepath : String)
  | file (w : Surroundings) (path : String)
  | files (w : Surroundings) (paths : List String)
  | directory (w : Surroundings) (directory : String) (recursive : Bool) (patterns : List (List Char))

/-- What a call gives. -/
inductive Reply where
  | metrics (f : FileMetrics)
  | report (r : Report)
  | survey (r : Except PatternFault (Report × List String))

namespace Analyzer

def answer (a : Analyzer) : Call → Reply × Analyzer
  | .source parse source filepath =>
    let (f, a) := a.source parse source filepath
    (.metrics f, a)
  | .file w path =>
    let (f, a) := a.file w path
    (.metrics f, a)
  | .files w paths =>
    let (r, a) := a.files w paths
    (.report r, a)
  | .directory w directory recursive patterns =>
    let (r, a) := a.directory w directory recursive patterns
    (.survey r, a)

/-- The analyzer after some calls. -/
def after (a : Analyzer) (history : List Call) : Analyzer :=
  history.foldl (fun a c => (a.answer c).2) a

end Analyzer

end EsqlAudit.Analysis
