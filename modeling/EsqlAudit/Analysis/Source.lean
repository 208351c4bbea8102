import EsqlAudit.Comment.Inventory
import EsqlAudit.Comment.Todo
import EsqlAudit.Complexity.Session
import EsqlAudit.Cursor.Issue
import EsqlAudit.Memory.Examination
import EsqlAudit.Report.Basic
import EsqlAudit.Sql.Block

/-!
The analysis of one host program: its functions are measured on the plain C text, its comments, cursors and
memory are examined on the text as it stands. A fault ends the analysis; what was measured before it stays.
-/
namespace EsqlAudit.Analysis
open Complexity Comment Text

/-- Which parts of the analysis are made. -/
structure Options where
  halstead : Bool
  todos : Bool
  cursors : Bool
  memory : Bool

def Options.all : Options := ⟨true, true, true, true⟩

/-- What can end an analysis. -/
inductive Fault where
  | undecodable (fault : Utf8.Fault)
  | number (fault : NumberFault)

/-- The text about a fault. -/
def Fault.message : Fault → String
  | undecodable f => "Erreur d'analyse: UnicodeDecodeError: " ++ f.message
  | number .domain => "Erreur d'analyse: ValueError: " ++ NumberFault.domain.message
  | number f => "Erreur inattendue lors de l'analyse: OverflowError: " ++ f.message

/-- A step of a session whose fault ends the analysis. -/
def attempt {α : Type} : Outcome α → Except Fault (α × Session)
  | (.ok a, s) => .ok (a, s)
  | (.error e, _) => .error (.undecodable e)

/-- The Halstead figures of a function. -/
def measureHalstead (s : Session) (f : Function) : Except Fault (Record × Session) := do
  let (words, s) ← attempt (s.measureVocabulary f)
  let figures ← words.counts.toRecord.mapError .number
  return (figures, s)

/-- The Halstead figures of a function, if they are wanted. -/
def halsteadIf (wanted : Bool) (s : Session) (f : Function) :
    Except Fault (Option Record × Session) :=
  if wanted then (measureHalstead s f).map fun (figures, s) => (some figures, s) else .ok (none, s)

/-- The number of embedded statements on the lines of a function. -/
def blocksIn (blocks : List Sql.Block) (f : Function) : Nat :=
  blocks.countP fun b => decide (f.startLine ≤ b.line) && decide (b.line ≤ f.endLine)

/-- The measures of a function. -/
def measureFunction (options : Options) (blocks : List Sql.Block) (s : Session) (f : Function) :
    Except Fault (FunctionMetrics × Session) := do
  let (cyclomatic, s) ← attempt (s.measureCyclomatic f)
  let (cognitive, s) ← attempt (s.measureCognitive f)
  let (halstead, s) ← halsteadIf options.halstead s f
  let metrics : FunctionMetrics :=
    { name := f.name, startLine := f.startLine, endLine := f.endLine, lineCount := f.lineCount,
      cyclomatic, cognitive, sqlBlocks := blocksIn blocks f, parameters := f.parameters.length,
      returnType := f.returnType, halstead }
  return (metrics, s)

/-- The measures of functions up to the first that fails. -/
def measureFunctions (options : Options) (blocks : List Sql.Block) (s : Session) :
    List Function → List FunctionMetrics × Option Fault
  | [] => ([], none)
  | f :: rest =>
    match measureFunction options blocks s f with
    | .error e => ([], some e)
    | .ok (m, s) =>
      let (ms, fault) := measureFunctions options blocks s rest
      (m :: ms, fault)

/-- The measures of all functions of a program. -/
def measureProgram (options : Options) (blocks : List Sql.Block) (p : Syntax.Program) :
    List FunctionMetrics × Option Fault :=
  match Function.all p with
  | .error e => ([], some (.undecodable e))
  | .ok fs => measureFunctions options blocks (.start p) fs

/-- How many embedded statements there are, and how many of each kind. -/
def statistics (blocks : List Sql.Block) : Record :=
  [("total_blocks", .ofNat blocks.length),
   ("by_type", .obj ((Sql.countKinds blocks).map fun (k, n) => (k.name, .ofNat n)))]

/-- What is known of a text before its tree is looked at. -/
def outline (source : List Char) (filepath : String) (blocks : List Sql.Block) : FileMetrics :=
  { FileMetrics.blank filepath with
    totalLines := (newlines source + 1 : Nat)
    nonEmptyLines := ((lines source).countP fun l => !(strip l).isEmpty : Nat)
    sqlStatistics := statistics blocks }

/-- A value, if it is wanted. -/
def whenOn {α : Type} (wanted : Bool) (a : α) : Option α := if wanted then some a else none

/-- Examines a host program, given its blocks and the program of its plain C text. The module it describes is
entered in the inventory, unless a fault ends the analysis. -/
def examine (options : Options) (inventory : Inventory) (source : List Char) (filepath : String)
    (blocks : List Sql.Block) (program : Syntax.Program) : FileMetrics × Inventory :=
  let (functions, fault) := measureProgram options blocks program
  let metrics := { outline source filepath blocks with
    functions, parseErrors := program.hasErrors }
  match fault with
  | some e => ({ metrics with parseErrors := true, errorMessage := e.message }, inventory)
  | none =>
    let info := Module.ofSource source filepath
    ({ metrics with
        todos := if options.todos then (todos source).map Todo.toRecord else []
        moduleInfo := whenOn options.todos info.toRecord
        cursors := whenOn options.cursors (Cursor.examine source).toRecord
        memory := whenOn options.memory (Memory.examine source).toRecord },
      if options.todos then inventory.add info else inventory)

/-- Analyzes a host program, given the tree of its plain C text. -/
def analyze (options : Options) (parse : List Char → Option Syntax.Node) (inventory : Inventory)
    (source : List Char) (filepath : String) : FileMetrics × Inventory :=
  let prepared := Sql.prepare source
  examine options inventory source filepath prepared.blocks
    (.load prepared.text (parse prepared.text))

end EsqlAudit.Analysis
