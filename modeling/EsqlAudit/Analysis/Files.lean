import EsqlAudit.Analysis.Source
import EsqlAudit.Files.Search

/-!
The analysis of files, one after the other. An analyzer keeps the inventory of the modules that it has seen;
a report on several files starts with an empty one.
-/
namespace EsqlAudit.Analysis
open Comment Files

/-- What an analyzer works with: the files, which parts of the analysis are made, and the trees of plain C
texts, which may depend on the path of a file. -/
structure Setting where
  disk : Disk
  options : Options
  parse : String → List Char → Option Syntax.Node

/-- A file that could not be read. -/
def unreadable (filepath message : String) : FileMetrics :=
  { FileMetrics.blank filepath with parseErrors := true, errorMessage := message }

/-- The text of the file at a path with the path as it stands in reports, or what is reported of a file that
cannot be read. The path is also known as it was given. -/
def openAt (disk : Disk) (given : String) (path : List Char) : Except FileMetrics (List Char × String) :=
  let filepath := String.ofList path
  match disk.read path with
  | .ok source => .ok (source, filepath)
  | .error .isADirectory =>
    .error (unreadable filepath ("Erreur de lecture du fichier: " ++ Obstacle.isADirectory.name ++ ": " ++
      Obstacle.isADirectory.message filepath))
  | .error _ => .error (unreadable filepath ("File not found: " ++ given))

def openFile (disk : Disk) (given : String) : Except FileMetrics (List Char × String) :=
  openAt disk given (Path.ofText given.toList).text

/-- Analyzes a file that was opened. -/
def analyzeOpened (w : Setting) (inventory : Inventory) :
    Except FileMetrics (List Char × String) → FileMetrics × Inventory
  | .ok (source, filepath) => analyze w.options (w.parse filepath) inventory source filepath
  | .error f => (f, inventory)

/-- Analyzes the file at a path. -/
def analyzeFile (w : Setting) (inventory : Inventory) (given : String) : FileMetrics × Inventory :=
  analyzeOpened w inventory (openFile w.disk given)

/-- Analyzes files one after the other. -/
def analyzeAll (w : Setting) (inventory : Inventory) : List String → List FileMetrics × Inventory
  | [] => ([], inventory)
  | path :: rest =>
    let (f, inventory) := analyzeFile w inventory path
    let (fs, inventory) := analyzeAll w inventory rest
    (f :: fs, inventory)

/-- The report on some files, with the inventory of their modules if comments are analyzed. -/
def analyzeFiles (w : Setting) (paths : List String) : Report × Inventory :=
  let (files, inventory) := analyzeAll w .empty paths
  (⟨files, whenOn w.options.todos inventory.toRecord⟩, inventory)

/-- The paths of the files that patterns select in a directory, none where there is no directory. -/
def selectPaths (disk : Disk) (path : Path) (recursive : Bool) (patterns : List (List Char)) :
    Except PatternFault (Option (List String)) :=
  match disk.find? path with
  | none => .ok none
  | some _ =>
    (findFiles disk path recursive patterns).map fun found => some (found.map fun p => String.ofList p.text)

/-- The report on files that were selected, with their paths. -/
def analyzeSelected (w : Setting) :
    Except PatternFault (Option (List String)) → Except PatternFault (Report × List String) × Inventory
  | .error e => (.error e, .empty)
  | .ok none => (.ok (.empty, []), .empty)
  | .ok (some paths) =>
    let (report, inventory) := analyzeFiles w paths
    (.ok (report, paths), inventory)

/-- The report on the files that patterns select in a directory, with the paths of these files. -/
def analyzeDirectory (w : Setting) (directory : String) (recursive : Bool)
    (patterns : List (List Char)) : Except PatternFault (Report × List String) × Inventory :=
  analyzeSelected w (selectPaths w.disk (Path.ofText directory.toList) recursive patterns)

end EsqlAudit.Analysis
