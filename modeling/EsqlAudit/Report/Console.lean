import EsqlAudit.Files.Path
import EsqlAudit.Report.Grading

/-!
Reports on a console: lines of text with markup for colors, tables and panels. What is shown before a fault
stays shown.
-/
namespace EsqlAudit.Console
open Decimal Files

structure Column where
  title : String
  alignedRight : Bool

/-- What a console shows. -/
inductive Item where
  | line (markup : String)
  | table (headed : Bool) (columns : List Column) (rows : List (List String))
  | panel (markup : String) (border : String)
  | task (description : String) (total : Nat)
  | update (description : String) (completed : Nat)

/-- What is shown, and the fault that ends it. -/
structure Shown where
  items : List Item
  fault : Option UnknownGroup

/-- A heading and what follows it, if that can be made. -/
def Shown.under (heading : Item) (rest : Except UnknownGroup (List Item)) : Shown :=
  match rest with
  | .ok items => ⟨heading :: items, none⟩
  | .error u => ⟨[heading], some u⟩

/-- Things shown without a fault. -/
def Shown.ofItems (items : List Item) : Shown := ⟨items, none⟩

/-- One part after another, up to the first fault. -/
def Shown.andThen (a b : Shown) : Shown :=
  match a.fault with
  | some u => ⟨a.items, some u⟩
  | none => ⟨a.items ++ b.items, b.fault⟩

/-- A text in a color. -/
def inColor (color s : String) : String :=
  "[" ++ color ++ "]" ++ s ++ "[/" ++ color ++ "]"

/-- A line, if something holds. -/
def lineIf (condition : Bool) (s : String) : List Item :=
  if condition then [.line s] else []

/-- A text, with three dots in place of all that follows some characters. -/
def shortened (n : Nat) (s : String) : String :=
  if n < s.length then cut n s ++ "..." else s

/-! Files. -/

/-- The head of the part about a file that names its module. -/
def moduleLines (verbose : Bool) (f : FileMetrics) : List Item :=
  let info := f.moduleInfo.getD []
  let title := info.text "title" ""
  let description := info.text "description" ""
  lineIf (!title.isEmpty) s!"  [dim]Module: {title}[/dim]" ++
    lineIf (!description.isEmpty && verbose) s!"  [dim]{shortened 80 description}[/dim]"

/-- The kinds of embedded statements of a file, the first six. -/
def statementLines (f : FileMetrics) : List Item :=
  let kinds := f.sqlStatistics.members "by_type"
  let shown := (kinds.take 6).map fun (kind, count) => kind ++ ": " ++ count.display
  lineIf (!kinds.isEmpty) ("  Types SQL: " ++ ", ".intercalate shown)

/-- The numbers of notes and issues of a file. -/
def findingLines (f : FileMetrics) : List Item :=
  let cursors := f.cursors.getD []
  let memory := f.memory.getD []
  let issues := cursors.int "total_issues" 0
  let nested := cursors.int "nested_cursor_count" 0
  let memoryIssues := memory.int "total_issues" 0
  lineIf (!f.todos.isEmpty)
      s!"  TODO/FIXME: {f.todoCount} ([red]{f.urgentTodos} haute priorité[/red])" ++
    lineIf (decide (0 < issues) || decide (0 < nested))
      ("  Curseurs: " ++ cursors.text "total_cursors" "0" ++
        s!" ([yellow]{issues} issues, {nested} imbriqués[/yellow])") ++
    lineIf (decide (0 < memoryIssues))
      (s!"  Mémoire: [red]{memoryIssues} problèmes (" ++ memory.text "critical_count" "0" ++
        " critiques)[/red]")

/-- The columns of the table of functions. -/
def functionColumns (verbose : Bool) : List Column :=
  [⟨"Fonction", false⟩, ⟨"Lignes", true⟩, ⟨"Cyclo", true⟩, ⟨"Cogn", true⟩, ⟨"SQL", true⟩] ++
    (if verbose then [⟨"Halstead Vol", true⟩, ⟨"Bugs Est.", true⟩] else [])

/-- The cells for the volume and the estimated faults of a function. -/
def volumeCells (g : FunctionMetrics) : List String :=
  match filled g.halstead with
  | some h => [fixed 0 (h.number "volume"), fixed 2 (h.number "bugs_estimate")]
  | none => ["", ""]

/-- The row of a function. -/
def functionRow (verbose : Bool) (g : FunctionMetrics) : List String :=
  [s!"{g.name} (L{g.startLine})", toString g.lineCount,
   inColor (cyclomaticGrade g.cyclomatic).color (toString g.cyclomatic),
   inColor (cognitiveGrade g.cognitive).color (toString g.cognitive), toString g.sqlBlocks] ++
    (if verbose then volumeCells g else [])

/-- What is shown of the measures of a file. -/
def fileBody (verbose : Bool) (f : FileMetrics) : List Item :=
  moduleLines verbose f ++
    [.line s!"  Lignes: {f.totalLines} (non vides: {f.nonEmptyLines})",
     .line s!"  Fonctions: {f.functionCount}", .line s!"  Blocs SQL: {f.sqlBlocks}"] ++
    statementLines f ++ findingLines f ++
    [if f.functions.isEmpty then .line "  [dim]Aucune fonction trouvée[/dim]"
     else .table true (functionColumns verbose) (f.functions.map (functionRow verbose))]

/-- A file. Of one that could not be analyzed only the error is shown. -/
def file (verbose : Bool) (f : FileMetrics) : List Item :=
  .line s!"\n[bold blue]📄 {f.filepath}[/bold blue]" ::
    if f.parseErrors && !f.errorMessage.isEmpty then
      [.line s!"  [red]⚠ Erreur de parsing: {f.errorMessage}[/red]"]
    else
      lineIf f.parseErrors "  [yellow]⚠ Parsing partiel (code non standard détecté)[/yellow]" ++
        fileBody verbose f

/-! Notes and issues. -/

/-- The color of a note, by its priority. -/
def priorityColor (priority : String) : String :=
  if priority == "high" then "red" else if priority == "medium" then "yellow" else "dim"

/-- The line of an item, with the name of its file. -/
def placeOf (item : String × Record) : String :=
  fileName item.1 ++ ":" ++ item.2.text "line_number" "0"

/-- The heading of a group. -/
def groupHeading (color name : String) (count : Nat) : Item :=
  .line ("\n  " ++ inColor color s!"{capitals name} ({count})")

/-- The items of a group, the first ten. -/
def groupLines (color name : String) (itemLines : String × Record → List Item)
    (items : List (String × Record)) : List Item :=
  if items.isEmpty then []
  else groupHeading color name items.length :: (items.take 10).flatMap itemLines ++
    lineIf (decide (10 < items.length)) s!"    [dim]... et {items.length - 10} autres[/dim]"

def todoLine (color : String) (t : String × Record) : List Item :=
  [.line ("    " ++ inColor color (t.2.text "tag" "TODO") ++ " " ++ placeOf t ++ " - " ++
    cut 60 (t.2.text "message" ""))]

/-- The notes of all files, by priority. -/
def todos (r : Report) : Shown :=
  if r.todos.isEmpty then .ofItems []
  else .under (.line "\n[bold]📝 TODO/FIXME[/bold]") do
    let groups ← grouped priorities (fun t => priorityOf t.2) r.todos
    return groups.flatMap fun (priority, items) =>
      groupLines (priorityColor priority) priority (todoLine (priorityColor priority)) items

def cursorLines (i : String × Record) : List Item :=
  [.line ("  " ++ inColor (issueColor (severityOf i.2)) (capitals (severityOf i.2)) ++ " " ++ placeOf i),
   .line ("    Curseur: " ++ i.2.text "cursor_name" "?" ++ " - " ++ i.2.text "message" "")]

/-- The issues with the cursors of all files, the first fifteen. -/
def cursorIssues (r : Report) : List Item :=
  let issues := r.cursorIssues
  if issues.isEmpty then []
  else .line "\n[bold]🔄 Problèmes de curseurs SQL[/bold]" :: (issues.take 15).flatMap cursorLines ++
    lineIf (decide (15 < issues.length))
      s!"  [dim]... et {issues.length - 15} autres problèmes[/dim]"

def memoryLines (color : String) (i : String × Record) : List Item :=
  let advice := i.2.text "recommendation" ""
  [.line ("    " ++ inColor color "►" ++ " " ++ placeOf i), .line ("      " ++ i.2.text "message" "")] ++
    lineIf (!advice.isEmpty) s!"      [dim]→ {advice}[/dim]"

/-- The issues with the memory of all files, by severity. -/
def memoryIssues (r : Report) : Shown :=
  if r.memoryIssues.isEmpty then .ofItems []
  else .under (.line "\n[bold]🧠 Problèmes de gestion mémoire[/bold]") do
    let groups ← grouped severities (fun i => severityOf i.2) r.memoryIssues
    return listedSeverities.flatMap fun severity =>
      groupLines (issueColor severity) severity (memoryLines (issueColor severity))
        ((groups.lookup severity).getD [])

/-! Modules. -/

/-- The modules of each directory, the directories in order. -/
def modulesByDirectory (inventory : Record) : List (String × List Record) :=
  ((inventory.members "by_directory").map fun (d, ms) => (d, ms.items.map Json.members)).mergeSort
    fun a b => decide (a.1 < b.1) || a.1 == b.1

def moduleLine (m : Record) : List Item :=
  let description := cut 50 (m.text "description" "")
  .line ("    • " ++ m.text "title" (m.text "filename" "?")) ::
    lineIf (!description.isEmpty)
      ("      [dim]" ++ description ++ (if 50 ≤ description.length then "..." else "") ++ "[/dim]")

/-- The modules of a directory, the first five. -/
def directoryLines (entry : String × List Record) : List Item :=
  let (directory, modules) := entry
  .line s!"\n  [bold cyan]{directory}/[/bold cyan] ({modules.length} modules)" ::
    (modules.take 5).flatMap moduleLine ++
    lineIf (decide (5 < modules.length))
      s!"    [dim]... et {modules.length - 5} autres modules[/dim]"

/-- The inventory of a report. -/
def inventory (r : Report) : List Item :=
  match modulesByDirectory (r.inventory.getD []) with
  | [] => []
  | entries => .line "\n[bold]📦 Inventaire des modules[/bold]" :: entries.flatMap directoryLines

/-! Totals. -/

/-- The rows of the table of totals. -/
def summaryRows (r : Report) : List (List String) :=
  [["Fichiers analysés", toString r.files.length], ["Fonctions totales", toString r.totalFunctions],
   ["Lignes totales", toString r.totalLines], ["Blocs SQL totaux", toString r.totalSqlBlocks],
   ["", ""],
   ["Complexité cyclomatique moyenne", fixed 2 r.averageCyclomatic],
   ["Complexité cognitive moyenne", fixed 2 r.averageCognitive], ["", ""],
   ["TODO/FIXME", toString r.totalTodos], ["Problèmes curseurs", toString r.totalCursorIssues],
   ["Problèmes mémoire", toString r.totalMemoryIssues]]

/-- A measure, in red if it is above its threshold. -/
def againstThreshold (threshold value : Int) : String :=
  if threshold < value then inColor "red" (toString value) else toString value

/-- The functions above a threshold, the first twenty. -/
def complexFunctions (cyclomatic cognitive : Int) (found : List (String × FunctionMetrics)) :
    List Item :=
  [.line s!"\n[bold red]⚠ Fonctions à risque ({found.length})[/bold red]",
   .line s!"  (cyclomatic > {cyclomatic} ou cognitive > {cognitive})"] ++
    lineIf (decide (20 < found.length))
      s!"  [dim]... et {found.length - 20} autres fonctions[/dim]" ++
    [.table true [⟨"Fichier", false⟩, ⟨"Fonction", false⟩, ⟨"Cyclo", true⟩, ⟨"Cogn", true⟩]
      ((found.take 20).map fun (path, g) =>
        [fileName path, g.name, againstThreshold cyclomatic g.cyclomatic,
         againstThreshold cognitive g.cognitive])]

def ruler : String := String.ofList (List.replicate 60 '=')

/-- The totals of a report and its functions above a threshold. -/
def summary (cyclomatic cognitive : Int) (r : Report) : List Item :=
  let found := r.complexFunctions cyclomatic cognitive
  [.line ("\n" ++ ruler), .line "[bold]📊 RÉSUMÉ[/bold]", .line ruler,
   .table false [⟨"Métrique", false⟩, ⟨"Valeur", true⟩] (summaryRows r)] ++
    (if found.isEmpty then
      [.line "\n[green]✓ Aucune fonction ne dépasse les seuils de complexité[/green]"]
     else complexFunctions cyclomatic cognitive found)

/-- The line that tells of a report that was saved. -/
def saved (format output : String) : Item :=
  .line s!"[green]✓ Rapport {format} sauvegardé: {output}[/green]"

end EsqlAudit.Console
