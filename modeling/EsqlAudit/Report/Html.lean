import EsqlAudit.Files.Path
import EsqlAudit.Report.Document
import EsqlAudit.Report.Grading
import EsqlAudit.Report.Markup

/-!
Reports as HTML pages. All texts that come from the report are values of the page, so none of them can
change its structure.
-/
namespace EsqlAudit.Report.Html
open Decimal Files Piece

/-- The style sheet and the script of a page. -/
structure Assets where
  css : String
  js : String

/-- A card with a total. A card by which files can be filtered has a filter and a hint. -/
def card (filter? : Option (String × String)) (title : String) (total : Piece) : List Piece :=
  (match filter? with
   | none => rows [(4, "<div class=\"summary-card\">")]
   | some (name, hint) =>
     row 4 [markup "<div class=\"summary-card filterable\" data-filter-type=\"", markup name,
       markup "\" title=\"Cliquer pour filtrer les fichiers avec ", markup hint, markup "\">"]) ++
  row 8 [markup "<h3>", markup title, markup "</h3>"] ++
  row 8 [markup "<div class=\"value\">", total, markup "</div>"] ++
  rows [(4, "</div>")]

/-- The totals of a report. -/
def summary (r : Report) : List Piece :=
  [markup "<h2>Résumé</h2>"] ++ rows [(0, "<div class=\"summary-grid\">")] ++
  card none "Fichiers analysés" (ofNat r.files.length) ++
  card none "Fonctions totales" (ofNat r.totalFunctions) ++
  card none "Lignes de code" (value (Decimal.grouped r.totalLines)) ++
  card (some ("high-complexity", "complexité cyclomatique élevée")) "Complexité cyclomatique moyenne"
    (value (fixed 2 r.averageCyclomatic)) ++
  card (some ("high-cognitive", "complexité cognitive élevée")) "Complexité cognitive moyenne"
    (value (fixed 2 r.averageCognitive)) ++
  card (some ("todos", "TODO/FIXME")) "TODO/FIXME" (Piece.ofInt r.totalTodos) ++
  card (some ("cursor-issues", "problèmes de curseurs")) "Problèmes curseurs"
    (Piece.ofInt r.totalCursorIssues) ++
  card (some ("memory-issues", "problèmes mémoire")) "Problèmes mémoire"
    (Piece.ofInt r.totalMemoryIssues) ++
  rows [(0, "</div>"), (0, "")]

/-- A label for a priority or a severity, and after it what belongs to it. -/
def badge (name : String) (after : List Piece) : List Piece :=
  [markup "<span class=\"badge badge-", value name, markup "\">", value (capitals name),
    markup "</span>"] ++ after

/-- The number of the line of an item. -/
def lineNumber (item : Record) : Piece := value (item.text "line_number" "0")

/-- The place of an item in its file. -/
def inFile (item : Record) : List Piece := [markup "L", lineNumber item]

/-- The place of an item with the name of its file. -/
def inReport (path : String) (item : Record) : List Piece :=
  [value (fileName path), markup ":", lineNumber item]

/-- A place. -/
def location (place : List Piece) : List Piece :=
  [markup "<span class=\"issue-location\">"] ++ place ++ [markup "</span><br>"]

/-- The tag of a note and its place. -/
def tagged (todo : Record) (place : List Piece) : List Piece :=
  [markup "<strong>", value (todo.text "tag" "TODO"), markup "</strong> "] ++ location place

def message (item : Record) : Piece := value (item.text "message" "")

/-- An issue with a cursor. -/
def cursorItem (indent : Nat) (place : List Piece) (i : Record) : List Piece :=
  row indent [markup "<li class=\"issue-item ", value (severityOf i), markup "\">"] ++
  row (indent + 4) ([markup "<strong>", value (capitals (severityOf i)), markup "</strong> "] ++
    location place) ++
  row (indent + 4) [markup "Curseur: <code>", value (i.text "cursor_name" "?"),
    markup "</code> - ", message i] ++
  rows [(indent, "</li>"), (indent, "")]

/-- An issue with memory. -/
def memoryItem (indent : Nat) (severity : String) (place : List Piece) (i : Record) : List Piece :=
  let advice := i.text "recommendation" ""
  row indent [markup "<li class=\"issue-item ", value severity, markup "\">"] ++
  row (indent + 4) (location place) ++
  row (indent + 4) [message i] ++
  row (indent + 4) [] ++
  showIf (!advice.isEmpty)
    (row (indent + 4) [markup "<br><em>→ ", value advice, markup "</em>"] ++ row (indent + 4) []) ++
  rows [(indent, "</li>"), (indent, "")]

/-- A line that tells of items left out, if there are more than are shown. -/
def leftOut (indent shown count : Nat) (what : String) : List Piece :=
  row indent [] ++
  showIf (decide (shown < count))
    (row indent [markup "<li><em>... et ", ofNat (count - shown), markup " ", markup what,
      markup "</em></li>"] ++ row indent [])

/-- The issues of one severity, under a heading of their own. -/
def memoryGroup {α : Type} (indent : Nat) (heading : String) (shown : Nat)
    (item : String → α → List Piece) (groups : Table (List α)) (severity : String) : List Piece :=
  let issues := (groups.lookup severity).getD []
  row indent [] ++ row indent [] ++
  showIf (!issues.isEmpty)
    (row indent ([markup ("<" ++ heading ++ ">")] ++
      badge severity [markup " (", ofNat issues.length, markup (")</" ++ heading ++ ">")]) ++
    rows [(indent, "<ul class=\"issue-list\">"), (indent + 4, "")] ++
    (issues.take shown).flatMap (item severity) ++
    leftOut (indent + 4) shown issues.length "autres" ++
    rows [(indent, "</ul>"), (indent, "")])

/-- A note under the badge of its priority. -/
def fileTodo (priority : String) (t : Record) : List Piece :=
  rows [(20, "<li class=\"issue-item\">")] ++ row 24 (badge priority []) ++
  row 24 (tagged t (inFile t)) ++ row 24 [message t] ++ rows [(20, "</li>"), (20, "")]

/-- The notes of a file. -/
def fileTodos (groups : Table (List Record)) : List Piece :=
  rows [(8, "<h3>📝 TODO/FIXME</h3>"), (8, "<ul class=\"issue-list\">"), (12, "")] ++
  priorities.flatMap (fun p =>
    let todos := (groups.lookup p).getD []
    row 16 [] ++ row 16 [] ++
    showIf (!todos.isEmpty) (row 20 [] ++ todos.flatMap (fileTodo p) ++ row 16 []) ++ row 12 []) ++
  rows [(8, "</ul>"), (8, "")]

/-- The issues with the cursors of a file. -/
def fileCursors (issues : List Record) : List Piece :=
  rows [(8, "<h3>🔄 Problèmes de curseurs SQL</h3>"), (8, "<ul class=\"issue-list\">"), (12, "")] ++
  (issues.take 20).flatMap (fun i => cursorItem 12 (inFile i) i) ++
  leftOut 12 20 issues.length "autres problèmes" ++
  rows [(8, "</ul>"), (8, "")]

/-- The issues with the memory of a file. -/
def fileMemory (groups : Table (List Record)) : List Piece :=
  rows [(8, "<h3>🧠 Problèmes de gestion mémoire</h3>"), (8, "")] ++
  listedSeverities.flatMap (fun s =>
    memoryGroup 12 "h4" 15 (fun s i => memoryItem 16 s (inFile i) i) groups s ++ row 8 []) ++
  row 8 []

/-- The row of a function. -/
def functionRow (g : FunctionMetrics) : List Piece :=
  rows [(16, "<tr>")] ++
  row 20 [markup "<td><code>", value g.name, markup "</code> (L", Piece.ofInt g.startLine,
    markup ")</td>"] ++
  row 20 [markup "<td>", Piece.ofInt g.lineCount, markup "</td>"] ++
  row 20 [markup "<td class=\"", markup (cyclomaticGrade g.cyclomatic).styleClass, markup "\">",
    Piece.ofInt g.cyclomatic, markup "</td>"] ++
  row 20 [markup "<td class=\"", markup (cognitiveGrade g.cognitive).styleClass, markup "\">",
    Piece.ofInt g.cognitive, markup "</td>"] ++
  row 20 [markup "<td>", Piece.ofInt g.sqlBlocks, markup "</td>"] ++
  rows [(16, "</tr>"), (16, "")]

/-- The table of the functions of a file. -/
def functionTable (functions : List FunctionMetrics) : List Piece :=
  rows [(8, "<h3>Fonctions</h3>"), (8, "<table>"), (12, "<thead>"), (16, "<tr>"),
    (20, "<th>Fonction</th>"), (20, "<th>Lignes</th>"), (20, "<th>Cyclo</th>"),
    (20, "<th>Cogn</th>"), (20, "<th>SQL</th>"), (16, "</tr>"), (12, "</thead>"), (12, "<tbody>"),
    (16, "")] ++
  functions.flatMap functionRow ++
  rows [(12, "</tbody>"), (8, "</table>"), (8, "")]

/-- A truth value as the script reads it. -/
def flag (b : Bool) : String := if b then "true" else "false"

/-- An attribute of the section of a file. -/
def datum (name : String) (v : Piece) (after : String) : List Piece :=
  row 4 [markup "data-", markup name, markup "=\"", v, markup ("\"" ++ after)]

/-- A number in the head of the section of a file, if it is not zero. -/
def infoItem (title : String) (count : Nat) : List Piece :=
  row 16 [] ++
  showIf (decide (0 < count))
    (rows [(16, "<span class=\"info-item\">")] ++
    row 20 [markup "<strong>", markup title, markup ":</strong> ", ofNat count] ++
    rows [(16, "</span>"), (16, "")])

/-- The section of a file. -/
def fileSection (f : FileMetrics) : Except UnknownGroup (List Piece) := do
  let cursorIssues := issuesOf f.cursors
  let memoryIssues := issuesOf f.memory
  let todoGroups ← EsqlAudit.grouped priorities priorityOf f.todos
  let memoryGroups ← EsqlAudit.grouped severities severityOf memoryIssues
  let warnings := memoryIssues.countP fun i => severityOf i == "warning"
  let cyclo := f.averageCyclomatic
  let cogn := f.averageCognitive
  let name := value (fileName f.filepath)
  return [markup "<div class=\"file-section\" data-filename=\"", name, markup "\" "] ++
    datum "has-todos" (value (flag !f.todos.isEmpty)) " " ++
    datum "has-cursor-issues" (value (flag !cursorIssues.isEmpty)) " " ++
    datum "has-memory-issues" (value (flag !memoryIssues.isEmpty)) " " ++
    datum "avg-cyclomatic" (value (fixed 2 cyclo)) " " ++
    datum "avg-cognitive" (value (fixed 2 cogn)) "" ++
    datum "total-lines" (Piece.ofInt f.totalLines) "" ++
    datum "non-empty-lines" (Piece.ofInt f.nonEmptyLines) "" ++
    datum "function-count" (ofNat f.functionCount) "" ++
    datum "total-sql-blocks" (Piece.ofInt f.sqlBlocks) "" ++
    datum "todos-count" (ofNat f.todoCount) "" ++
    datum "cursor-issues-count" (ofNat cursorIssues.length) "" ++
    datum "memory-warnings-count" (ofNat warnings) ">" ++
    rows [(4, "<div class=\"file-header\">"), (8, "<div class=\"file-header-left\">")] ++
    row 8 [markup "<div class=\"file-title\" title=\"Cliquer pour filtrer par ce fichier\">📄 ",
      name, markup "</div>"] ++
    rows [(12, "<div class=\"file-summary-info\">"), (16, "<span class=\"info-item\">"),
      (20, "<strong>Complexité:</strong> ")] ++
    row 20 [markup "<span class=\"", markup (cyclomaticGrade (truncate cyclo)).styleClass,
      markup "\">Cyclo ", value (fixed 2 cyclo), markup "</span>"] ++
    row 20 [markup "<span class=\"", markup (cognitiveGrade (truncate cogn)).styleClass,
      markup "\">Cogn ", value (fixed 2 cogn), markup "</span>"] ++
    rows [(16, "</span>")] ++
    infoItem "📝 TODO" f.todoCount ++ infoItem "🔄 Curseurs" cursorIssues.length ++
    infoItem "🧠 Mémoire" warnings ++
    rows [(12, "</div>"), (8, "</div>"), (8, "<button class=\"collapsible\">Afficher</button>"),
      (4, "</div>"), (4, "<div class=\"collapsible-content\">"), (8, "<p>")] ++
    row 12 [markup "<strong>Lignes:</strong> ", Piece.ofInt f.totalLines, markup " (non vides: ",
      Piece.ofInt f.nonEmptyLines, markup ")<br>"] ++
    row 12 [markup "<strong>Fonctions:</strong> ", ofNat f.functionCount, markup "<br>"] ++
    row 12 [markup "<strong>Blocs SQL:</strong> ", Piece.ofInt f.sqlBlocks, markup "<br>"] ++
    row 12 [] ++
    showIf (!f.todos.isEmpty)
      (row 12 [markup "<strong>TODO/FIXME:</strong> ", ofNat f.todoCount, markup " (",
        ofNat f.urgentTodos, markup " haute priorité)<br>"] ++ row 12 []) ++
    rows [(8, "</p>"), (8, ""), (8, "")] ++
    showIf (!f.functions.isEmpty) (functionTable f.functions) ++ rows [(8, ""), (8, "")] ++
    showIf (!f.todos.isEmpty) (fileTodos todoGroups) ++ rows [(8, ""), (8, "")] ++
    showIf (!cursorIssues.isEmpty) (fileCursors cursorIssues) ++ rows [(8, ""), (8, "")] ++
    showIf (!memoryIssues.isEmpty) (fileMemory memoryGroups) ++
    rows [(4, "</div>"), (0, "</div>"), (0, "")]

/-- The keys by which the sections of files can be sorted. -/
def sortKeys : List (String × String) :=
  [("filename", "Nom de fichier"), ("total-lines", "Nombre total de lignes"),
   ("non-empty-lines", "Lignes non vides"), ("avg-cyclomatic", "Complexité cyclomatique moyenne"),
   ("avg-cognitive", "Complexité cognitive moyenne"), ("function-count", "Nombre de fonctions"),
   ("total-sql-blocks", "Nombre de blocs SQL"), ("todos-count", "Nombre de TODOs"),
   ("cursor-issues-count", "Problèmes de curseurs"),
   ("memory-warnings-count", "Problèmes mémoire")]

/-- The controls above the sections of files. -/
def fileControls : List Piece :=
  rows [(0, "<h2>Fichiers analysés</h2>"), (0, "<div class=\"file-controls\">"),
    (4, "<div class=\"file-filter\">"),
    (8, "<input type=\"text\" id=\"file-filter-input\" placeholder=\"Filtrer par nom de fichier...\">"),
    (8, "<button id=\"file-filter-reset\">Tout afficher</button>"), (4, "</div>"),
    (4, "<div class=\"file-sort\">"),
    (8, "<label for=\"file-sort-select\">Trier par:</label>"),
    (8, "<select id=\"file-sort-select\">")] ++
  rows (sortKeys.map fun (key, title) =>
    (12, "<option value=\"" ++ key ++ "\">" ++ title ++ "</option>")) ++
  rows [(8, "</select>"),
    (8, "<button id=\"file-sort-order\" title=\"Basculer l'ordre de tri\">"),
    (12, "<span id=\"file-sort-order-icon\">↑</span>"),
    (12, "<span id=\"file-sort-order-text\">Croissant</span>"), (8, "</button>"), (4, "</div>"),
    (0, "</div>"), (0, "<div id=\"files-container\">"), (0, "")]

/-- The sections of all files. -/
def files (r : Report) : Except UnknownGroup (List Piece) := do
  let sections ← r.files.mapM fileSection
  return showIf (!r.files.isEmpty)
    (fileControls ++ sections.flatMap (fun s => row 0 [] ++ s ++ row 0 []) ++
      rows [(0, "</div>"), (0, "")]) ++ row 0 []

/-- A note with the name of its file. -/
def todoItem (t : String × Record) : List Piece :=
  rows [(8, "<li class=\"issue-item\">")] ++ row 12 (tagged t.2 (inReport t.1 t.2)) ++
  row 12 [message t.2] ++ rows [(8, "</li>"), (8, "")]

/-- All notes. -/
def todos (r : Report) : Except UnknownGroup (List Piece) := do
  let groups ← EsqlAudit.grouped priorities (fun t => priorityOf t.2) r.todos
  return showIf (!r.todos.isEmpty)
    (rows [(0, "<h2>TODO/FIXME</h2>"), (0, "")] ++
    priorities.flatMap (fun p =>
      let items := (groups.lookup p).getD []
      row 4 [] ++ row 4 [] ++
      showIf (!items.isEmpty)
        (row 4 ([markup "<h3>"] ++ badge p [markup " (", ofNat items.length, markup ")</h3>"]) ++
        rows [(4, "<ul class=\"issue-list\">"), (8, "")] ++ items.flatMap todoItem ++
        rows [(4, "</ul>"), (4, "")]) ++ row 0 []) ++ row 0 []) ++ row 0 []

/-- All issues with cursors. -/
def cursorIssues (r : Report) : List Piece :=
  let issues := r.cursorIssues
  showIf (!issues.isEmpty)
    (rows [(0, "<h2>Problèmes de curseurs SQL</h2>"), (0, "<ul class=\"issue-list\">"), (4, "")] ++
    (issues.take 50).flatMap (fun i => cursorItem 4 (inReport i.1 i.2) i.2) ++
    leftOut 4 50 issues.length "autres problèmes" ++
    rows [(0, "</ul>"), (0, "")]) ++ row 0 []

/-- All issues with memory. -/
def memoryIssues (r : Report) : Except UnknownGroup (List Piece) := do
  let groups ← EsqlAudit.grouped severities (fun i => severityOf i.2) r.memoryIssues
  return showIf (!r.memoryIssues.isEmpty)
    (rows [(0, "<h2>Problèmes de gestion mémoire</h2>"), (0, "")] ++
    listedSeverities.flatMap (fun s =>
      memoryGroup 4 "h3" 30 (fun s i => memoryItem 8 s (inReport i.1 i.2) i.2) groups s ++
        row 0 []) ++ row 0 []) ++ row 0 []

/-- The whole page. -/
def page (assets : Assets) (now : Moment) (r : Report) : Except UnknownGroup (List Piece) := do
  let todos ← todos r
  let memory ← memoryIssues r
  let files ← files r
  return [markup "<!DOCTYPE html>"] ++
    rows [(0, "<html lang=\"fr\">"), (0, "<head>"), (4, "<meta charset=\"UTF-8\">"),
      (4, "<meta name=\"viewport\" content=\"width=device-width, initial-scale=1.0\">"),
      (4, "<title>Pro*C Static Analyzer - Rapport d'analyse</title>"), (4, "<style>"),
      (0, assets.css), (4, "</style>"), (0, "</head>"), (0, "<body>"),
      (4, "<div class=\"container\">"), (8, "<h1>Pro*C Static Analyzer - Rapport d'analyse</h1>")] ++
    row 8 [markup "<p style=\"color: #6b7280; margin-bottom: 30px;\">Généré le ",
      value now.dayFirst, markup "</p>"] ++
    row 8 [] ++ row 8 (summary r) ++ row 8 files ++ row 8 todos ++ row 8 (cursorIssues r) ++
    row 8 memory ++
    rows [(4, "</div>"), (4, "<script>"), (0, assets.js), (4, "</script>"), (0, "</body>"),
      (0, "</html>"), (0, "")]

/-- The page as text. -/
def render (assets : Assets) (now : Moment) (r : Report) : Except UnknownGroup String :=
  (page assets now r).map Report.render

end EsqlAudit.Report.Html
