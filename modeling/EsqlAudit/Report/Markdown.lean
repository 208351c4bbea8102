import EsqlAudit.Files.Path
import EsqlAudit.Report.Document
import EsqlAudit.Report.Grading

/-!
Reports as Markdown texts.
-/
namespace EsqlAudit.Report.Markdown
open Decimal Files

/-- A text inside a table: every bar is escaped. -/
def escapeBars (s : String) : String :=
  String.ofList (s.toList.flatMap fun c => if c == '|' then ['\\', '|'] else [c])

/-- The title and the moment of making. -/
def title (now : Moment) : String :=
  "# Pro*C Static Analyzer - Rapport d'analyse\n\n**Généré le** " ++ now.dayFirst

/-- The table of totals. -/
def totals (r : Report) : String :=
  String.intercalate "\n"
    ["## 📊 Résumé",
     "",
     "| Métrique | Valeur |",
     "|----------|--------|",
     s!"| Fichiers analysés | {r.files.length} |",
     s!"| Fonctions totales | {r.totalFunctions} |",
     s!"| Lignes de code | {Decimal.grouped r.totalLines} |",
     s!"| Blocs SQL totaux | {r.totalSqlBlocks} |",
     s!"| Complexité cyclomatique moyenne | {fixed 2 r.averageCyclomatic} |",
     s!"| Complexité cognitive moyenne | {fixed 2 r.averageCognitive} |",
     s!"| TODO/FIXME | {r.totalTodos} |",
     s!"| Problèmes curseurs | {r.totalCursorIssues} |",
     s!"| Problèmes mémoire | {r.totalMemoryIssues} |"]

/-- A line that tells of items left out, if there are more than were shown. -/
def leftOut (shown : Nat) (count : Nat) (what : String) : List String :=
  if shown < count then [s!"*... et {count - shown} {what}*"] else []

/-- The mark of a priority. -/
def priorityMark (priority : String) : String :=
  if priority == "high" then "🔴" else if priority == "medium" then "🟡" else "⚪"

/-- The mark of the severity of a cursor issue. -/
def cursorMark (severity : String) : String :=
  ([("error", "🔴"), ("warning", "🟡"), ("info", "🔵")].lookup severity).getD "⚪"

/-- The mark of the severity of a memory issue. -/
def memoryMark (severity : String) : String :=
  if severity == "warning" then "🟡" else "🔴"

/-- The items of each group that has any, under a heading of their own. -/
def sections {α : Type} (groups : Table (List α)) (names : List String)
    (heading : String → Nat → String) (shown : Nat) (linesOf : α → List String) : List String :=
  names.flatMap fun name =>
    let items := (groups.lookup name).getD []
    if items.isEmpty then []
    else heading name items.length :: ((items.take shown).flatMap linesOf ++
      leftOut shown items.length "autres")

/-- A note. `place` is where it stands. -/
def todoLines (place : Record → String) (t : Record) : List String :=
  let tag := t.text "tag" "TODO"
  let message := escapeBars (t.text "message" "")
  [s!"- **{tag}** `{place t}` - {message}"]

/-- An issue with a cursor. `place` is where it is. -/
def cursorLines (place : Record → String) (i : Record) : List String :=
  let severity := severityOf i
  let cursor := escapeBars (i.text "cursor_name" "?")
  let message := escapeBars (i.text "message" "")
  [s!"- {cursorMark severity} **{capitals severity}** `{place i}`",
   s!"  - Curseur: `{cursor}` - {message}"]

/-- An issue with memory. `place` is where it is. -/
def memoryLines (place : Record → String) (i : Record) : List String :=
  let message := escapeBars (i.text "message" "")
  let advice := escapeBars (i.text "recommendation" "")
  s!"- `{place i}` - {message}" :: (if advice.isEmpty then [] else [s!"  - → {advice}"])

/-- The line of an item in its file. -/
def inFile (item : Record) : String :=
  "L" ++ item.text "line_number" "0"

/-- The line of an item with the name of its file. -/
def inReport (path : String) (item : Record) : String :=
  fileName path ++ ":" ++ item.text "line_number" "0"

/-- The numbers of a file. -/
def fileNumbers (f : FileMetrics) : List String :=
  [s!"**Lignes:** {f.totalLines} (non vides: {f.nonEmptyLines})  ",
   s!"**Fonctions:** {f.functionCount}  ", s!"**Blocs SQL:** {f.sqlBlocks}"] ++
  (if f.todos.isEmpty then []
   else ["  ", s!"**TODO/FIXME:** {f.todoCount} ({f.urgentTodos} haute priorité)"]) ++
  (match filled f.cursors with
   | none => []
   | some c =>
     let issues := c.int "total_issues" 0
     let nested := c.int "nested_cursor_count" 0
     if 0 < issues || 0 < nested then
       let cursors := c.text "total_cursors" "0"
       ["  ", s!"**Curseurs:** {cursors} ({issues} issues, {nested} imbriqués)"]
     else []) ++
  (match filled f.memory with
   | none => []
   | some m =>
     let issues := m.int "total_issues" 0
     if 0 < issues then
       let critical := m.text "critical_count" "0"
       ["  ", s!"**Mémoire:** {issues} problèmes ({critical} critiques)"]
     else [])

/-- The row of a function. -/
def functionRow (g : FunctionMetrics) : String :=
  let cyclo := (cyclomaticGrade g.cyclomatic).badge
  let cogn := (cognitiveGrade g.cognitive).badge
  s!"| `{escapeBars g.name}` (L{g.startLine}) | {g.lineCount} | {cyclo} {g.cyclomatic} | " ++
    s!"{cogn} {g.cognitive} | {g.sqlBlocks} |"

/-- The table of the functions of a file. -/
def functionTable (f : FileMetrics) : List String :=
  if f.functions.isEmpty then []
  else ["\n#### Fonctions\n", "| Fonction | Lignes | Cyclo | Cogn | SQL |",
    "|----------|--------|-------|------|-----|"] ++ f.functions.map functionRow

/-- The notes of a file. -/
def fileTodos (f : FileMetrics) : Except UnknownGroup (List String) := do
  if f.todos.isEmpty then return []
  let groups ← EsqlAudit.grouped priorities priorityOf f.todos
  return "\n#### 📝 TODO/FIXME\n" ::
    sections groups priorities
      (fun p n => s!"\n**{priorityMark p} {capitals p} ({n})**\n") 10 (todoLines inFile)

/-- The issues with the cursors of a file. -/
def fileCursors (f : FileMetrics) : List String :=
  let issues := issuesOf f.cursors
  if issues.isEmpty then []
  else "\n#### 🔄 Problèmes de curseurs SQL\n" ::
    ((issues.take 15).flatMap (cursorLines inFile) ++ leftOut 15 issues.length "autres problèmes")

/-- The issues with the memory of a file. -/
def fileMemory (f : FileMetrics) : Except UnknownGroup (List String) := do
  let issues := issuesOf f.memory
  if issues.isEmpty then return []
  let groups ← EsqlAudit.grouped severities severityOf issues
  return "\n#### 🧠 Problèmes de gestion mémoire\n" ::
    sections groups listedSeverities
      (fun s n => s!"\n**{memoryMark s} {capitals s} ({n})**\n") 10 (memoryLines inFile)

/-- The section of a file. -/
def fileSection (f : FileMetrics) : Except UnknownGroup String := do
  let todos ← fileTodos f
  let memory ← fileMemory f
  return String.intercalate "\n" (("### " ++ fileName f.filepath) :: (fileNumbers f ++
    functionTable f ++ todos ++ fileCursors f ++ memory))

/-- The sections of all files. -/
def fileSections (r : Report) : Except UnknownGroup String := do
  if r.files.isEmpty then return ""
  let parts ← r.files.mapM fileSection
  return String.intercalate "\n\n" ("## 📄 Fichiers analysés" :: parts)

/-- All notes. -/
def todoSection (r : Report) : Except UnknownGroup String := do
  let todos := r.todos
  if todos.isEmpty then return ""
  let groups ← EsqlAudit.grouped priorities (fun t => priorityOf t.2) todos
  return String.intercalate "\n" ("## 📝 TODO/FIXME" ::
    sections groups priorities (fun p n => s!"\n### {priorityMark p} {capitals p} ({n})") 20
      (fun t => todoLines (inReport t.1) t.2))

/-- All issues with cursors. -/
def cursorSection (r : Report) : String :=
  let issues := r.cursorIssues
  if issues.isEmpty then ""
  else String.intercalate "\n" ("## 🔄 Problèmes de curseurs SQL" ::
    ((issues.take 30).flatMap (fun i => cursorLines (inReport i.1) i.2) ++
      leftOut 30 issues.length "autres problèmes"))

/-- All issues with memory. -/
def memorySection (r : Report) : Except UnknownGroup String := do
  let issues := r.memoryIssues
  if issues.isEmpty then return ""
  let groups ← EsqlAudit.grouped severities (fun i => severityOf i.2) issues
  return String.intercalate "\n" ("## 🧠 Problèmes de gestion mémoire" ::
    sections groups listedSeverities (fun s n => s!"\n### {memoryMark s} {capitals s} ({n})") 20
      (fun i => memoryLines (inReport i.1) i.2))

/-- The whole text. -/
def render (now : Moment) (r : Report) : Except UnknownGroup String := do
  let files ← fileSections r
  let todos ← todoSection r
  let memory ← memorySection r
  return String.intercalate "\n\n" [title now, totals r, files, todos, cursorSection r, memory]

end EsqlAudit.Report.Markdown
