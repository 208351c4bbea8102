import EsqlAudit.Analysis.Progress
import EsqlAudit.Command.Invocation
import EsqlAudit.Report.Console
import EsqlAudit.Report.Csv
import EsqlAudit.Report.Html
import EsqlAudit.Report.Markdown
import EsqlAudit.Sql.Block
import EsqlAudit.Table

/-!
What commands do: they show things on the console and write files. What was shown before a fault stays
shown.
-/
namespace EsqlAudit.Command
open Analysis Console Files

/-- What commands work with. -/
structure World where
  disk : Disk
  /-- The tree of the plain C text of the file at a path. -/
  parse : String → List Char → Option Syntax.Node
  now : Moment
  assets : Report.Html.Assets

/-- What can end a command. -/
inductive Fault where
  | usage (fault : UsageFault)
  | pattern (fault : PatternFault)
  | file (path : String) (obstacle : Obstacle)
  | group (fault : UnknownGroup)

def Fault.message : Fault → String
  | usage f => f.message
  | pattern f => f.message
  | file path o => o.message path
  | group f => f.message

/-- What a command leaves: what it showed, the files after it, and the fault that ended it. -/
structure Outcome where
  shown : List Item
  disk : Disk
  fault : Option Fault

namespace Outcome

/-- Nothing but things shown. -/
def showing (w : World) (items : List Item) : Outcome := ⟨items, w.disk, none⟩

/-- A fault after things shown. -/
def failing (w : World) (items : List Item) (fault : Fault) : Outcome := ⟨items, w.disk, some fault⟩

/-- What is shown up to its own fault. -/
def ofShown (w : World) (s : Shown) : Outcome := ⟨s.items, w.disk, s.fault.map .group⟩

/-- The same with things shown before. -/
def after (items : List Item) (o : Outcome) : Outcome := { o with shown := items ++ o.shown }

end Outcome

/-! Analyses with progress. -/

def nothingFound : Item := .line "[yellow]Aucun fichier trouvé.[/yellow]"

/-- Shows which file an analysis has come to, and how many are done. -/
def progress (path : String) (completed : Nat) : Item :=
  .update ("[cyan]Analyse: " ++ fileName path) completed

/-- The patterns for which letter case counts. -/
def Settings.patterns (s : Settings) : List (List Char) :=
  match s.pattern with
  | some p => parsePatterns p.toList
  | none => [defaultPattern]

/-- The files to analyze in a directory. Patterns for which letter case does not count go before others. -/
def selectFiles (disk : Disk) (path : Path) (s : Settings) : Except PatternFault (List Path) :=
  match s.foldedPattern with
  | some p => .ok (findFilesFolded disk path s.recursive (parsePatterns p.toList))
  | none => findFiles disk path s.recursive s.patterns

/-- The report on the files found in a directory, and what is shown of each file. Where letter case does not
count, the files found are analyzed as they are, with a new inventory if one is wanted, and a file is announced
before the count goes up. -/
def surveyFound (a : Analyzer) (w : Surroundings) (s : Settings) (path : String) (found : List Path) :
    Except PatternFault (Report × List Item) × Analyzer :=
  match s.foldedPattern with
  | some _ =>
    let a := if a.options.todos then a.clear else a
    let (surveyed, a) := a.surveyTelling w (fun shown n => shown ++ [progress n.path (n.number - 1)]) []
      (found.map fun p => String.ofList p.text)
    (.ok surveyed, a)
  | none =>
    a.directoryTelling w (fun shown n => shown ++ [progress n.path n.number]) [] path s.recursive s.patterns

/-- What is shown of the analysis of files, before each of them is announced and after it. -/
def framed (found : List Path) (report : Report) (announced : List Item) : List Item :=
  [.line s!"[dim]Fichiers trouvés: {found.length}[/dim]", .task "[cyan]Analyse en cours..." found.length] ++
    announced ++ [.line s!"[green]✓ Analyse terminée: {report.files.length} fichier(s) analysé(s)[/green]"]

/-- The report on a path, which leads to a file or to a directory, and what is shown of the progress. -/
def survey (a : Analyzer) (w : Surroundings) (s : Settings) (path : String) :
    Except PatternFault (List Item × Report) × Analyzer :=
  let p := Path.ofText path.toList
  match w.disk.find? p with
  | some (.file _) =>
    let (f, a) := a.file w path
    (.ok ([.line s!"[dim]Analyse du fichier {fileName path}...[/dim]",
      .line "[green]✓ Analyse terminée[/green]"], ⟨[f], none⟩), a)
  | _ =>
    match selectFiles w.disk p s with
    | .error e => (.error e, a)
    | .ok [] => (.ok ([nothingFound], .empty), a)
    | .ok found =>
      let (surveyed, a) := surveyFound a w s path found
      (surveyed.map fun (report, announced) => (framed found report announced, report), a)

/-- Goes on with the report on a path, after what is shown first. -/
def withSurvey (w : World) (first : List Item) (s : Settings) (path : String)
    (next : Report → Outcome) : Outcome :=
  match (survey (.new s.parts) ⟨w.disk, w.parse⟩ s path).1 with
  | .error e => .failing w first (.pattern e)
  | .ok (items, report) => (next report).after (first ++ items)

/-! Saving reports. -/

/-- Writes a text to a file, and then shows that a report was saved. -/
def save (w : World) (path format output text : String) : Outcome :=
  match w.disk.write path.toList (Utf8.encode text.toList) with
  | .ok disk => ⟨[saved format output], disk, none⟩
  | .error o => .failing w [] (.file path o)

/-- The path of an output file without what does not count in it. -/
def plainPath (output : String) : String := String.ofList (Path.ofText output.toList).text

/-- Saves a report in a form that may not be able to show it. -/
def saveRendered (w : World) (format output : String) (text : Except UnknownGroup String) : Outcome :=
  match text with
  | .ok text => save w (plainPath output) format output text
  | .error u => .failing w [] (.group u)

/-- Saves a report as a JSON document. -/
def saveJson (w : World) (output : String) (r : Report) : Outcome :=
  save w (plainPath output) "JSON" output (r.json (some 2))

/-- Saves a report as a table of comma-separated values. -/
def saveCsv (w : World) (output : String) (r : Report) : Outcome :=
  save w output "CSV" output (String.ofList r.csv)

/-- Shows a report as lines of comma-separated values. -/
def csvLines (r : Report) : List Item :=
  r.csvRows.map fun row => .line (",".intercalate row)

/-- The line that asks for an output file. -/
def outputNeeded (format : String) : Item :=
  .line s!"[red]Erreur: --output est requis pour le format {format}[/red]"

/-- What a report looks like as text. -/
def textReport (s : Settings) (r : Report) : Shown :=
  let details :=
    if s.verbose then
      (((todos r).andThen (.ofItems (cursorIssues r))).andThen (memoryIssues r)).andThen
        (.ofItems (inventory r))
    else .ofItems []
  let totals :=
    if decide (1 < r.files.length) || decide (0 < r.totalFunctions) then
      summary s.cyclomatic s.cognitive r
    else []
  ((Shown.ofItems (r.files.flatMap (Console.file s.verbose))).andThen details).andThen
    (.ofItems totals)

/-- A JSON document, on one line or indented. -/
def jsonText (w : World) (pretty : Bool) (r : Report) : String :=
  r.datedJson w.now (if pretty then some 2 else none)

/-- Gives out a report in the form that is asked for. An empty name of an output file is none. -/
def giveOut (w : World) (s : Settings) (r : Report) : Outcome :=
  let json (pretty : Bool) (output : String) :=
    save w (plainPath output) "JSON" output (jsonText w pretty r)
  match s.format, s.output.filter (!·.isEmpty) with
  | .json, some output => json false output
  | .jsonPretty, some output => json true output
  | .json, none => .showing w [.line (jsonText w false r)]
  | .jsonPretty, none => .showing w [.line (jsonText w true r)]
  | .html, some output => saveRendered w "HTML" output (Report.Html.render w.assets w.now r)
  | .html, none => .showing w [outputNeeded "HTML"]
  | .markdown, some output => saveRendered w "Markdown" output (Report.Markdown.render w.now r)
  | .markdown, none => .showing w [outputNeeded "Markdown"]
  | .csv, some output => saveCsv w output r
  | .csv, none => .showing w (csvLines r)
  | .text, output? =>
    let shown := textReport s r
    match output?, shown.fault with
    | some output, none => (json true output).after shown.items
    | _, _ => .ofShown w shown

/-! Commands. -/

/-- Analyzes a path and gives out the report. -/
def runAnalyze (w : World) (path : String) (s : Settings) : Outcome :=
  let head := Item.panel
    "[bold]Pro*C Static Analyzer v0.2[/bold]\nComplexité · TODO/FIXME · Curseurs · Mémoire" "blue"
  withSurvey w [head] s path fun r =>
    if r.files.isEmpty then .showing w [nothingFound] else giveOut w s r

/-- The settings of a command that makes only some parts of the analysis. -/
def only (parts : Analysis.Options) : Settings := { Settings.default with parts }

/-- A note in the list of its file. -/
def todoEntry (t : Record) : Except UnknownGroup Item :=
  let priority := priorityOf t
  if priorities.contains priority then
    .ok (.line ("  " ++ inColor (priorityColor priority) (t.text "tag" "TODO") ++ " L" ++
      t.text "line_number" "0" ++ ": " ++ t.text "message" ""))
  else .error ⟨priority⟩

/-- The notes of a file. -/
def todoEntries : List Record → Shown
  | [] => .ofItems []
  | t :: rest =>
    match todoEntry t with
    | .ok item => (Shown.ofItems [item]).andThen (todoEntries rest)
    | .error u => ⟨[], some u⟩

/-- The notes of each file. -/
def todosByFile : List (String × List Record) → Shown
  | [] => .ofItems []
  | (path, ts) :: rest =>
    ((Shown.ofItems [.line s!"[bold blue]{fileName path}[/bold blue]"]).andThen
      (todoEntries ts)).andThen (todosByFile rest)

/-- Lists the notes under a path. -/
def runTodos (w : World) (path : String) : Outcome :=
  withSurvey w [] (only ⟨false, true, false, false⟩) path fun r =>
    if r.todos.isEmpty then .showing w [.line "[green]✓ Aucun TODO/FIXME trouvé[/green]"]
    else
      let byFile := Table.group r.todos
      .ofShown w ((Shown.ofItems
        [.line s!"[bold]📝 {r.todos.length} TODO/FIXME trouvés[/bold]\n"]).andThen
          (todosByFile byFile))

/-- The numbers of issues. -/
def issueTotals (r : Report) : List Item :=
  let total := r.totalMemoryIssues + r.totalCursorIssues
  if total == 0 then [.line "\n[green]✓ Aucun problème de sécurité détecté[/green]"]
  else
    [.line s!"\n[bold red]⚠ {total} problèmes de sécurité détectés[/bold red]",
     .line s!"  - Mémoire: {r.totalMemoryIssues}", .line s!"  - Curseurs: {r.totalCursorIssues}"]

/-- Lists the issues with memory and cursors under a path. -/
def runSecurity (w : World) (path : String) : Outcome :=
  withSurvey w [] (only ⟨false, false, true, true⟩) path fun r =>
    let head := Item.panel "[bold]🔒 Analyse de sécurité Pro*C[/bold]" "red"
    .ofShown w (((Shown.ofItems [head]).andThen (memoryIssues r)).andThen
      (.ofItems (cursorIssues r ++ issueTotals r)))

/-- The first of some texts that is not empty, shortened. -/
def moduleTitle (m : Record) (filename : String) : String :=
  let title := m.text "title" ""
  let description := cut 40 (m.text "description" "")
  let shown :=
    if !title.isEmpty then title else if !description.isEmpty then description else filename
  if 50 < shown.length then cut 47 shown ++ "..." else shown

/-- The row of a module. -/
def moduleRow (m : Record) : List String :=
  let filename := m.text "filename" "?"
  let count (key : String) := ((m.lookup key).map fun v => v.items.length).getD 0
  [filename, moduleTitle m filename, toString (count "includes" + count "exec_sql_includes")]

/-- The modules of a directory. -/
def directoryTable (entry : String × List Record) : List Item :=
  [.line s!"\n[bold cyan]📁 {entry.1}/[/bold cyan]",
   .table true [⟨"Fichier", false⟩, ⟨"Titre/Description", false⟩, ⟨"Includes", false⟩]
     (entry.2.map moduleRow)]

/-- Shows the inventory of a report. -/
def inventoryTables (r : Report) : List Item :=
  match filled r.inventory with
  | none => [.line "[yellow]Aucun module trouvé[/yellow]"]
  | some i =>
    let entries := modulesByDirectory i
    entries.flatMap directoryTable ++
      [.line ("\n[bold]Total: " ++ (i.members "summary").text "total_modules" "0" ++
        s!" modules dans {entries.length} répertoires[/bold]")]

/-- Shows the modules in a directory. -/
def runInventory (w : World) (path : String) : Outcome :=
  match w.disk.find? (Path.ofText path.toList) with
  | some (.file _) => .showing w [.line "[yellow]Utilisez un répertoire pour l'inventaire[/yellow]"]
  | _ =>
    withSurvey w [] (only ⟨false, true, false, false⟩) path fun r =>
      .showing w (.panel s!"[bold]📦 Inventaire du projet[/bold]\n{path}" "blue" ::
        inventoryTables r)

/-- Shows the embedded statements of a file and its plain C text. -/
def runPreprocess (w : World) (path : String) : Outcome :=
  match w.disk.read path.toList with
  | .error o => .failing w [] (.file path o)
  | .ok source =>
    let p := Sql.prepare source
    let count := p.blocks.length
    .showing w
      (.line s!"[bold]Blocs EXEC SQL trouvés: {count}[/bold]" ::
        (p.blocks.take 20).map (fun b => .line s!"  L{b.line}: {b.kind.name}") ++
        lineIf (decide (20 < count)) s!"  ... et {count - 20} autres" ++
        [.line "\n[bold]Code prétraité:[/bold]", .line (String.ofList p.text)])

/-- What a run of the program gives: a text of its own, or the outcome of a command. -/
inductive Answer where
  | version
  | help
  | outcome (o : Outcome)

/-- The code with which a run ends: 0 if all went well, 2 if the command line asks for nothing that can be
done, and 1 for any other fault. -/
def Answer.exitCode : Answer → Nat
  | version | help => 0
  | outcome o =>
    match o.fault with
    | none => 0
    | some (.usage _) => 2
    | some _ => 1

/-- Does what an invocation asks for. -/
def perform (w : World) : Invocation → Answer
  | .version => .version
  | .help => .help
  | .analyze path s => .outcome (runAnalyze w path s)
  | .todos path => .outcome (runTodos w path)
  | .security path => .outcome (runSecurity w path)
  | .inventory path => .outcome (runInventory w path)
  | .preprocess path => .outcome (runPreprocess w path)

/-- Runs the program on a command line. -/
def run (w : World) (arguments : List String) : Answer :=
  match Invocation.ofArguments (fun path => (w.disk.lookup? path.toList).isSome) arguments with
  | .error f => .outcome (.failing w [] (.usage f))
  | .ok i => perform w i

/-- The text about the version. -/
def versionText : String := "proc-analyzer, version " ++ Report.version ++ "\n"

/-- The text about the commands. -/
def helpText : String :=
  "\n".intercalate
    ["Usage: proc-analyzer [OPTIONS] COMMAND [ARGS]...",
     "",
     "Commands:",
     "  analyze     Analyse un fichier ou un répertoire",
     "  inventory   Affiche l'inventaire des modules",
     "  preprocess  Affiche le code prétraité",
     "  security    Analyse de sécurité",
     "  todos       Liste les TODO/FIXME"]

end EsqlAudit.Command
