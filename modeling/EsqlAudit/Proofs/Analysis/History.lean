import EsqlAudit.Analysis.Analyzer

/-!
# Analyzers without a memory

An analyzer answers every call as a new one with the same options would. Each program that it turns to overwrites
the blocks, the lines and the tree of the one before; what else it keeps, the inventory, is written by the
analysis of a file but not read by it, and a report starts with an empty one.
-/

namespace EsqlAudit.Sql.Preparer
open Text

theorem foldl_enter (source : List Char) (kindOf : Occurrence → Kind) (p : Preparer) (os : List Occurrence) :
    os.foldl (enter source kindOf) p = ⟨p.blocks ++ os.map fun o =>
      ⟨o.span.start, o.span.stop, lineIn p.starts o.span.start, o.text source, kindOf o⟩, p.starts⟩ := by
  induction os generalizing p with
  | nil => simp
  | cons o os ih =>
      rw [List.foldl_cons, ih]
      simp [enter]

/-- Whatever the preparer has kept, it makes the same of a program. -/
theorem run_eq (p : Preparer) (source : List Char) :
    p.run source = ((prepare source).text, ⟨(prepare source).blocks, (prepare source).starts⟩) := by
  simp only [run, openSections, replaceStatements, turnTo, foldl_enter, prepare, Sql.openSections,
    Sql.replaceStatements, List.map_map, List.nil_append]
  rfl

end EsqlAudit.Sql.Preparer

namespace EsqlAudit.Analysis
open Comment Files

/-! ## The analyzer follows the analyses without state -/

/-- A step of an analyzer with these options gives a value and leaves an inventory as given, and keeps the options. -/
structure Follows {α : Type} (options : Options) (r : α × Analyzer) (s : α × Inventory) : Prop where
  value : r.1 = s.1
  options : r.2.options = options
  inventory : r.2.inventory = s.2

/-- The files and trees of a call with the options of the analyzer. -/
def Analyzer.setting (a : Analyzer) (w : Surroundings) : Setting := ⟨w.disk, a.options, w.parse⟩

variable (a : Analyzer) (w : Surroundings)

theorem source_follows (parse : List Char → Option Syntax.Node) (source : List Char) (filepath : String) :
    Follows a.options (a.source parse source filepath) (analyze a.options parse a.inventory source filepath) := by
  rw [Analyzer.source, Analyzer.turnTo, Sql.Preparer.run_eq]
  exact ⟨rfl, rfl, rfl⟩

theorem opened_follows (opened : Except FileMetrics (List Char × String)) :
    Follows a.options (a.opened w opened) (analyzeOpened (a.setting w) a.inventory opened) := by
  cases opened with
  | error f => exact ⟨rfl, rfl, rfl⟩
  | ok found => exact source_follows a (w.parse found.2) found.1 found.2

theorem file_follows (given : String) :
    Follows a.options (a.file w given) (analyzeFile (a.setting w) a.inventory given) :=
  opened_follows a w (openFile w.disk given)

theorem each_follows (paths : List String) :
    Follows a.options (a.each w paths) (analyzeAll (a.setting w) a.inventory paths) := by
  induction paths generalizing a with
  | nil => exact ⟨rfl, rfl, rfl⟩
  | cons path rest ih =>
      have hfile := file_follows a w path
      have hrest := ih (a.file w path).2
      rw [Analyzer.setting, hfile.options, hfile.inventory] at hrest
      refine ⟨?_, hrest.options, hrest.inventory⟩
      change (a.file w path).1 :: ((a.file w path).2.each w rest).1 = _
      rw [hfile.value, hrest.value]
      rfl

theorem survey_follows (paths : List String) :
    Follows a.options (a.clear.survey w paths) (analyzeFiles (a.setting w) paths) := by
  have heach := each_follows a.clear w paths
  refine ⟨?_, heach.options, heach.inventory⟩
  rw [Analyzer.survey, analyzeFiles]
  simp only [heach.value, heach.options, heach.inventory]
  rfl

theorem selected_follows (selected : Except PatternFault (Option (List String))) :
    Follows a.options (a.clear.selected w selected) (analyzeSelected (a.setting w) selected) := by
  cases selected with
  | error e => exact ⟨rfl, rfl, rfl⟩
  | ok found =>
      cases found with
      | none => exact ⟨rfl, rfl, rfl⟩
      | some paths =>
          have hsurvey := survey_follows a w paths
          exact ⟨congrArg (fun r => Except.ok (r, paths)) hsurvey.value, hsurvey.options, hsurvey.inventory⟩

theorem directory_follows (directory : String) (recursive : Bool) (patterns : List (List Char)) :
    Follows a.options (a.directory w directory recursive patterns)
      (analyzeDirectory (a.setting w) directory recursive patterns) :=
  selected_follows a w (selectPaths w.disk (Path.ofText directory.toList) recursive patterns)

/-! ## What is written to the inventory -/

/-- The module that an opened file describes: none if it could not be read, or if a fault ends its analysis. -/
def moduleOpened (w : Setting) : Except FileMetrics (List Char × String) → Option Module
  | .error _ => none
  | .ok (source, filepath) =>
    let prepared := Sql.prepare source
    match (measureProgram w.options prepared.blocks
      (.load prepared.text (w.parse filepath prepared.text))).2 with
    | some _ => none
    | none => some (Module.ofSource source filepath)

def moduleAt (w : Setting) (given : String) : Option Module :=
  moduleOpened w (openFile w.disk given)

/-- The inventory of the modules that some files describe, if comments are analyzed. -/
def inventoryOf (w : Setting) (paths : List String) : Option Record :=
  whenOn w.options.todos ((paths.filterMap (moduleAt w)).foldl Inventory.add .empty).toRecord

theorem examine_fst (options : Options) (i j : Inventory) (source : List Char) (filepath : String)
    (blocks : List Sql.Block) (program : Syntax.Program) :
    (examine options i source filepath blocks program).1 = (examine options j source filepath blocks program).1 := by
  rw [examine, examine]
  obtain ⟨functions, fault⟩ := measureProgram options blocks program
  cases fault with
  | none => rfl
  | some e => rfl

theorem analyzeOpened_fst (w : Setting) (i j : Inventory) (opened : Except FileMetrics (List Char × String)) :
    (analyzeOpened w i opened).1 = (analyzeOpened w j opened).1 := by
  cases opened with
  | error f => rfl
  | ok found => exact examine_fst ..

theorem analyzeOpened_inventory (w : Setting) (i : Inventory) (opened : Except FileMetrics (List Char × String))
    (h : w.options.todos = true) :
    (analyzeOpened w i opened).2 = (moduleOpened w opened).toList.foldl Inventory.add i := by
  cases opened with
  | error f => rfl
  | ok found =>
      rw [analyzeOpened, analyze, examine, moduleOpened]
      obtain ⟨functions, fault⟩ := measureProgram w.options (Sql.prepare found.1).blocks
        (.load (Sql.prepare found.1).text (w.parse found.2 (Sql.prepare found.1).text))
      cases fault with
      | none => simp [h]
      | some e => rfl

theorem analyzeAll_inventory (w : Setting) (i : Inventory) (paths : List String) (h : w.options.todos = true) :
    (analyzeAll w i paths).2 = (paths.filterMap (moduleAt w)).foldl Inventory.add i := by
  induction paths generalizing i with
  | nil => rfl
  | cons path rest ih =>
      change (analyzeAll w (analyzeFile w i path).2 rest).2 = _
      rw [ih, analyzeFile, analyzeOpened_inventory w i _ h, ← moduleAt, List.filterMap_cons]
      cases moduleAt w path with
      | none => rfl
      | some m => rfl

theorem analyzeFiles_inventory (w : Setting) (paths : List String) :
    (analyzeFiles w paths).1.inventory = inventoryOf w paths := by
  change whenOn w.options.todos (analyzeAll w .empty paths).2.toRecord = _
  cases h : w.options.todos with
  | false => rw [inventoryOf, h]; rfl
  | true => rw [analyzeAll_inventory w .empty paths h, inventoryOf, h]

theorem analyzeSelected_inventory (w : Setting) (selected : Except PatternFault (Option (List String))) :
    (analyzeSelected w selected).1.map (·.1.inventory) = selected.map (·.bind (inventoryOf w)) := by
  cases selected with
  | error e => rfl
  | ok found =>
      cases found with
      | none => rfl
      | some paths => exact congrArg Except.ok (analyzeFiles_inventory w paths)

/-! ## Histories -/

/-- One call keeps the options. -/
theorem answer_options (call : Call) : (a.answer call).2.options = a.options := by
  cases call with
  | source parse source filepath => exact (source_follows a parse source filepath).options
  | file w path => exact (file_follows a w path).options
  | files w paths => exact (survey_follows a w paths).options
  | directory w directory recursive patterns => exact (directory_follows a w directory recursive patterns).options

theorem after_options (history : List Call) : (a.after history).options = a.options := by
  induction history generalizing a with
  | nil => rfl
  | cons call rest ih => exact (ih (a.answer call).2).trans (answer_options a call)

/-! Two analyzers with the same options do the same, whatever else they keep. -/

variable {a} {b : Analyzer}

theorem setting_congr (h : a.options = b.options) : a.setting w = b.setting w := by
  rw [Analyzer.setting, Analyzer.setting, h]

theorem source_congr (h : a.options = b.options) (parse : List Char → Option Syntax.Node) (source : List Char)
    (filepath : String) : (a.source parse source filepath).1 = (b.source parse source filepath).1 := by
  rw [(source_follows a parse source filepath).value, (source_follows b parse source filepath).value, h]
  exact examine_fst ..

theorem file_congr (h : a.options = b.options) (given : String) : (a.file w given).1 = (b.file w given).1 := by
  rw [(file_follows a w given).value, (file_follows b w given).value, setting_congr w h]
  exact analyzeOpened_fst ..

theorem files_congr (h : a.options = b.options) (paths : List String) : (a.files w paths).1 = (b.files w paths).1 := by
  rw [Analyzer.files, Analyzer.files, (survey_follows a w paths).value, (survey_follows b w paths).value,
    setting_congr w h]

theorem directory_congr (h : a.options = b.options) (directory : String) (recursive : Bool)
    (patterns : List (List Char)) :
    (a.directory w directory recursive patterns).1 = (b.directory w directory recursive patterns).1 := by
  rw [(directory_follows a w directory recursive patterns).value,
    (directory_follows b w directory recursive patterns).value, setting_congr w h]

theorem answer_congr (h : a.options = b.options) (call : Call) : (a.answer call).1 = (b.answer call).1 := by
  cases call with
  | source parse source filepath => exact congrArg Reply.metrics (source_congr h parse source filepath)
  | file w path => exact congrArg Reply.metrics (file_congr w h path)
  | files w paths => exact congrArg Reply.report (files_congr w h paths)
  | directory w directory recursive patterns =>
      exact congrArg Reply.survey (directory_congr w h directory recursive patterns)

/-- After any calls, failed ones among them, an analyzer answers each further call as a new analyzer with its
options does: in particular it gives the metrics of a program that a new one gives. The inventory in a report
holds the modules of the files of its call and no others. -/
theorem answer_after (options : Options) (history : List Call) :
    (∀ call, (((Analyzer.new options).after history).answer call).1 = ((Analyzer.new options).answer call).1) ∧
    (∀ parse source filepath, (((Analyzer.new options).after history).source parse source filepath).1 =
      ((Analyzer.new options).source parse source filepath).1) ∧
    (∀ w paths, (((Analyzer.new options).after history).files w paths).1.inventory =
      inventoryOf ⟨w.disk, options, w.parse⟩ paths) ∧
    ∀ w directory recursive patterns,
      (((Analyzer.new options).after history).directory w directory recursive patterns).1.map (·.1.inventory) =
        (selectPaths w.disk (Path.ofText directory.toList) recursive patterns).map
          (·.bind (inventoryOf ⟨w.disk, options, w.parse⟩)) := by
  generalize ha : (Analyzer.new options).after history = a
  have hoptions : a.options = options := ha ▸ after_options (Analyzer.new options) history
  refine ⟨fun call => answer_congr hoptions call, fun parse source filepath => ?_, fun w paths => ?_,
    fun w directory recursive patterns => ?_⟩
  · exact source_congr hoptions parse source filepath
  · rw [Analyzer.files, (survey_follows a w paths).value, analyzeFiles_inventory, Analyzer.setting, hoptions]
  · rw [(directory_follows a w directory recursive patterns).value, analyzeDirectory, analyzeSelected_inventory,
      Analyzer.setting, hoptions]

end EsqlAudit.Analysis
