import EsqlAudit.Proofs.Analysis.History
import EsqlAudit.Proofs.Analysis.Namesakes
import EsqlAudit.Proofs.Outcome

/-!
# Analyses that fail

A fault ends the analysis of a program, and is reported: the functions before the one that could not be measured stay,
nothing that comes after them is made, and the inventory is left as it was. Without a fault every function is reported.
-/

namespace EsqlAudit.Analysis
open Comment Complexity Syntax

theorem Fault.message_ne_empty (e : Fault) : e.message ≠ "" := by
  have headed (s t : String) (h : s ≠ "") : s ++ t ≠ "" := fun he => h (String.append_eq_empty_iff.mp he).1
  cases e with
  | undecodable f => exact headed _ _ (by decide)
  | number f => cases f <;> exact headed _ _ (by decide)

/-! ## What an examination gives -/

section
variable {options : Options} {inventory : Inventory} {source : List Char} {filepath : String}
  {blocks : List Sql.Block} {p : Program} {functions : List FunctionMetrics}

theorem examine_failed {e : Fault} (h : measureProgram options blocks p = (functions, some e)) :
    examine options inventory source filepath blocks p =
      ({ outline source filepath blocks with functions, parseErrors := true, errorMessage := e.message },
        inventory) := by
  rw [examine, h]

theorem examine_done (h : measureProgram options blocks p = (functions, none)) :
    (examine options inventory source filepath blocks p).1 =
      { outline source filepath blocks with
        functions
        parseErrors := p.hasErrors
        todos := if options.todos then (Comment.todos source).map Todo.toRecord else []
        moduleInfo := whenOn options.todos (Module.ofSource source filepath).toRecord
        cursors := whenOn options.cursors (Cursor.examine source).toRecord
        memory := whenOn options.memory (Memory.examine source).toRecord } := by
  rw [examine, h]

end

/-! ## Functions up to a fault -/

section
variable {ε α : Type} {xs : List (Except ε α)}

theorem gather_complete (h : (gather xs).2 = none) : xs = (gather xs).1.map .ok := by
  fun_induction gather xs with
  | case1 => rfl
  | case2 e rest => cases h
  | case3 a rest ih => rw [List.map_cons, ← ih h]

theorem gather_cut {e : ε} (h : (gather xs).2 = some e) :
    ∃ rest, xs = (gather xs).1.map .ok ++ .error e :: rest := by
  fun_induction gather xs with
  | case1 => cases h
  | case2 e' rest =>
      cases h
      exact ⟨rest, rfl⟩
  | case3 a rest ih =>
      obtain ⟨after, hafter⟩ := ih h
      exact ⟨after, by rw [List.map_cons, List.cons_append, ← hafter]⟩

end

/-- The metrics tell of a function: they have its name and its lines. -/
structure TellsOf (m : FunctionMetrics) (f : Function) : Prop where
  name : m.name = f.name
  startLine : m.startLine = f.startLine
  endLine : m.endLine = f.endLine
  lineCount : m.lineCount = f.lineCount

variable {options : Options} {blocks : List Sql.Block} {p : Program} {fs : List Function}

/-- The measures of a function of a program, with the figures of the first function of its name. -/
def measured (options : Options) (blocks : List Sql.Block) (p : Program) (fs : List Function) (f : Function) :
    Except Fault FunctionMetrics :=
  (figuresOf options p (namesake fs f)).map (describe blocks f)

theorem measureProgram_eq (h : Function.all p = .ok fs) :
    measureProgram options blocks p = gather (fs.map (measured options blocks p fs)) := by
  rw [measureProgram, h]
  exact measureFunctions_eq (Session.remembers_start p options.halstead) fs

theorem tellsOf_measured {f : Function} {m : FunctionMetrics} (h : .ok m = measured options blocks p fs f) :
    TellsOf m f := by
  obtain ⟨r, -, rfl⟩ := of_map_ok h.symm
  exact ⟨rfl, rfl, rfl, rfl⟩

theorem tellsOf_of_map_eq {told : List Function} {ms : List FunctionMetrics}
    (h : ms.map .ok = told.map (measured options blocks p fs)) : List.Forall₂ TellsOf ms told :=
  (forall₂_of_map_eq h).imp fun _ _ => tellsOf_measured

/-- Functions that were all measured are all told of. -/
theorem measureProgram_done {functions : List FunctionMetrics}
    (h : measureProgram options blocks p = (functions, none)) :
    ∃ fs, Function.all p = .ok fs ∧ List.Forall₂ TellsOf functions fs := by
  cases hall : Function.all p with
  | error e =>
      rw [measureProgram, hall] at h
      cases h
  | ok fs =>
      rw [measureProgram_eq hall] at h
      have hcomplete := gather_complete (congrArg Prod.snd h)
      rw [h] at hcomplete
      exact ⟨fs, rfl, tellsOf_of_map_eq hcomplete.symm⟩

/-- The functions before the one that could not be measured are told of. -/
theorem measureProgram_cut {functions : List FunctionMetrics} {e : Fault} (hall : Function.all p = .ok fs)
    (h : measureProgram options blocks p = (functions, some e)) :
    ∃ told f rest, fs = told ++ f :: rest ∧ List.Forall₂ TellsOf functions told ∧
      figuresOf options p (namesake fs f) = .error e := by
  rw [measureProgram_eq hall] at h
  obtain ⟨after, hcut⟩ := gather_cut (congrArg Prod.snd h)
  rw [h] at hcut
  obtain ⟨told, others, rfl, htold, hothers⟩ := List.map_eq_append_iff.mp hcut
  obtain ⟨f, rest, rfl, hf, -⟩ := List.map_eq_cons_iff.mp hothers
  exact ⟨told, f, rest, rfl, tellsOf_of_map_eq htold.symm, of_map_error hf⟩

/-! ## What an analyzer reports -/

/-- What is left of an analysis that a fault ended. The functions are those before the first that cannot be measured, or
none if they cannot be told at all. -/
structure Failed (a : Analyzer) (p : Program) (r : FileMetrics × Analyzer) : Prop where
  parseErrors : r.1.parseErrors = true
  todos : r.1.todos = []
  moduleInfo : r.1.moduleInfo = none
  cursors : r.1.cursors = none
  memory : r.1.memory = none
  inventory : r.2.inventory = a.inventory
  untold : ∀ e, Function.all p = .error e → r.1.functions = [] ∧ r.1.errorMessage = (Fault.undecodable e).message
  told : ∀ fs, Function.all p = .ok fs → ∃ told f rest e, fs = told ++ f :: rest ∧
    List.Forall₂ TellsOf r.1.functions told ∧ figuresOf a.options p (namesake fs f) = .error e ∧
    r.1.errorMessage = e.message

/-- Whatever the tree of a program, its analysis gives metrics. Either they tell of a fault, and only what came
before the fault was made, or they tell of all functions of the program in their order. -/
theorem source_failed_or_complete (a : Analyzer) (parse : List Char → Option Node) (source : List Char)
    (filepath : String) :
    ((a.source parse source filepath).1.errorMessage ≠ "" →
      Failed a (programOf parse source) (a.source parse source filepath)) ∧
    ((a.source parse source filepath).1.errorMessage = "" →
      ∃ fs, Function.all (programOf parse source) = .ok fs ∧
        List.Forall₂ TellsOf (a.source parse source filepath).1.functions fs) := by
  -- The analyzer does what the examination of the program says, so only the outcome of measuring is split.
  obtain ⟨hvalue, -, hinventory⟩ := source_follows a parse source filepath
  generalize hp : programOf parse source = p
  rw [analyze, ← programOf, hp] at hvalue hinventory
  generalize a.source parse source filepath = r at hvalue hinventory ⊢
  obtain ⟨m, after⟩ := r
  rcases hmeasured : measureProgram a.options (Sql.prepare source).blocks p with ⟨functions, fault⟩
  cases fault with
  | some e =>
      rw [examine_failed hmeasured] at hvalue hinventory
      subst hvalue
      refine ⟨fun _ => ⟨rfl, rfl, rfl, rfl, rfl, hinventory, fun e' hall => ?_, fun fs hall => ?_⟩,
        fun h => absurd h e.message_ne_empty⟩
      · rw [measureProgram, hall] at hmeasured
        cases hmeasured
        exact ⟨rfl, rfl⟩
      · obtain ⟨told, f, rest, hfs, htold, hf⟩ := measureProgram_cut hall hmeasured
        exact ⟨told, f, rest, e, hfs, htold, hf, rfl⟩
  | none =>
      rw [examine_done hmeasured] at hvalue
      subst hvalue
      exact ⟨fun h => absurd rfl h, fun _ => measureProgram_done hmeasured⟩

/-- A tree of the text `int f(){}int g(){é;}` with a node that ends inside a letter. -/
def cutLetter : Node :=
  .mk .unit 0 21 [
    .mk .functionDefinition 0 9 [
      .mk .functionDeclarator 4 7 [.mk .identifier 4 5 [] true false] true false] true false,
    .mk .functionDefinition 9 21 [
      .mk .functionDeclarator 13 16 [.mk .identifier 13 14 [] true false] true false,
      .mk .binaryExpression 17 19 [.mk .identifier 17 18 [] true false] true false] true false] true false

/-- The first function is reported, the second is not. -/
theorem source_failed_cut_letter :
    let a := Analyzer.new ⟨false, true, true, true⟩
    let parse := fun _ => some cutLetter
    let source := "int f(){}int g(){é;}".toList
    (a.source parse source "f.pc").1.functions.map (·.name) = ["f"] ∧
      Failed a (programOf parse source) (a.source parse source "f.pc") := by
  intro a parse source
  have hmessage : (a.source parse source "f.pc").1.errorMessage.isEmpty = false := by decide +kernel
  have hnames : (a.source parse source "f.pc").1.functions.map (·.name) = ["f"] := by decide +kernel
  clear_value a parse source
  refine ⟨hnames, (source_failed_or_complete a parse source "f.pc").1 fun h => ?_⟩
  rw [h] at hmessage
  exact absurd hmessage (by decide)

end EsqlAudit.Analysis
