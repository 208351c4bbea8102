import Mathlib.Algebra.Group.Nat.Defs
import Mathlib.Tactic.Choose
import EsqlAudit.Proofs.Analysis.Faults

/-!
# Switches of an analysis

Each part of an analysis that can be left out fills fields of the metrics that no other part touches. The metrics of one
program, made with any two choices of parts, differ only in the fields of a part that one of them leaves out, provided
that the tree can be read.
-/

namespace EsqlAudit.Analysis
open Complexity Syntax

/-- The measures of a function that are always made. -/
def bare (m : FunctionMetrics) : FunctionMetrics := { m with halstead := none }

/-- Metrics of one program, made with two choices of parts, agree on what is always made and on what belongs to the
parts on which the choices agree. -/
structure Agree (o₁ o₂ : Options) (m₁ m₂ : FileMetrics) : Prop where
  filepath : m₁.filepath = m₂.filepath
  totalLines : m₁.totalLines = m₂.totalLines
  nonEmptyLines : m₁.nonEmptyLines = m₂.nonEmptyLines
  sqlStatistics : m₁.sqlStatistics = m₂.sqlStatistics
  parseErrors : m₁.parseErrors = m₂.parseErrors
  errorMessage : m₁.errorMessage = m₂.errorMessage
  functions : m₁.functions.map bare = m₂.functions.map bare
  halstead : o₁.halstead = o₂.halstead → m₁.functions = m₂.functions
  todos : o₁.todos = o₂.todos → m₁.todos = m₂.todos ∧ m₁.moduleInfo = m₂.moduleInfo
  cursors : o₁.cursors = o₂.cursors → m₁.cursors = m₂.cursors
  memory : o₁.memory = o₂.memory → m₁.memory = m₂.memory

/-- Metrics without a fault that hold the chosen parts and no others. -/
structure Obeys (o : Options) (m : FileMetrics) : Prop where
  errorMessage : m.errorMessage = ""
  halstead : ∀ g ∈ m.functions, g.halstead.isSome = o.halstead
  todos : o.todos = false → m.todos = []
  moduleInfo : m.moduleInfo.isSome = o.todos
  cursors : m.cursors.isSome = o.cursors
  memory : m.memory.isSome = o.memory

theorem isSome_whenOn {α : Type} (wanted : Bool) (a : α) : (whenOn wanted a).isSome = wanted := by
  cases wanted <;> rfl

variable {p : Program} {blocks : List Sql.Block}

/-- The figures of a readable function, whatever parts are chosen. -/
theorem figuresOf_whenOn {f : Function} (hread : ∀ n ∈ f.node, p.Reads n) :
    ∃ (c g : Int) (r : Record), ∀ options,
      (options.halstead = true → ∀ v, vocabulary p f = .ok v → v.size < 2 ^ 1000) →
        figuresOf options p f = .ok ⟨c, g, whenOn options.halstead r⟩ := by
  obtain ⟨c, hc⟩ := cyclomatic_ok hread
  obtain ⟨g, hg⟩ := cognitive_ok hread
  obtain ⟨v, hv, hnumbers⟩ := vocabulary_ok hread
  obtain ⟨r, hr⟩ : ∃ r, v.size < 2 ^ 1000 → v.counts.toRecord = .ok r := by
    by_cases hsize : v.size < 2 ^ 1000
    · obtain ⟨r, hr⟩ := hnumbers hsize
      exact ⟨r, fun _ => hr⟩
    · exact ⟨[], fun h => absurd h hsize⟩
  refine ⟨c, g, r, fun options hsize => ?_⟩
  rw [figuresOf_eq, workOut, hc, hg, workOutHalstead, hv]
  cases hon : options.halstead with
  | false => rfl
  | true =>
      simp only [hr (hsize hon v hv)]
      rfl

theorem gather_map_ok {ε α β : Type} (k : α → β) (xs : List α) :
    gather (xs.map fun x => (.ok (k x) : Except ε β)) = (xs.map k, none) := by
  induction xs with
  | nil => rfl
  | cons x xs ih => rw [List.map_cons, gather, ih, List.map_cons]

/-- The functions of a readable program are all measured, and only Halstead's figures depend on the parts chosen. -/
theorem measureProgram_whenOn (blocks : List Sql.Block) (hread : ∀ n ∈ p.nodes, ∃ text, p.nodeText n = .ok text) :
    ∃ (fs : List Function) (c g : Function → Int) (r : Function → Record), ∀ options,
      (options.halstead = true → p.nodes.length < 2 ^ 998) → measureProgram options blocks p =
        (fs.map fun f => describe blocks f ⟨c f, g f, whenOn options.halstead (r f)⟩, none) := by
  obtain ⟨fs, hall, hnodes⟩ := Function.all_nodes hread
  have hfigures : ∀ f, f ∈ fs → ∃ (c g : Int) (r : Record), ∀ options,
      (options.halstead = true → p.nodes.length < 2 ^ 998) →
        figuresOf options p (namesake fs f) = .ok ⟨c, g, whenOn options.halstead r⟩ := by
    intro f hf
    have hmem := hnodes _ (namesake_mem hf)
    have hreads : ∀ n ∈ (namesake fs f).node, p.Reads n := fun n hn => Program.reads_of_mem_nodes hread (hmem n hn)
    obtain ⟨c, g, r, hfigures⟩ := figuresOf_whenOn hreads
    refine ⟨c, g, r, fun options hsize => hfigures options fun hon v hv => ?_⟩
    have hwords := size_vocabulary hreads hmem hv
    have hnodes := hsize hon
    omega
  -- The figures are chosen before the options, so that they serve any two choices of parts.
  choose! c g r hfigures using hfigures
  refine ⟨fs, c, g, r, fun options hsize => ?_⟩
  have hmeasured : fs.map (measured options blocks p fs) =
      fs.map fun f => .ok (describe blocks f ⟨c f, g f, whenOn options.halstead (r f)⟩) := by
    apply List.map_congr_left
    intro f hf
    rw [measured, hfigures f hf options hsize]
    rfl
  rw [measureProgram_eq hall, hmeasured, gather_map_ok]

section
variable {options o₁ o₂ : Options} {i j : Comment.Inventory} {source : List Char} {filepath : String}
    {fs : List Function}
  {c g : Function → Int} {r : Function → Record}

theorem obeys_examine (h : measureProgram options blocks p =
      (fs.map fun f => describe blocks f ⟨c f, g f, whenOn options.halstead (r f)⟩, none)) :
    Obeys options (examine options i source filepath blocks p).1 := by
  rw [examine_done h]
  refine ⟨rfl, fun m hm => ?_, fun htodos => ?_, isSome_whenOn _ _, isSome_whenOn _ _, isSome_whenOn _ _⟩
  · obtain ⟨f, -, rfl⟩ := List.mem_map.mp hm
    exact isSome_whenOn _ _
  · exact if_neg (by rw [htodos]; exact Bool.false_ne_true)

theorem agree_examine
    (h₁ : measureProgram o₁ blocks p =
      (fs.map fun f => describe blocks f ⟨c f, g f, whenOn o₁.halstead (r f)⟩, none))
    (h₂ : measureProgram o₂ blocks p =
      (fs.map fun f => describe blocks f ⟨c f, g f, whenOn o₂.halstead (r f)⟩, none)) :
    Agree o₁ o₂ (examine o₁ i source filepath blocks p).1 (examine o₂ j source filepath blocks p).1 := by
  rw [examine_done h₁, examine_done h₂]
  refine ⟨rfl, rfl, rfl, rfl, rfl, rfl, ?_, fun hsame => ?_, fun hsame => ?_, fun hsame => ?_, fun hsame => ?_⟩
  · simp only [List.map_map]
    rfl
  · simp only [hsame]
  · simp only [hsame, and_self]
  · simp only [hsame]
  · simp only [hsame]

end

/-- Two analyzers, whatever parts they make and whatever they have seen before, give metrics of a readable program
that agree but for the parts of which they make different choices, and neither fails. Where Halstead's measures
are made, no count of words may be too large for a double: the tree has fewer than `2 ^ 998` nodes, as has any
that fits into a memory. -/
theorem source_agree (a b : Analyzer) (parse : List Char → Option Node) (source : List Char) (filepath : String)
    (hread : ∀ n ∈ (programOf parse source).nodes, ∃ text, (programOf parse source).nodeText n = .ok text)
    (hsize : a.options.halstead = true ∨ b.options.halstead = true → (programOf parse source).nodes.length < 2 ^ 998) :
    Agree a.options b.options (a.source parse source filepath).1 (b.source parse source filepath).1 ∧
      Obeys a.options (a.source parse source filepath).1 ∧ Obeys b.options (b.source parse source filepath).1 := by
  obtain ⟨fs, c, g, r, hmeasured⟩ := measureProgram_whenOn (Sql.prepare source).blocks hread
  have hmeasuredA := hmeasured a.options fun hon => hsize (.inl hon)
  have hmeasuredB := hmeasured b.options fun hon => hsize (.inr hon)
  rw [(source_follows a parse source filepath).value, (source_follows b parse source filepath).value]
  exact ⟨agree_examine hmeasuredA hmeasuredB, obeys_examine hmeasuredA, obeys_examine hmeasuredB⟩

theorem source_agree_two_definitions :
    let source := "int f(){}int f(){if(1);}".toList
    let parse := fun _ => some twoDefinitions
    let a := Analyzer.new ⟨true, false, true, false⟩
    let b := Analyzer.new ⟨false, true, true, false⟩
    Agree a.options b.options (a.source parse source "f.pc").1 (b.source parse source "f.pc").1 ∧
      Obeys a.options (a.source parse source "f.pc").1 ∧ Obeys b.options (b.source parse source "f.pc").1 := by
  intro source parse a b
  have hok : ∀ n ∈ (programOf parse source).nodes,
      ((programOf parse source).nodeText n).isOk = true := by decide +kernel
  have hlen : (programOf parse source).nodes.length < 2 ^ 998 := by decide +kernel
  clear_value source parse a b
  exact source_agree a b parse source "f.pc" (Program.readable_of_isOk hok) fun _ => hlen

end EsqlAudit.Analysis
