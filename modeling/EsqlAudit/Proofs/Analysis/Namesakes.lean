import EsqlAudit.Analysis.Source
import EsqlAudit.Proofs.Complexity.Vocabulary

/-!
# Functions of the same name

The measures of a file are remembered by name, so each function is reported with the figures of the first
function of its name. Every function is reported with its own figures if and only if no two functions of one
name differ in them.
-/

namespace EsqlAudit.Complexity
open Syntax

/-! ## What a memo holds -/

/-- The first of the functions that has the name of `f`, or else `f` itself. -/
def namesake (fs : List Function) (f : Function) : Function :=
  (fs.find? (·.name == f.name)).getD f

theorem namesake_append (seen rest : List Function) (f : Function) :
    namesake (seen ++ f :: rest) f = namesake seen f := by
  cases h : seen.find? (·.name == f.name) with
  | none => simp [namesake, h]
  | some g => simp [namesake, h]

/-- The memo holds, for each name, the measure of the first function seen of that name, and no more. -/
def Memo.Holds {α : Type} (memo : Memo α) (measure : Function → Measured α) (seen : List Function) : Prop :=
  ∀ name, (memo.entries.lookup name).map Except.ok = (seen.find? (·.name == name)).map measure

theorem Memo.holds_empty {α : Type} (measure : Function → Measured α) : Memo.empty.Holds measure [] :=
  fun _ => rfl

/-- Consulting a memo gives the measure of the first function of the name. -/
theorem Memo.Holds.consult {α : Type} {memo : Memo α} {measure : Function → Measured α}
    {seen : List Function} (h : memo.Holds measure seen) (f : Function) :
    ∃ memo', memo.consult f.name (measure f) = (measure (namesake seen f), memo') ∧
      ((∃ a, measure (namesake seen f) = .ok a) → memo'.Holds measure (seen ++ [f])) := by
  have hname := h f.name
  cases hlook : memo.entries.lookup f.name with
  | some a =>
      rw [hlook] at hname
      obtain ⟨g, hg, ha⟩ := Option.map_eq_some_iff.mp hname.symm
      refine ⟨memo, by simp only [Memo.consult, hlook, namesake, hg, Option.getD_some, ha], fun _ name => ?_⟩
      rw [h name, List.find?_append]
      cases hs : seen.find? (·.name == name) with
      | some g' => simp
      | none =>
          have hne : f.name ≠ name := by
            rintro rfl
            rw [hg] at hs
            cases hs
          simp [hne]
  | none =>
      rw [hlook] at hname
      have hg : seen.find? (·.name == f.name) = none := by simpa using hname.symm
      have hself : namesake seen f = f := by rw [namesake, hg]; rfl
      rw [hself]
      cases hm : measure f with
      | error e => exact ⟨memo, by simp only [Memo.consult, hlook], fun ⟨a, ha⟩ => by cases ha⟩
      | ok a =>
          refine ⟨⟨memo.entries ++ [(f.name, a)]⟩, by simp only [Memo.consult, hlook], fun _ name => ?_⟩
          by_cases hne : f.name = name
          · subst hne
            simp [List.lookup_append, hlook, List.find?_append, hg, hm]
          · rw [List.lookup_append, List.find?_append, Option.map_or, Option.map_or, h name]
            have hother : [(f.name, a)].lookup name = none := by
              rw [List.lookup_cons, beq_false_of_ne (Ne.symm hne)]
              rfl
            simp [hne, hother]

/-! ## What a session remembers -/

/-- The session measures the program, and its memos hold the measures of the functions seen. The vocabulary
is collected only if it is wanted. -/
structure Session.Remembers (s : Session) (p : Program) (wanted : Bool) (seen : List Function) : Prop where
  program : s.program = p
  cyclomatic : s.cyclomatic.Holds (Complexity.cyclomatic p) seen
  cognitive : s.cognitive.Holds (Complexity.cognitive p) seen
  vocabulary : wanted = true → s.vocabulary.Holds (Complexity.vocabulary p) seen

theorem Session.remembers_start (p : Program) (wanted : Bool) : (Session.start p).Remembers p wanted [] :=
  ⟨rfl, Memo.holds_empty _, Memo.holds_empty _, fun _ => Memo.holds_empty _⟩

end EsqlAudit.Complexity

namespace EsqlAudit.Analysis
open Complexity Syntax

/-! ## Measuring one function -/

/-- The figures of a function that are remembered. -/
structure Figures where
  cyclomatic : Int
  cognitive : Int
  halstead : Option Record

/-- The remembered figures in the measures of a function. -/
def figures (m : FunctionMetrics) : Figures :=
  ⟨m.cyclomatic, m.cognitive, m.halstead⟩

/-- The measures of a function that has the given figures. -/
def describe (blocks : List Sql.Block) (f : Function) (r : Figures) : FunctionMetrics :=
  { name := f.name, startLine := f.startLine, endLine := f.endLine, lineCount := f.lineCount,
    cyclomatic := r.cyclomatic, cognitive := r.cognitive, sqlBlocks := blocksIn blocks f,
    parameters := f.parameters.length, returnType := f.returnType, halstead := r.halstead }

/-- The Halstead figures of a function without any memo. -/
def workOutHalstead (wanted : Bool) (p : Program) (f : Function) : Except Fault (Option Record) :=
  if wanted then
    match vocabulary p f with
    | .error e => .error (.undecodable e)
    | .ok v => (v.counts.toRecord.mapError .number).map some
  else .ok none

/-- The figures of a function without any memo. -/
def workOut (options : Options) (p : Program) (f : Function) : Except Fault Figures :=
  match cyclomatic p f, cognitive p f with
  | .error e, _ => .error (.undecodable e)
  | .ok _, .error e => .error (.undecodable e)
  | .ok a, .ok b => (workOutHalstead options.halstead p f).map fun r => ⟨a, b, r⟩

variable {options : Options} {blocks : List Sql.Block} {p : Program} {s : Session} {seen : List Function}

theorem halsteadIf_step {wanted : Bool} (f : Function) (hp : s.program = p)
    (hv : wanted = true → s.vocabulary.Holds (vocabulary p) seen) :
    (∃ e, workOutHalstead wanted p (namesake seen f) = .error e ∧ halsteadIf wanted s f = .error e) ∨
      ∃ r memo, workOutHalstead wanted p (namesake seen f) = .ok r ∧
        halsteadIf wanted s f = .ok (r, { s with vocabulary := memo }) ∧
        (wanted = true → memo.Holds (vocabulary p) (seen ++ [f])) := by
  cases wanted with
  | false => exact Or.inr ⟨none, s.vocabulary, rfl, rfl, fun h => by cases h⟩
  | true =>
      subst hp
      obtain ⟨memo, hconsult, hholds⟩ := (hv rfl).consult f
      simp only [workOutHalstead, halsteadIf, measureHalstead, Session.measureVocabulary, hconsult, if_true]
      cases hm : vocabulary s.program (namesake seen f) with
      | error e => exact Or.inl ⟨_, rfl, rfl⟩
      | ok v =>
          cases hr : v.counts.toRecord with
          | error e =>
              refine Or.inl ⟨.number e, ?_, ?_⟩
              · simp only [hr]
                rfl
              · simp only [attempt, bind, Except.bind, hr]
                rfl
          | ok r =>
              refine Or.inr ⟨some r, memo, ?_, ?_, fun _ => hholds ⟨v, hm⟩⟩
              · simp only [hr]
                rfl
              · simp only [attempt, bind, Except.bind, hr]
                rfl

/-- Measuring a function in a session that remembers others gives the figures of the first function of its
name, and the session then remembers this one too. -/
theorem measureFunction_step (blocks : List Sql.Block) (hs : s.Remembers p options.halstead seen)
    (f : Function) :
    (∃ e, workOut options p (namesake seen f) = .error e ∧ measureFunction options blocks s f = .error e) ∨
      ∃ r s', workOut options p (namesake seen f) = .ok r ∧
        measureFunction options blocks s f = .ok (describe blocks f r, s') ∧
        s'.Remembers p options.halstead (seen ++ [f]) := by
  obtain ⟨rfl, hcyc, hcog, hvoc⟩ := hs
  obtain ⟨cycMemo, hcycConsult, hcycHolds⟩ := hcyc.consult f
  obtain ⟨cogMemo, hcogConsult, hcogHolds⟩ := hcog.consult f
  simp only [workOut, measureFunction, Session.measureCyclomatic, Session.measureCognitive, hcycConsult,
    bind, Except.bind]
  cases hcycValue : cyclomatic s.program (namesake seen f) with
  | error e => exact Or.inl ⟨_, rfl, rfl⟩
  | ok a =>
      simp only [attempt, hcogConsult]
      cases hcogValue : cognitive s.program (namesake seen f) with
      | error e => exact Or.inl ⟨_, rfl, rfl⟩
      | ok b =>
          dsimp only
          rcases halsteadIf_step (s := { s with cyclomatic := cycMemo, cognitive := cogMemo }) f rfl hvoc with
            ⟨e, hwork, hstep⟩ | ⟨r, memo, hwork, hstep, hholds⟩
          · exact Or.inl ⟨e, by rw [hwork]; rfl, by rw [hstep]⟩
          · refine Or.inr ⟨⟨a, b, r⟩, _, by rw [hwork]; rfl, by rw [hstep]; rfl, ?_⟩
            exact ⟨rfl, hcycHolds ⟨a, hcycValue⟩, hcogHolds ⟨b, hcogValue⟩, hholds⟩

/-- The figures of a function, measured in a session of its own. -/
def figuresOf (options : Options) (p : Program) (f : Function) : Except Fault Figures :=
  (measureFunction options [] (.start p) f).map fun r => figures r.1

theorem figuresOf_eq (f : Function) : figuresOf options p f = workOut options p f := by
  have hstart := Session.remembers_start p options.halstead
  rcases measureFunction_step [] hstart f with ⟨e, hwork, hstep⟩ | ⟨r, s, hwork, hstep, _⟩
  · rw [figuresOf, hstep]
    exact hwork.symm
  · rw [figuresOf, hstep]
    exact hwork.symm

theorem figuresOf_ok (options : Options) {f : Function} (hread : ∀ n ∈ f.node, p.Reads n)
    (hsize : ∀ v, vocabulary p f = .ok v → v.size < 2 ^ 1000) : ∃ r, figuresOf options p f = .ok r := by
  obtain ⟨a, ha⟩ := cyclomatic_ok hread
  obtain ⟨b, hb⟩ := cognitive_ok hread
  have hhalstead : ∃ r, workOutHalstead options.halstead p f = .ok r := by
    rw [workOutHalstead]
    split
    · obtain ⟨v, hv, hnumbers⟩ := vocabulary_ok hread
      obtain ⟨record, hrecord⟩ := hnumbers (hsize v hv)
      exact ⟨some record, by rw [hv]; simp only [hrecord]; rfl⟩
    · exact ⟨none, rfl⟩
  obtain ⟨r, hr⟩ := hhalstead
  exact ⟨⟨a, b, r⟩, by rw [figuresOf_eq, workOut, ha, hb]; simp only [hr]; rfl⟩

/-! ## Measuring all functions -/

/-- The values up to the first fault. -/
def gather {ε α : Type} : List (Except ε α) → List α × Option ε
  | [] => ([], none)
  | .error e :: _ => ([], some e)
  | .ok a :: rest => (a :: (gather rest).1, (gather rest).2)

theorem getElem?_gather {ε α : Type} {xs : List (Except ε α)} {i : Nat} {a : α}
    (h : (gather xs).1[i]? = some a) : xs[i]? = some (.ok a) := by
  fun_induction gather xs generalizing i with
  | case1 => simp at h
  | case2 => simp at h
  | case3 b rest ih =>
      cases i with
      | zero => simpa using h
      | succ i => exact ih h

theorem gather_stops {ε α : Type} (xs : List (Except ε α)) :
    (gather xs).1.length = xs.length ∨ ∃ e, .error e ∈ xs := by
  fun_induction gather xs with
  | case1 => exact Or.inl rfl
  | case2 e rest => exact Or.inr ⟨e, List.mem_cons_self⟩
  | case3 a rest ih =>
      rcases ih with hlen | ⟨e, he⟩
      · exact Or.inl (by simp [hlen])
      · exact Or.inr ⟨e, List.mem_cons_of_mem _ he⟩

/-- Each function of a file is given the figures of the first function of its name. -/
theorem measureFunctions_eq (hs : s.Remembers p options.halstead seen) (rest : List Function) :
    measureFunctions options blocks s rest =
      gather (rest.map fun f => (figuresOf options p (namesake (seen ++ rest) f)).map (describe blocks f)) := by
  induction rest generalizing s seen with
  | nil => rfl
  | cons f rest ih =>
      have hseen : seen ++ f :: rest = seen ++ [f] ++ rest := by simp
      rw [List.map_cons, namesake_append, figuresOf_eq, hseen]
      rcases measureFunction_step blocks hs f with
        ⟨e, hwork, hstep⟩ | ⟨r, s', hwork, hstep, hs'⟩
      · rw [measureFunctions, hstep, hwork]
        rfl
      · rw [measureFunctions, hstep, hwork]
        dsimp only
        rw [ih hs']
        rfl

theorem namesake_mem {fs : List Function} {f : Function} (hf : f ∈ fs) : namesake fs f ∈ fs := by
  cases h : fs.find? (·.name == f.name) with
  | none => simpa [namesake, h] using hf
  | some g => simpa [namesake, h] using List.mem_of_find?_eq_some h

/-- The measures that are reported of some functions. -/
def reported (options : Options) (blocks : List Sql.Block) (p : Program) (fs : List Function) :
    List FunctionMetrics :=
  (measureFunctions options blocks (.start p) fs).1

variable {fs : List Function}

theorem reported_eq : reported options blocks p fs =
    (gather (fs.map fun f => (figuresOf options p (namesake fs f)).map (describe blocks f))).1 := by
  rw [reported, measureFunctions_eq (Session.remembers_start p options.halstead), List.nil_append]

theorem getElem?_reported {i : Nat} {m : FunctionMetrics} (h : (reported options blocks p fs)[i]? = some m) :
    ∃ f r, fs[i]? = some f ∧ figuresOf options p (namesake fs f) = .ok r ∧ m = describe blocks f r := by
  rw [reported_eq] at h
  have hi := getElem?_gather h
  rw [List.getElem?_map] at hi
  obtain ⟨f, hf, hm⟩ := Option.map_eq_some_iff.mp hi
  cases hr : figuresOf options p (namesake fs f) with
  | error e =>
      rw [hr] at hm
      cases hm
  | ok r =>
      rw [hr] at hm
      cases hm
      exact ⟨f, r, hf, hr, rfl⟩

theorem length_reported (hread : ∀ f ∈ fs, ∀ n ∈ f.node, p.Reads n) :
    (reported options blocks p fs).length = fs.length ∨
      ∃ f ∈ fs, ∃ v, vocabulary p f = .ok v ∧ 2 ^ 1000 ≤ v.size := by
  rw [reported_eq]
  rcases gather_stops (fs.map fun f => (figuresOf options p (namesake fs f)).map (describe blocks f)) with
    hlen | ⟨e, he⟩
  · exact Or.inl (by simpa using hlen)
  · obtain ⟨f, hf, hfe⟩ := List.mem_map.mp he
    have hfirst := hread _ (namesake_mem hf)
    obtain ⟨v, hv, -⟩ := vocabulary_ok hfirst
    refine Or.inr ⟨namesake fs f, namesake_mem hf, v, hv, Nat.le_of_not_lt fun hlt => ?_⟩
    have hsize : ∀ v', vocabulary p (namesake fs f) = .ok v' → v'.size < 2 ^ 1000 := by
      intro v' hv'
      cases hv.symm.trans hv'
      exact hlt
    obtain ⟨r, hr⟩ := figuresOf_ok options hfirst hsize
    rw [hr] at hfe
    cases hfe

theorem reported_own_iff :
    (∀ (i : Nat) f m, fs[i]? = some f → (reported options blocks p fs)[i]? = some m →
        figuresOf options p f = .ok (figures m)) ↔
      ∀ (i : Nat) f, i < (reported options blocks p fs).length → fs[i]? = some f →
        figuresOf options p f = figuresOf options p (namesake fs f) := by
  constructor
  · intro hown i f hi hf
    obtain ⟨g, r, hg, hr, hm⟩ := getElem?_reported (List.getElem?_eq_getElem hi)
    cases hf.symm.trans hg
    rw [hown i f _ hf (List.getElem?_eq_getElem hi), hr, hm]
    rfl
  · intro hsame i f m hf hm
    obtain ⟨g, r, hg, hr, rfl⟩ := getElem?_reported hm
    cases hf.symm.trans hg
    rw [hsame i f (List.getElem?_eq_some_iff.mp hm).1 hf, hr]
    rfl

/-! ## Analyzing a file -/

/-- The program whose functions are reported. -/
def programOf (parse : List Char → Option Node) (source : List Char) : Program :=
  .load (Sql.prepare source).text (parse (Sql.prepare source).text)

variable {parse : List Char → Option Node} {source : List Char}

theorem functions_analyze (options : Options) (inventory : Comment.Inventory) (filepath : String)
    (hall : Function.all (programOf parse source) = .ok fs) :
    (analyze options parse inventory source filepath).1.functions =
      reported options (Sql.prepare source).blocks (programOf parse source) fs := by
  have hprogram : (analyze options parse inventory source filepath).1.functions =
      (measureProgram options (Sql.prepare source).blocks (programOf parse source)).1 := by
    rw [analyze, examine]
    dsimp only [programOf]
    split
    · rfl
    · rfl
  rw [hprogram, measureProgram, hall, reported]

/-- In a file whose tree can be read, each function is reported with the figures of the first function of its
name. So all have their own figures if and only if each has those of the first of its name. Every function
is reported, unless one has too many words for Halstead's measures. -/
theorem own_figures_iff (options : Options) (inventory : Comment.Inventory) (filepath : String)
    (hread : ∀ n ∈ (programOf parse source).nodes, ∃ text, (programOf parse source).nodeText n = .ok text) :
    ∃ fs, Function.all (programOf parse source) = .ok fs ∧
      (∀ (i : Nat) m, (analyze options parse inventory source filepath).1.functions[i]? = some m →
        ∃ f r, fs[i]? = some f ∧ figuresOf options (programOf parse source) (namesake fs f) = .ok r ∧
          m = describe (Sql.prepare source).blocks f r) ∧
      ((analyze options parse inventory source filepath).1.functions.length = fs.length ∨
        ∃ f ∈ fs, ∃ v, vocabulary (programOf parse source) f = .ok v ∧ 2 ^ 1000 ≤ v.size) ∧
      ((∀ (i : Nat) f m, fs[i]? = some f →
          (analyze options parse inventory source filepath).1.functions[i]? = some m →
          figuresOf options (programOf parse source) f = .ok (figures m)) ↔
        ∀ (i : Nat) f, i < (analyze options parse inventory source filepath).1.functions.length →
          fs[i]? = some f → figuresOf options (programOf parse source) f =
            figuresOf options (programOf parse source) (namesake fs f)) := by
  obtain ⟨fs, hall, hnodes⟩ := Function.all_ok hread
  rw [functions_analyze options inventory filepath hall]
  exact ⟨fs, hall, fun i m => getElem?_reported, length_reported hnodes, reported_own_iff⟩

/-- A tree of the text `int f(){}int f(){if(1);}`. -/
def twoDefinitions : Node :=
  .mk .unit 0 24 [
    .mk .functionDefinition 0 9 [
      .mk .functionDeclarator 4 7 [.mk .identifier 4 5 [] true false] true false,
      .mk .compoundStatement 7 9 [] true false] true false,
    .mk .functionDefinition 9 24 [
      .mk .functionDeclarator 13 16 [.mk .identifier 13 14 [] true false] true false,
      .mk .compoundStatement 16 24 [.mk .ifStatement 17 23 [] true false] true false] true false] true false

theorem own_figures_iff_two_definitions :
    let source := "int f(){}int f(){if(1);}".toList
    let parse := fun _ => some twoDefinitions
    let options : Options := ⟨false, false, false, false⟩
    (∀ n ∈ (programOf parse source).nodes, ∃ text, (programOf parse source).nodeText n = .ok text) ∧
      ∃ fs, Function.all (programOf parse source) = .ok fs ∧ ¬ ∀ (i : Nat) f m, fs[i]? = some f →
        (analyze options parse .empty source "f.pc").1.functions[i]? = some m →
        figuresOf options (programOf parse source) f = .ok (figures m) := by
  intro source parse options
  have hok : ∀ n ∈ (programOf parse source).nodes,
      ((programOf parse source).nodeText n).isOk = true := by decide +kernel
  have hlen : 1 < (analyze options parse .empty source "f.pc").1.functions.length := by decide +kernel
  have hown : (Function.all (programOf parse source)).toOption.map (·.map fun f =>
      (figuresOf options (programOf parse source) f).toOption.map Figures.cyclomatic) =
      some [some 1, some 2] := by decide +kernel
  have hfirst : (Function.all (programOf parse source)).toOption.map (fun fs => fs.map fun f =>
      (figuresOf options (programOf parse source) (namesake fs f)).toOption.map Figures.cyclomatic) =
      some [some 1, some 1] := by decide +kernel
  clear_value source parse options
  have hread : ∀ n ∈ (programOf parse source).nodes,
      ∃ text, (programOf parse source).nodeText n = .ok text := by
    intro n hn
    cases htext : (programOf parse source).nodeText n with
    | error e =>
        have hn := hok n hn
        rw [htext] at hn
        cases hn
    | ok text => exact ⟨text, rfl⟩
  obtain ⟨fs, hall, -, -, hiff⟩ := own_figures_iff options .empty "f.pc" hread
  refine ⟨hread, fs, hall, fun hsame => ?_⟩
  rw [hall] at hown hfirst
  simp only [Except.toOption, Option.map_some, Option.some.injEq] at hown hfirst
  obtain ⟨f, _, rfl, _, hrest⟩ := List.map_eq_cons_iff.mp hown
  obtain ⟨g, _, rfl, hg, _⟩ := List.map_eq_cons_iff.mp hrest
  have hsecond := hiff.mp hsame 1 g hlen rfl
  simp only [List.map_cons, List.cons.injEq] at hfirst
  rw [← hsecond, hg] at hfirst
  simp at hfirst

/-- The second function of a name is reported with the complexity of the first. -/
theorem second_definition_misreported :
    let source := "int f(){}int f(){if(1);}".toList
    let parse := fun _ => some twoDefinitions
    (analyze .all parse .empty source "f.pc").1.functions.map (·.cyclomatic) = [1, 1] ∧
      (Function.all (programOf parse source)).toOption.map
        (·.map fun f => (cyclomatic (programOf parse source) f).toOption) = some [some 1, some 2] := by
  decide +kernel

end EsqlAudit.Analysis
