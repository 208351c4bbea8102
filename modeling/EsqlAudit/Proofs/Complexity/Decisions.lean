import EsqlAudit.Proofs.Complexity.Cyclomatic
import EsqlAudit.Proofs.Complexity.Readable

/-!
# Decisions by kind

The decisions of a function are listed by kind to explain its cyclomatic complexity. Each figure is the number of
nodes of its kind in the definition, and together with the catch clauses, which have no figure of their own, they
make up the complexity.
-/

namespace EsqlAudit.Complexity
open Syntax

variable {p : Program} {n : Node}

/-! ## The operator of an expression -/

/-- The logical operator that the text under a node is. -/
def logical? (p : Program) (n : Node) : Option Logical :=
  (p.nodeText n).toOption.bind Logical.ofText?

/-- Whether a child of an expression decides on its operator: it is an operator mark, or it is no expression
itself and reads like an operator. -/
def settles (p : Program) (c : Node) : Bool :=
  isOperatorMark c.kind || (!(c.isNamed && c.kind == .binaryExpression) && (logical? p c).isSome)

/-- The logical operator of an expression: that of the first child that decides on it. -/
def connective? (p : Program) (n : Node) : Option Logical :=
  if n.kind == .binaryExpression then (n.children.find? (settles p)).bind (logical? p) else none

theorem logical?_eq {text : String} (h : p.nodeText n = .ok text) : logical? p n = Logical.ofText? text := by
  rw [logical?, h]
  rfl

theorem operatorAmong_eq {cs : List Node} {op : Option Logical} (h : operatorAmong p cs = .ok op) :
    op = (cs.find? (settles p)).bind (logical? p) := by
  induction cs with
  | nil =>
      cases h
      rfl
  | cons c rest ih =>
      rw [operatorAmong] at h
      cases hmark : isOperatorMark c.kind with
      | true =>
          rw [hmark, if_pos rfl] at h
          obtain ⟨text, htext, rfl⟩ := of_map_ok h
          rw [List.find?_cons_of_pos (by simp [settles, hmark]), Option.bind_some, logical?_eq htext]
      | false =>
          rw [hmark, if_neg Bool.false_ne_true] at h
          cases hnested : c.isNamed && c.kind == .binaryExpression with
          | true =>
              rw [hnested, if_pos rfl] at h
              rw [List.find?_cons_of_neg (by simp [settles, hmark, hnested]), ih h]
          | false =>
              rw [hnested, if_neg Bool.false_ne_true] at h
              cases htext : p.nodeText c with
              | error e =>
                  rw [htext] at h
                  cases h
              | ok text =>
                  rw [htext] at h
                  have hlogical := logical?_eq htext
                  cases hop : Logical.ofText? text with
                  | none =>
                      simp only [hop] at h
                      rw [List.find?_cons_of_neg (by simp [settles, hmark, hlogical, hop]), ih h]
                  | some o =>
                      simp only [hop] at h
                      cases h
                      rw [List.find?_cons_of_pos (by simp [settles, hmark, hnested, hlogical, hop]), Option.bind_some,
                        hlogical, hop]

theorem logicalOperator_eq {op : Option Logical} (h : logicalOperator p n = .ok op) : op = connective? p n := by
  rw [logicalOperator] at h
  rw [connective?]
  split at h
  · rw [if_pos ‹_›, operatorAmong_eq h]
  · cases h
    rw [if_neg ‹_›]

/-! ## Counting -/

/-- How many of the nodes are of each kind of decision. -/
def census (p : Program) (nodes : List Node) : Decisions where
  ifs := nodes.countP (·.kind == .ifStatement)
  loops := nodes.countP fun n => [.whileStatement, .forStatement, .doStatement].contains n.kind
  cases := nodes.countP (·.kind == .caseStatement)
  ternaries := nodes.countP (·.kind == .conditionalExpression)
  ands := nodes.countP (connective? p · == some .and)
  ors := nodes.countP (connective? p · == some .or)

theorem census_cons (p : Program) (n : Node) (rest : List Node) :
    census p (n :: rest) = Decisions.none.add n.kind (connective? p n) + census p rest := by
  by_cases hbinary : n.kind = .binaryExpression
  · simp only [census, List.countP_cons, hbinary, Decisions.add_def]
    rcases connective? p n with _ | _ | _ <;> simp [Decisions.add, Decisions.none, Nat.add_comm]
  · have hnone : connective? p n = none := by simp [connective?, hbinary]
    simp only [census, List.countP_cons, hnone, Decisions.add_def]
    cases n.kind <;> simp [Decisions.add, Decisions.none, Nat.add_comm]

theorem decisionsIn_eq {nodes : List Node} {d : Decisions} (h : decisionsIn p nodes = .ok d) : d = census p nodes := by
  induction nodes generalizing d with
  | nil =>
      cases h
      rfl
  | cons n rest ih =>
      obtain ⟨op, e, hop, hrest, rfl⟩ := decisionsIn_cons_ok h
      rw [census_cons, logicalOperator_eq hop, ih hrest]

/-! ## Explaining a function -/

theorem decisions_ok {f : Function} (h : ∀ n ∈ f.node, p.Reads n) : ∃ d, decisions p f = .ok d := by
  rw [decisions]
  split
  · exact ⟨_, rfl⟩
  · rename_i n hn
    refine foldlM_ok _ fun m hm d => map_ok _ (logicalOperator_ok ?_)
    exact (h n hn).below hm

/-- The decisions of a function whose definition can be read can be told. Whenever they are told, each figure is
the number of nodes of its kind in the definition, and the complexity is one more than all figures and the catch
clauses together. -/
theorem explainCyclomatic_counts (p : Program) {f : Function} (hnode : f.node = some n) :
    (p.Reads n → ∃ r, ((Session.start p).explainCyclomatic f).1 = .ok r) ∧
      ∀ d total, ((Session.start p).explainCyclomatic f).1 = .ok (d, total) → d = census p n.walk ∧
        total = 1 + d.ifs + d.loops + d.cases + d.ternaries + d.ands + d.ors +
          n.walk.countP (·.kind == .catchClause) := by
  rw [explainCyclomatic_eq]
  constructor
  · intro hread
    have hreads : ∀ m ∈ f.node, p.Reads m := by
      intro m hm
      rw [hnode] at hm
      exact Option.some.inj hm ▸ hread
    obtain ⟨d, hd⟩ := decisions_ok hreads
    obtain ⟨total, htotal⟩ := cyclomatic_ok hreads
    exact ⟨(d, total), by rw [hd, htotal]; rfl⟩
  · intro d total h
    obtain ⟨d, hd, h⟩ := of_bind_ok h
    obtain ⟨total, htotal, h⟩ := of_map_ok h
    cases h
    rw [decisions_eq hnode] at hd
    rw [cyclomatic_eq hnode, cyclomaticOf_eq hd] at htotal
    cases htotal
    refine ⟨decisionsIn_eq hd, ?_⟩
    simp only [Decisions.total]
    omega

/-- The definition `void f(){try{if(a&&b||c);}catch(e){}}`, as a grammar with catch clauses has it. -/
def guardedTest : Node :=
  .mk .functionDefinition 0 37 [
    .mk .primitiveType 0 4 [] true false,
    .mk .functionDeclarator 5 8 [.mk .identifier 5 6 [] true false, .mk .parameterList 6 8 [] true false] true false,
    .mk .compoundStatement 8 37 [
      .mk (.other "try_statement") 9 36 [
        .mk (.other "try") 9 12 [] false false,
        .mk .compoundStatement 12 26 [
          .mk .ifStatement 13 25 [
            .mk (.other "if") 13 15 [] false false,
            .mk .binaryExpression 16 23 [
              .mk .binaryExpression 16 20 [
                .mk .identifier 16 17 [] true false, .mk (.other "&&") 17 19 [] false false,
                .mk .identifier 19 20 [] true false] true false,
              .mk (.other "||") 20 22 [] false false, .mk .identifier 22 23 [] true false] true false,
            .mk .expressionStatement 24 25 [] true false] true false] true false,
        .mk .catchClause 26 36 [
          .mk (.other "catch") 26 31 [] false false, .mk .compoundStatement 34 36 [] true false] true false] true false]
      true false] true false

/-- One `if`, one operator of each kind and one catch clause. -/
theorem explainCyclomatic_counts_guarded :
    let p := Program.load "void f()\x7btry\x7bif(a&&b||c);\x7dcatch(e)\x7b\x7d\x7d".toList (some guardedTest)
    let f : Function := ⟨"f", 1, 1, some guardedTest, [], "void"⟩
    (f.node = some guardedTest ∧ p.Reads guardedTest) ∧
      ((Session.start p).explainCyclomatic f).1 = .ok (⟨1, 0, 0, 0, 1, 1⟩, 5) := by
  intro p f
  have hread : p.Reads guardedTest := Program.readable_of_isOk (p := p) (by decide +kernel)
  obtain ⟨htold, hcounts⟩ := explainCyclomatic_counts p (f := f) rfl
  obtain ⟨⟨d, total⟩, hr⟩ := htold hread
  obtain ⟨hd, htotal⟩ := hcounts d total hr
  have hfigures : census p guardedTest.walk = ⟨1, 0, 0, 0, 1, 1⟩ := by
    simp only [census, Decisions.mk.injEq]
    decide +kernel
  rw [hfigures] at hd
  subst hd
  have hcatch : (guardedTest.walk.countP fun m => m.kind == .catchClause) = 1 := by decide +kernel
  rw [hcatch] at htotal
  obtain rfl : total = 5 := htotal
  exact ⟨⟨rfl, hread⟩, hr⟩

end EsqlAudit.Complexity
