import EsqlAudit.Complexity.Session
import EsqlAudit.Proofs.Outcome

/-!
# Sums of decisions

The decisions of some nodes are the sum of those that each node makes by itself, and the cyclomatic complexity is one
more than the number of decisions and catch clauses.
-/

namespace EsqlAudit.Complexity
open Syntax

namespace Decisions

instance : Add Decisions where
  add a b := ⟨a.ifs + b.ifs, a.loops + b.loops, a.cases + b.cases, a.ternaries + b.ternaries, a.ands + b.ands,
    a.ors + b.ors⟩

theorem add_def (a b : Decisions) :
    a + b = ⟨a.ifs + b.ifs, a.loops + b.loops, a.cases + b.cases, a.ternaries + b.ternaries, a.ands + b.ands,
      a.ors + b.ors⟩ := rfl

def total (d : Decisions) : Nat :=
  d.ifs + d.loops + d.cases + d.ternaries + d.ands + d.ors

theorem total_add (a b : Decisions) : (a + b).total = a.total + b.total := by
  simp only [total, add_def]
  omega

@[simp]
theorem none_add (d : Decisions) : none + d = d := by
  simp [add_def, none]

@[simp]
theorem add_none (d : Decisions) : d + none = d := rfl

theorem add_comm (a b : Decisions) : a + b = b + a := by
  simp [add_def, Nat.add_comm]

theorem add_assoc (a b c : Decisions) : a + b + c = a + (b + c) := by
  simp [add_def, Nat.add_assoc]

/-- Counting a node adds what it is by itself. -/
theorem add_eq (d : Decisions) (k : Kind) (op : Option Logical) : d.add k op = d + none.add k op := by
  cases k <;> rcases op with _ | _ | _ <;> rfl

end Decisions

variable {p : Program} {n : Node} {op : Option Logical} {d : Decisions}

theorem foldlM_decisions (d : Decisions) (nodes : List Node) :
    nodes.foldlM (fun d n => (logicalOperator p n).map (d.add n.kind)) d = (decisionsIn p nodes).map (d + ·) := by
  induction nodes generalizing d with
  | nil => exact congrArg Except.ok d.add_none.symm
  | cons n rest ih =>
      rw [decisionsIn, List.foldlM_cons, List.foldlM_cons]
      cases logicalOperator p n with
      | error e => rfl
      | ok op =>
          refine (ih (d.add n.kind op)).trans (Eq.trans ?_ (congrArg (Except.map (d + ·)) (ih _)).symm)
          rw [d.add_eq]
          cases decisionsIn p rest with
          | error e => rfl
          | ok e => exact congrArg Except.ok (Decisions.add_assoc _ _ _)

theorem decisionsIn_cons (n : Node) (rest : List Node) :
    decisionsIn p (n :: rest) = (logicalOperator p n).bind fun op =>
      (decisionsIn p rest).map (Decisions.none.add n.kind op + ·) := by
  rw [decisionsIn, List.foldlM_cons]
  cases logicalOperator p n with
  | error e => rfl
  | ok op => exact foldlM_decisions _ rest

theorem decisionsIn_append (xs ys : List Node) :
    decisionsIn p (xs ++ ys) = (decisionsIn p xs).bind fun a => (decisionsIn p ys).map (a + ·) := by
  rw [decisionsIn, List.foldlM_append]
  change (decisionsIn p xs).bind _ = _
  cases decisionsIn p xs with
  | error e => rfl
  | ok a => exact foldlM_decisions a ys

theorem decisionsIn_cons_ok {rest : List Node} (h : decisionsIn p (n :: rest) = .ok d) :
    ∃ op e, logicalOperator p n = .ok op ∧ decisionsIn p rest = .ok e ∧ d = Decisions.none.add n.kind op + e := by
  rw [decisionsIn_cons] at h
  cases hop : logicalOperator p n with
  | error e => rw [hop] at h; cases h
  | ok op =>
      cases hrest : decisionsIn p rest with
      | error e => rw [hop, hrest] at h; cases h
      | ok e =>
          rw [hop, hrest] at h
          cases h
          exact ⟨op, e, rfl, rfl, rfl⟩

theorem logicalOperator_eq_none (h : n.kind ≠ .binaryExpression) : logicalOperator p n = .ok none := by
  simp [logicalOperator, h]

/-- A node that is no catch clause counts for as much as it is by itself. -/
theorem total_own (h : logicalOperator p n = .ok op) :
    (if isBranching n.kind then 1 else 0) + (if op.isSome then 1 else 0) =
      (Decisions.none.add n.kind op).total + if n.kind == .catchClause then 1 else 0 := by
  by_cases hbinary : n.kind = .binaryExpression
  · rw [hbinary]
    rcases op with _ | _ | _ <;> rfl
  · rw [logicalOperator_eq_none hbinary] at h
    cases h
    cases n.kind <;> rfl

theorem foldlM_decisionCount {nodes : List Node} (k : Nat) (h : decisionsIn p nodes = .ok d) :
    nodes.foldlM (fun total m => (decisionCount p m).map (total + ·)) k =
      .ok (k + d.total + nodes.countP (·.kind == .catchClause)) := by
  induction nodes generalizing k d with
  | nil => cases h; rfl
  | cons n rest ih =>
      obtain ⟨op, e, hop, hrest, rfl⟩ := decisionsIn_cons_ok h
      have hown := total_own hop
      rw [List.foldlM_cons, decisionCount, hop]
      refine (ih _ hrest).trans (congrArg Except.ok ?_)
      rw [Decisions.total_add, List.countP_cons]
      dsimp only
      omega

theorem cyclomaticOf_eq (h : decisionsIn p n.walk = .ok d) :
    cyclomaticOf p n = .ok (1 + d.total + n.walk.countP (·.kind == .catchClause)) :=
  foldlM_decisionCount 1 h

theorem le_of_foldlM_decisionCount {nodes : List Node} {k total : Nat}
    (h : nodes.foldlM (fun total m => (decisionCount p m).map (total + ·)) k = .ok total) : k ≤ total := by
  induction nodes generalizing k with
  | nil => cases h; exact Nat.le_refl _
  | cons n rest ih =>
      rw [List.foldlM_cons] at h
      obtain ⟨k', hk, hrest⟩ := of_bind_ok h
      obtain ⟨own, -, rfl⟩ := of_map_ok hk
      exact Nat.le_trans (Nat.le_add_right _ own) (ih hrest)

/-- A function has at least one way through it. -/
theorem one_le_cyclomatic {f : Function} {total : Nat} (h : cyclomatic p f = .ok total) : 1 ≤ total := by
  rw [cyclomatic] at h
  split at h
  · cases h; exact Nat.le_refl 1
  · exact le_of_foldlM_decisionCount h

theorem cyclomatic_eq {f : Function} (h : f.node = some n) : cyclomatic p f = cyclomaticOf p n := by
  rw [cyclomatic, h]

theorem decisions_eq {f : Function} (h : f.node = some n) : decisions p f = decisionsIn p n.walk := by
  rw [decisions, h]

/-! ## A new session -/

theorem measureCyclomatic_eq (p : Program) (f : Function) :
    ((Session.start p).measureCyclomatic f).1 = cyclomatic p f :=
  Memo.consult_empty f.name (cyclomatic p f)

theorem explainCyclomatic_eq (p : Program) (f : Function) : ((Session.start p).explainCyclomatic f).1 =
    decisions p f >>= fun d => (cyclomatic p f).map fun total => (d, total) := by
  rw [Session.explainCyclomatic, show (Session.start p).program = p from rfl, ← measureCyclomatic_eq p f]
  cases decisions p f <;> rfl

end EsqlAudit.Complexity
