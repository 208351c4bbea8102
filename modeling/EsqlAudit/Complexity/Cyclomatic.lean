import EsqlAudit.Complexity.Memo
import EsqlAudit.Json.Value
import EsqlAudit.Syntax.Program

/-!
Cyclomatic complexity: one, and one more for every decision. A decision is a branching structure or an
expression whose operator is `&&` or `||`.
-/
namespace EsqlAudit.Complexity
open Syntax

/-- Structures that branch. -/
def isBranching : Kind → Bool
  | .ifStatement | .whileStatement | .forStatement | .doStatement | .caseStatement
  | .conditionalExpression | .catchClause => true
  | _ => false

/-- The logical operators. -/
inductive Logical where
  | and | or
deriving DecidableEq, Repr

/-- The operator with the given spelling. -/
def Logical.ofText? : String → Option Logical
  | "&&" => some .and
  | "||" => some .or
  | _ => none

/-- The kinds of nodes that are logical operators by their kind. -/
def isOperatorMark (k : Kind) : Bool :=
  [Kind.other "&&", .other "||", .other "and", .other "or"].contains k

/-- The operator among the children of an expression: the text of the first operator mark, or of an
earlier child that reads like one. An operand that is an expression itself is not looked at. -/
def operatorAmong (p : Program) : List Node → Measured (Option Logical)
  | [] => .ok none
  | c :: rest =>
    if isOperatorMark c.kind then (p.nodeText c).map Logical.ofText?
    else if c.isNamed && c.kind == .binaryExpression then operatorAmong p rest
    else
      match p.nodeText c with
      | .error e => .error e
      | .ok text =>
        match Logical.ofText? text with
        | some op => .ok (some op)
        | none => operatorAmong p rest

/-- The logical operator of a node, none if it is no binary expression. -/
def logicalOperator (p : Program) (n : Node) : Measured (Option Logical) :=
  if n.kind == .binaryExpression then operatorAmong p n.children else .ok none

/-- What kinds of decisions there are. -/
structure Decisions where
  ifs : Nat
  loops : Nat
  cases : Nat
  ternaries : Nat
  ands : Nat
  ors : Nat

namespace Decisions

def none : Decisions := ⟨0, 0, 0, 0, 0, 0⟩

/-- Counts one more node. -/
def add (d : Decisions) (k : Kind) (op : Option Logical) : Decisions :=
  match k with
  | .ifStatement => { d with ifs := d.ifs + 1 }
  | .whileStatement | .forStatement | .doStatement => { d with loops := d.loops + 1 }
  | .caseStatement => { d with cases := d.cases + 1 }
  | .conditionalExpression => { d with ternaries := d.ternaries + 1 }
  | _ =>
    match op with
    | some .and => { d with ands := d.ands + 1 }
    | some .or => { d with ors := d.ors + 1 }
    | .none => d

/-- The decisions of a function of the given complexity as they stand in a report. -/
def toRecord (d : Decisions) (total : Nat) : Record :=
  [("if_count", .ofNat d.ifs), ("loop_count", .ofNat d.loops), ("case_count", .ofNat d.cases),
   ("ternary_count", .ofNat d.ternaries), ("logical_and_count", .ofNat d.ands),
   ("logical_or_count", .ofNat d.ors), ("total", .ofNat total)]

end Decisions

/-- The decisions of some nodes by kind. -/
def decisionsIn (p : Program) (nodes : List Node) : Measured Decisions :=
  nodes.foldlM (fun d n => (logicalOperator p n).map (d.add n.kind)) Decisions.none

/-- The number of decisions that a node makes by itself. -/
def decisionCount (p : Program) (n : Node) : Measured Nat :=
  (logicalOperator p n).map fun op =>
    (if isBranching n.kind then 1 else 0) + (if op.isSome then 1 else 0)

/-- The cyclomatic complexity of the code below a node. -/
def cyclomaticOf (p : Program) (n : Node) : Measured Nat :=
  n.walk.foldlM (fun total m => (decisionCount p m).map (total + ·)) 1

/-- The cyclomatic complexity of a function, one if it has no tree. -/
def cyclomatic (p : Program) (f : Function) : Measured Nat :=
  match f.node with
  | none => .ok 1
  | some n => cyclomaticOf p n

/-- The decisions of a function by kind. -/
def decisions (p : Program) (f : Function) : Measured Decisions :=
  match f.node with
  | none => .ok Decisions.none
  | some n => decisionsIn p n.walk

end EsqlAudit.Complexity
