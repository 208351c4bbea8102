import EsqlAudit.Complexity.Cyclomatic

/-!
Cognitive complexity: a structure costs one and one more for each level of nesting around it. The body of
a structure is one level deeper; an `else` costs one more, and a chain of `else if` stays at its level. An
expression costs one for each run of equal logical operators, and nothing below it is counted.
-/
namespace EsqlAudit.Complexity
open Syntax

/-- Structures that cost more the deeper they are nested. -/
def isNesting : Kind → Bool
  | .ifStatement | .whileStatement | .forStatement | .doStatement | .switchStatement
  | .conditionalExpression => true
  | _ => false

/-- Whether a jump names a label. -/
def namesLabel (children : List Node) : Bool :=
  children.any fun c => c.kind == .statementIdentifier || c.kind == .identifier

/-- An operand that is an expression, with the operators below it. -/
structure Operand where
  text : String
  isBinary : Bool
  below : Measured (List Logical)

/-- The operators of an expression from those of its operands: the first binary operand, the operator
itself, which is the last child that reads like one, and the last binary operand after the first. -/
def joinOperators (operands : List Operand) : Measured (List Logical) := do
  let own := (operands.filterMap fun o => Logical.ofText? o.text).getLast?
  let nested := operands.filter fun o => o.isBinary && (Logical.ofText? o.text).isNone
  let left ← match nested.head? with
    | some o => o.below
    | none => pure []
  let right ← match nested.tail.getLast? with
    | some o => o.below
    | none => pure []
  return left ++ own.toList ++ right

mutual
/-- The logical operators of nested binary expressions. -/
def operators (p : Program) : Node → Measured (List Logical)
  | .mk kind _ _ children _ _ =>
    if kind == .binaryExpression then
      match operands p children with
      | .error e => .error e
      | .ok found => joinOperators found
    else .ok []
/-- The children of an expression with the operators below them. -/
def operands (p : Program) : List Node → Measured (List Operand)
  | [] => .ok []
  | c :: rest =>
    match p.nodeText c with
    | .error e => .error e
    | .ok text =>
      match operands p rest with
      | .error e => .error e
      | .ok found => .ok (⟨text, c.kind == .binaryExpression, operators p c⟩ :: found)
end

/-- The number of runs of equal items after one equal to `last`. -/
def changesAfter (last : Logical) : List Logical → Nat
  | [] => 0
  | op :: rest => if op == last then changesAfter last rest else changesAfter op rest + 1

/-- The number of runs of equal operators. -/
def runs : List Logical → Nat
  | [] => 0
  | op :: rest => changesAfter op rest + 1

/-- What the logical operators of an expression cost. -/
def sequences (p : Program) (n : Node) : Measured Nat :=
  (operators p n).map runs

mutual
/-- What the code of a node costs at a level of nesting. -/
def cost (p : Program) (level : Nat) : Node → Measured Nat
  | .mk kind start stop children named missing =>
    if isNesting kind then (costInside p level children).map (1 + level + ·)
    else
      match kind with
      | .caseStatement => (costAll p level children).map (1 + ·)
      | .gotoStatement => .ok 1
      | .breakStatement | .continueStatement => .ok (if namesLabel children then 1 else 0)
      | .binaryExpression => sequences p (.mk kind start stop children named missing)
      | _ => costAll p level children
/-- What several nodes cost at the same level. -/
def costAll (p : Program) (level : Nat) : List Node → Measured Nat
  | [] => .ok 0
  | c :: rest =>
    match cost p level c with
    | .error e => .error e
    | .ok n => (costAll p level rest).map (n + ·)
/-- What the parts of a structure cost: its body is one level deeper, an `else` costs one. -/
def costInside (p : Program) (level : Nat) : List Node → Measured Nat
  | [] => .ok 0
  | .mk kind start stop children named missing :: rest =>
    let part :=
      if kind == .compoundStatement then
        cost p (level + 1) (.mk kind start stop children named missing)
      else if kind == .elseClause then (costElse p level children).map (1 + ·)
      else cost p level (.mk kind start stop children named missing)
    match part with
    | .error e => .error e
    | .ok n => (costInside p level rest).map (n + ·)
/-- What the parts of an `else` cost: a further `if` stays at the level, all else is one deeper. -/
def costElse (p : Program) (level : Nat) : List Node → Measured Nat
  | [] => .ok 0
  | c :: rest =>
    match cost p (if c.kind == .ifStatement then level else level + 1) c with
    | .error e => .error e
    | .ok n => (costElse p level rest).map (n + ·)
end

/-- The body of a function definition. -/
def body? (n : Node) : Option Node :=
  n.child? .compoundStatement

/-- The cognitive complexity of a function, zero if it has no body. -/
def cognitive (p : Program) (f : Function) : Measured Nat :=
  match f.node.bind body? with
  | none => .ok 0
  | some b => cost p 0 b

/-- What makes a function complex. -/
structure Burdens where
  ifs : Nat
  loops : Nat
  switches : Nat
  cases : Nat
  ternaries : Nat
  elses : Nat
  gotos : Nat
  labeledJumps : Nat
  sequences : Nat
  maxNesting : Nat
  nestingPenalty : Nat

namespace Burdens

def none : Burdens := ⟨0, 0, 0, 0, 0, 0, 0, 0, 0, 0, 0⟩

/-- Counts one more node, other than an expression, at a level of nesting. -/
def add (b : Burdens) (level : Nat) (k : Kind) (labeled : Bool) : Burdens :=
  match k with
  | .ifStatement => { b with ifs := b.ifs + 1, nestingPenalty := b.nestingPenalty + level }
  | .whileStatement | .forStatement | .doStatement =>
    { b with loops := b.loops + 1, nestingPenalty := b.nestingPenalty + level }
  | .switchStatement =>
    { b with switches := b.switches + 1, nestingPenalty := b.nestingPenalty + level }
  | .conditionalExpression =>
    { b with ternaries := b.ternaries + 1, nestingPenalty := b.nestingPenalty + level }
  | .caseStatement => { b with cases := b.cases + 1 }
  | .elseClause => { b with elses := b.elses + 1 }
  | .gotoStatement => { b with gotos := b.gotos + 1 }
  | .breakStatement | .continueStatement =>
    if labeled then { b with labeledJumps := b.labeledJumps + 1 } else b
  | _ => b

/-- The burdens of a function of the given complexity as they stand in a report. -/
def toRecord (b : Burdens) (total : Nat) : Record :=
  [("if_count", .ofNat b.ifs), ("loop_count", .ofNat b.loops), ("switch_count", .ofNat b.switches),
   ("case_count", .ofNat b.cases), ("ternary_count", .ofNat b.ternaries),
   ("else_count", .ofNat b.elses), ("goto_count", .ofNat b.gotos),
   ("labeled_jump_count", .ofNat b.labeledJumps), ("logical_sequences", .ofNat b.sequences),
   ("max_nesting", .ofNat b.maxNesting), ("nesting_penalty", .ofNat b.nestingPenalty),
   ("total", .ofNat total)]

end Burdens

mutual
/-- Counts the code of a node at a level of nesting. Here every part of a structure is one level deeper,
and the parts of a jump are counted too. -/
def collect (p : Program) (level : Nat) (b : Burdens) : Node → Measured Burdens
  | .mk kind start stop children named missing =>
    let b := { b with maxNesting := Nat.max b.maxNesting level }
    if kind == .binaryExpression then
      (sequences p (.mk kind start stop children named missing)).map fun n =>
        { b with sequences := b.sequences + n }
    else
      collectAll p (if isNesting kind then level + 1 else level)
        (b.add level kind (namesLabel children)) children
def collectAll (p : Program) (level : Nat) (b : Burdens) : List Node → Measured Burdens
  | [] => .ok b
  | c :: rest =>
    match collect p level b c with
    | .error e => .error e
    | .ok b => collectAll p level b rest
end

/-- What makes a function complex, nothing if it has no body. -/
def burdens (p : Program) (f : Function) : Measured Burdens :=
  match f.node.bind body? with
  | none => .ok Burdens.none
  | some b => collect p 0 Burdens.none b

end EsqlAudit.Complexity
