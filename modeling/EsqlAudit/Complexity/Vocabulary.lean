import EsqlAudit.Complexity.Memo
import EsqlAudit.Syntax.Program
import EsqlAudit.Table
import EsqlAudit.Text.Basic

/-!
The operators and operands of a function. An expression stands for its operator, a keyword is an operator
wherever it is a node of its own, and so is the name of a called function; names and literals are
operands, all string literals being the same one.
-/
namespace EsqlAudit.Complexity
open Syntax

/-- How often each operator and each operand occurs. -/
structure Vocabulary where
  operators : Counter String
  operands : Counter String

namespace Vocabulary

def none : Vocabulary := ⟨[], []⟩

def addOperator (v : Vocabulary) (word : String) : Vocabulary :=
  { v with operators := v.operators.add word }

def addOperand (v : Vocabulary) (word : String) : Vocabulary :=
  { v with operands := v.operands.add word }

end Vocabulary

/-- The spellings that are the operator of a binary expression. -/
def binarySpellings : List String :=
  ["+", "-", "*", "/", "%", "=", "+=", "-=", "*=", "/=", "%=", "&=", "|=", "^=", "<<=", ">>=", "==",
   "!=", "<", ">", "<=", ">=", "&&", "||", "!", "&", "|", "^", "~", "<<", ">>", "++", "--", "->", ".",
   "?", ":", ",", "sizeof"]

/-- The spellings that are the operator of a unary expression. -/
def unarySpellings : List String :=
  ["!", "~", "-", "+", "*", "&", "++", "--"]

/-- The keywords that count as operators. -/
def keywordOperators : List String :=
  ["if", "else", "for", "while", "do", "switch", "case", "default", "break", "continue", "return",
   "goto", "struct", "union", "enum", "typedef"]

/-- Whether a text contains another. -/
def mentions (text part : String) : Bool :=
  Text.contains part.toList text.toList

/-- The first text among some nodes that fits. -/
def firstText (p : Program) (fits : String → Bool) : List Node → Measured (Option String)
  | [] => .ok none
  | c :: rest =>
    match p.nodeText c with
    | .error e => .error e
    | .ok text => if fits text then .ok (some text) else firstText p fits rest

/-- The operator that an expression stands for. -/
def operatorOf (p : Program) (n : Node) : Measured (Option String) :=
  match n.kind with
  | .binaryExpression => firstText p binarySpellings.contains n.children
  | .unaryExpression => firstText p unarySpellings.contains n.children
  | .assignmentExpression => firstText p (mentions · "=") n.children
  | .updateExpression => (p.nodeText n).map fun t => some (if mentions t "++" then "++" else "--")
  | .pointerExpression => .ok (some "->")
  | .fieldExpression => (p.nodeText n).map fun t => some (if mentions t "." then "." else "->")
  | .subscriptExpression => .ok (some "[]")
  | .callExpression => .ok (some "()")
  | .conditionalExpression => .ok (some "?:")
  | .sizeofExpression => .ok (some "sizeof")
  | .castExpression => .ok (some "(cast)")
  | _ => .ok none

/-- Adds the operator or the operand that a node of the kind with the text is. It may be the function that
a call names. -/
def addAtom (called : Bool) (kind : Kind) (text : String) (v : Vocabulary) : Vocabulary :=
  match kind with
  | .identifier => if called then v.addOperator text else v.addOperand text
  | .numberLiteral | .charLiteral => v.addOperand text
  | .stringLiteral => v.addOperand "<string>"
  | _ => v

/-- Adds what a node is by itself. -/
def addOwn (p : Program) (called : Bool) (n : Node) (v : Vocabulary) : Measured Vocabulary := do
  let text ← p.nodeText n
  let op ← operatorOf p n
  let v := (op.map v.addOperator).getD v
  let v := if keywordOperators.contains text then v.addOperator text else v
  return addAtom called n.kind text v

mutual
/-- Adds the operators and operands of a node and all below it. -/
def addTree (p : Program) (called : Bool) (v : Vocabulary) : Node → Measured Vocabulary
  | .mk kind start stop children named missing =>
    match addOwn p called (.mk kind start stop children named missing) v with
    | .error e => .error e
    | .ok v => addTrees p (kind == .callExpression) v children
/-- Adds the operators and operands of several nodes; the first may be the function that a call names. -/
def addTrees (p : Program) (called : Bool) (v : Vocabulary) : List Node → Measured Vocabulary
  | [] => .ok v
  | c :: rest =>
    match addTree p called v c with
    | .error e => .error e
    | .ok v => addTrees p false v rest
end

/-- The operators and operands of a function, none if it has no tree. -/
def vocabulary (p : Program) (f : Function) : Measured Vocabulary :=
  match f.node with
  | none => .ok Vocabulary.none
  | some n => addTree p false Vocabulary.none n

end EsqlAudit.Complexity
