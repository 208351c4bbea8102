import EsqlAudit.Grammar.Token
import EsqlAudit.Syntax.Node

/-!
Expressions of C, from tokens to syntax trees. Ten levels of binary operators associate to the left,
assignments to the right. Every rule gives a node for every list of tokens: where something is wanted
and a wrong token stands, that token becomes a node of its own, and at the end of the text a missing
node is put in.
-/
namespace EsqlAudit.Grammar
open Syntax

/-- The binary operators with their level; a higher level binds more tightly. -/
def binaryOperators : List (String × Nat) :=
  [("||", 1), ("&&", 2), ("|", 3), ("^", 4), ("&", 5), ("==", 6), ("!=", 6), ("<", 7), (">", 7),
   ("<=", 7), (">=", 7), ("<<", 8), (">>", 8), ("+", 9), ("-", 9), ("*", 10), ("/", 10), ("%", 10)]

def assignmentOperators : List String :=
  ["=", "+=", "-=", "*=", "/=", "%=", "&=", "|=", "^=", "<<=", ">>="]

/-- The level of a binary operator. -/
def level? (t : Token) : Option Nat :=
  binaryOperators.lookup t.text

/-- Marks that cannot start the operand of a cast. -/
def endsOperand (t : Token) : Bool :=
  [")", ";", ",", "?", ":", "]", "\x7d"].contains t.text || (level? t).isSome ||
    assignmentOperators.contains t.text

/-- The kind of node of a token that stands by itself. -/
def leafKind (t : Token) : Kind :=
  match t.cls with
  | .number => .numberLiteral
  | .string => .stringLiteral
  | .character => .charLiteral
  | .word => .identifier
  | .mark => Kind.ofName t.text

/-- A node without children that covers a token. -/
def leafOf (k : Kind) (t : Token) : Node :=
  .mk k t.start t.stop [] true false

/-- The node of a token that stands by itself. -/
def leaf (t : Token) : Node :=
  leafOf (leafKind t) t

/-- The node of a token that is an operand. A word that names a type is a type here. -/
def operand (t : Token) : Node :=
  if t.isTypeWord then leafOf .primitiveType t else leaf t

/-- The node of a token that only marks its parent. -/
def markNode (t : Token) : Node :=
  .mk (Kind.ofName t.text) t.start t.stop [] false false

/-- The node put in at the end of the text, at byte `fin`. -/
def missingNode (fin : Nat) : Node :=
  .mk .error fin fin [] true true

/-- A node over some children. -/
def spanning (k : Kind) (start stop : Nat) (children : List Node) : Node :=
  .mk k start stop children true false

/-- An operator between two operands. -/
def between (k : Kind) (left : Node) (op : Token) (right : Node) : Node :=
  spanning k left.start right.stop [left, markNode op, right]

/-- An operator before its operand. -/
def before (k : Kind) (op : Token) (operand : Node) : Node :=
  spanning k op.start operand.stop [markNode op, operand]

/-- The kind of expression that a prefix operator makes. -/
def unaryKind (t : Token) : Option Kind :=
  if t.text == "++" || t.text == "--" then some .updateExpression
  else if ["!", "~", "-", "+", "&"].contains t.text then some .unaryExpression
  else if t.text == "*" then some .pointerExpression
  else if t.text == "sizeof" then some .sizeofExpression
  else none

/-- What a rule makes of some tokens and the tokens it leaves, which stand at the end of `ts`. -/
structure Parsed (α : Type) (ts : List Token) where
  value : α
  rest : List Token
  suffix : rest <:+ ts

theorem suffix_of_tail {more ts : List Token} (h : more <:+ ts.tail) : more <:+ ts :=
  h.trans (List.tail_suffix ts)

theorem suffix_of_rest (t : Token) {more rest : List Token} (h : more <:+ rest) :
    more <:+ t :: rest :=
  h.trans (List.suffix_cons t rest)

namespace Parsed

/-- Leaves no tokens. -/
def atEnd {α : Type} (a : α) (ts : List Token) : Parsed α ts := ⟨a, [], List.nil_suffix⟩

/-- Leaves all tokens. -/
def stay {α : Type} (a : α) (ts : List Token) : Parsed α ts := ⟨a, ts, List.suffix_refl ts⟩

/-- Takes one token. -/
def step {α : Type} (a : α) (t : Token) (rest : List Token) : Parsed α (t :: rest) :=
  ⟨a, rest, List.suffix_cons t rest⟩

end Parsed

/-- Whether an expression in parentheses, with `after` behind it, is the type of a cast. -/
def startsCast (inner : Node) : List Token → Bool
  | [] => false
  | t :: _ => inner.kind == .identifier && !endsOperand t

/-- The tokens without the mark `m` at their front. -/
def dropMark (m : String) : List Token → List Token
  | [] => []
  | t :: rest => if t.text == m then rest else t :: rest

/-- Where the mark `m` at the front of the tokens stops, or `stop` if another token stands there. -/
def markStop (m : String) (stop : Nat) : List Token → Nat
  | [] => stop
  | t :: _ => if t.text == m then t.stop else stop

theorem dropMark_suffix (m : String) (ts : List Token) : dropMark m ts <:+ ts := by
  cases ts with
  | nil => exact List.suffix_refl []
  | cons t rest =>
    simp only [dropMark]
    split
    · exact List.suffix_cons t rest
    · exact List.suffix_refl _

theorem dropMark_suffix_of_tail {ts rest : List Token} (m : String) (h : ts <:+ rest.tail) : dropMark m ts <:+ rest :=
  (dropMark_suffix m ts).trans (suffix_of_tail h)

mutual

/-- A token by itself, an expression in parentheses, or a cast. The closing parenthesis may be missing. -/
def primary (fin : Nat) (ts : List Token) : Parsed Node ts.tail :=
  match ts with
  | [] => .atEnd (missingNode fin) _
  | t :: rest =>
    if t.text == "(" then
      match expression fin rest with
      | ⟨inner, after, hafter⟩ =>
        have hdrop := dropMark_suffix_of_tail ")" hafter
        have := hdrop.length_le
        if startsCast inner (dropMark ")" after) then
          match unary fin (dropMark ")" after) with
          | ⟨operand, more, hmore⟩ =>
            ⟨spanning .castExpression t.start operand.stop [inner, operand], more,
              (suffix_of_tail hmore).trans hdrop⟩
        else
          ⟨spanning .parenthesizedExpression t.start (markStop ")" inner.stop after) [inner],
            dropMark ")" after, hdrop⟩
    else ⟨operand t, rest, List.suffix_refl rest⟩
termination_by 10 * ts.length
decreasing_by
  all_goals first
    | omega
    | (simp only [List.length_cons] at *; omega)

/-- A primary expression with its suffixes. -/
def postfixed (fin : Nat) (ts : List Token) : Parsed Node ts.tail :=
  match primary fin ts with
  | ⟨head, rest, hrest⟩ =>
    have := hrest.length_le
    match suffixes fin head rest with
    | ⟨node, more, hmore⟩ => ⟨node, more, hmore.trans hrest⟩
termination_by 10 * ts.length + 2
decreasing_by
  all_goals first
    | omega
    | (simp only [List.length_tail] at *; omega)

/-- Calls, subscripts, member accesses and increments after `node`. A suffix that the end of the text cuts off
stops with its mark. -/
def suffixes (fin : Nat) (node : Node) (ts : List Token) : Parsed Node ts :=
  match ts with
  | [] => .atEnd node _
  | t :: rest =>
    if t.text == "(" then
      match arguments fin rest with
      | ⟨args, [], _⟩ => .atEnd (spanning .callExpression node.start t.stop (node :: args)) _
      | ⟨args, c :: after, hafter⟩ =>
        have := hafter.length_le
        match suffixes fin (spanning .callExpression node.start c.stop (node :: args)) after with
        | ⟨whole, more, hmore⟩ =>
          ⟨whole, more, suffix_of_rest t ((suffix_of_rest c hmore).trans hafter)⟩
    else if t.text == "[" then
      match expression fin rest with
      | ⟨index, [], _⟩ => .atEnd (spanning .subscriptExpression node.start t.stop [node, index]) _
      | ⟨index, c :: after, hafter⟩ =>
        have hdrop := dropMark_suffix_of_tail "]" hafter
        have := hdrop.length_le
        match suffixes fin (spanning .subscriptExpression node.start c.stop [node, index])
            (dropMark "]" (c :: after)) with
        | ⟨whole, more, hmore⟩ => ⟨whole, more, suffix_of_rest t (hmore.trans hdrop)⟩
    else if t.text == "." || t.text == "->" then
      match rest with
      | [] => .atEnd (spanning .fieldExpression node.start t.stop [node, markNode t, missingNode fin]) _
      | f :: after =>
        match suffixes fin (spanning .fieldExpression node.start f.stop [node, markNode t, leaf f])
            after with
        | ⟨whole, more, hmore⟩ => ⟨whole, more, suffix_of_rest t (suffix_of_rest f hmore)⟩
    else if t.text == "++" || t.text == "--" then
      match suffixes fin (spanning .updateExpression node.start t.stop [node, markNode t]) rest with
      | ⟨whole, more, hmore⟩ => ⟨whole, more, suffix_of_rest t hmore⟩
    else .stay node (t :: rest)
termination_by 10 * ts.length + 1
decreasing_by
  all_goals first
    | omega
    | (simp only [List.length_cons] at *; omega)

/-- The arguments of a call up to the closing parenthesis. The comma after an argument may be missing, and a
comma where an argument is wanted is that argument. -/
def arguments (fin : Nat) (ts : List Token) : Parsed (List Node) ts :=
  match ts with
  | [] => .atEnd [] _
  | t :: rest =>
    if t.text == ")" then .stay [] (t :: rest)
    else
      match assignment fin (t :: rest) with
      | ⟨arg, after, hafter⟩ =>
        have hdrop := (dropMark_suffix "," after).trans hafter
        have := hdrop.length_le
        match arguments fin (dropMark "," after) with
        | ⟨args, more, hmore⟩ => ⟨arg :: args, more, suffix_of_rest t (hmore.trans hdrop)⟩
termination_by 10 * ts.length + 7
decreasing_by
  all_goals first
    | omega
    | (simp only [List.length_cons, List.length_tail] at *; omega)

/-- Prefix operators and their operand. -/
def unary (fin : Nat) (ts : List Token) : Parsed Node ts.tail :=
  match ts with
  | [] => postfixed fin []
  | t :: rest =>
    match unaryKind t with
    | some k =>
      match unary fin rest with
      | ⟨operand, more, hmore⟩ => ⟨before k t operand, more, suffix_of_tail hmore⟩
    | none => postfixed fin (t :: rest)
termination_by 10 * ts.length + 3
decreasing_by
  all_goals first
    | omega
    | (simp only [List.length_cons] at *; omega)

/-- Operands joined by binary operators of at least the given level. -/
def binary (fin : Nat) (least : Nat) (ts : List Token) : Parsed Node ts.tail :=
  match unary fin ts with
  | ⟨left, rest, hrest⟩ =>
    have := hrest.length_le
    match operations fin least left rest with
    | ⟨node, more, hmore⟩ => ⟨node, more, hmore.trans hrest⟩
termination_by 10 * ts.length + 4
decreasing_by
  all_goals first
    | omega
    | (simp only [List.length_tail] at *; omega)

/-- Binary operators of at least the given level after `left`, with their right operands. -/
def operations (fin : Nat) (least : Nat) (left : Node) (ts : List Token) : Parsed Node ts :=
  match ts with
  | [] => .atEnd left _
  | t :: rest =>
    match level? t with
    | none => .stay left (t :: rest)
    | some l =>
      if least ≤ l then
        match binary fin (l + 1) rest with
        | ⟨right, after, hafter⟩ =>
          have := hafter.length_le
          match operations fin least (between .binaryExpression left t right) after with
          | ⟨node, more, hmore⟩ =>
            ⟨node, more, suffix_of_rest t (hmore.trans (suffix_of_tail hafter))⟩
      else .stay left (t :: rest)
termination_by 10 * ts.length
decreasing_by
  all_goals first
    | omega
    | (simp only [List.length_cons, List.length_tail] at *; omega)

/-- A condition with its two outcomes. The colon between them may be missing. -/
def conditional (fin : Nat) (ts : List Token) : Parsed Node ts.tail :=
  match binary fin 1 ts with
  | ⟨cond, [], _⟩ => .atEnd cond _
  | ⟨cond, t :: rest, hrest⟩ =>
    have := hrest.length_le
    if t.text == "?" then
      match assignment fin rest with
      | ⟨yes, after, hafter⟩ =>
        have hdrop := dropMark_suffix_of_tail ":" hafter
        have := hdrop.length_le
        match assignment fin (dropMark ":" after) with
        | ⟨no, more, hmore⟩ =>
          ⟨spanning .conditionalExpression cond.start no.stop [cond, markNode t, yes, no], more,
            (suffix_of_rest t ((suffix_of_tail hmore).trans hdrop)).trans hrest⟩
    else ⟨cond, t :: rest, hrest⟩
termination_by 10 * ts.length + 5
decreasing_by
  all_goals first
    | omega
    | (simp only [List.length_cons, List.length_tail] at *; omega)

/-- An assignment or what may stand on its right. -/
def assignment (fin : Nat) (ts : List Token) : Parsed Node ts.tail :=
  match conditional fin ts with
  | ⟨left, [], _⟩ => .atEnd left _
  | ⟨left, t :: rest, hrest⟩ =>
    have := hrest.length_le
    if assignmentOperators.contains t.text then
      match assignment fin rest with
      | ⟨right, more, hmore⟩ =>
        ⟨between .assignmentExpression left t right, more,
          (suffix_of_rest t (suffix_of_tail hmore)).trans hrest⟩
    else ⟨left, t :: rest, hrest⟩
termination_by 10 * ts.length + 6
decreasing_by
  all_goals first
    | omega
    | (simp only [List.length_cons, List.length_tail] at *; omega)

/-- Assignments joined by commas. -/
def expression (fin : Nat) (ts : List Token) : Parsed Node ts.tail :=
  match assignment fin ts with
  | ⟨left, rest, hrest⟩ =>
    have := hrest.length_le
    match commas fin left rest with
    | ⟨node, more, hmore⟩ => ⟨node, more, hmore.trans hrest⟩
termination_by 10 * ts.length + 8
decreasing_by
  all_goals first
    | omega
    | (simp only [List.length_tail] at *; omega)

/-- Commas after `left`, with what follows each of them. -/
def commas (fin : Nat) (left : Node) (ts : List Token) : Parsed Node ts :=
  match ts with
  | [] => .atEnd left _
  | t :: rest =>
    if t.text == "," then
      match assignment fin rest with
      | ⟨right, after, hafter⟩ =>
        have := hafter.length_le
        match commas fin (between .commaExpression left t right) after with
        | ⟨node, more, hmore⟩ =>
          ⟨node, more, suffix_of_rest t (hmore.trans (suffix_of_tail hafter))⟩
    else .stay left (t :: rest)
termination_by 10 * ts.length
decreasing_by
  all_goals first
    | omega
    | (simp only [List.length_cons, List.length_tail] at *; omega)

end

end EsqlAudit.Grammar
