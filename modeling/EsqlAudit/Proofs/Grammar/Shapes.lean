import EsqlAudit.Proofs.Grammar.Structured
import EsqlAudit.Syntax.Program

/-!
# The trees of structured programs

The shape of a tree is what is left of it without places and without parentheses. Every structured program has a
shape of its own, and a tree that shows a program, with or without parentheses, has the program's shape.
-/

namespace EsqlAudit.Syntax

/-- A tree without places. Names and numbers keep their texts. -/
inductive Shape where
  | mk (kind : Kind) (named missing : Bool) (text : Option String) (children : List Shape)

/-- Whether nodes of a kind are told apart by their texts. -/
def Kind.isSpelled (k : Kind) : Bool :=
  k == .identifier || k == .numberLiteral

mutual
/-- A tree without its places and without the parentheses around expressions. -/
def Node.erase (p : Program) : Node → Shape
  | .mk kind start stop children named missing =>
    match kind, Node.eraseAll p children with
    | .parenthesizedExpression, [inner] => inner
    | kind, shapes =>
      .mk kind named missing
        (if kind.isSpelled then (p.nodeText (.mk kind start stop children named missing)).toOption else none) shapes
def Node.eraseAll (p : Program) : List Node → List Shape
  | [] => []
  | n :: rest => n.erase p :: Node.eraseAll p rest
end

end EsqlAudit.Syntax

namespace EsqlAudit.Grammar.Structured
open Syntax

/-! ## The shape of a program -/

/-- A node over others. -/
def parent (k : Kind) (children : List Shape) : Shape := .mk k true false none children

/-- A mark of the node above it. -/
def sign (s : String) : Shape := .mk (.other s) false false none []

/-- A name or a number. -/
def spelled (k : Kind) (s : String) : Shape := .mk k true false (some s) []

def Expr.shape : Expr → Shape
  | name x => spelled .identifier x.text
  | number n => spelled .numberLiteral n.text
  | op o l r => parent .binaryExpression [l.shape, sign o.text, r.shape]

mutual
def Stmt.shape : Stmt → Shape
  | assign x e =>
    parent .expressionStatement
      [parent .assignmentExpression [spelled .identifier x.text, sign "=", e.shape]]
  | ret e => parent .returnStatement [sign "return", e.shape]
  | empty => parent .expressionStatement []
  | block body => parent .compoundStatement (Stmt.shapes body)
  | ifThen cond body => parent .ifStatement [sign "if", cond.shape, parent .compoundStatement (Stmt.shapes body)]
  | ifElse cond body other =>
    parent .ifStatement [sign "if", cond.shape, parent .compoundStatement (Stmt.shapes body),
      parent .elseClause [sign "else", parent .compoundStatement (Stmt.shapes other)]]
  | whileLoop cond body =>
    parent .whileStatement [sign "while", cond.shape, parent .compoundStatement (Stmt.shapes body)]
  | doLoop body cond =>
    parent .doStatement [sign "do", parent .compoundStatement (Stmt.shapes body), cond.shape]
def Stmt.shapes : List Stmt → List Shape
  | [] => []
  | s :: rest => s.shape :: Stmt.shapes rest
end

theorem operator_level_unique :
    ∀ a ∈ binaryOperators, ∀ b ∈ binaryOperators, a.1 = b.1 → a.2 = b.2 := by decide

theorem Operator.eq_of_text {o o' : Operator} (h : o.text = o'.text) : o = o' := by
  have hlevel := operator_level_unique _ o.valid _ o'.valid h
  cases o; cases o'
  cases h; cases hlevel
  rfl

theorem Name.eq_of_text {x y : Name} (h : x.text = y.text) : x = y := by
  cases x; cases y; cases h; rfl

theorem Numeral.eq_of_text {m n : Numeral} (h : m.text = n.text) : m = n := by
  cases m; cases n; cases h; rfl

theorem Expr.shape_injective {e e' : Expr} (h : e.shape = e'.shape) : e = e' := by
  induction e generalizing e' with
  | name x =>
      cases e' with
      | name y =>
          have htext : x.text = y.text := by simpa [shape, spelled] using h
          rw [Name.eq_of_text htext]
      | number n => simp [shape, spelled] at h
      | op o l r => simp [shape, spelled, parent] at h
  | number n =>
      cases e' with
      | name y => simp [shape, spelled] at h
      | number m =>
          have htext : n.text = m.text := by simpa [shape, spelled] using h
          rw [Numeral.eq_of_text htext]
      | op o l r => simp [shape, spelled, parent] at h
  | op o l r ihl ihr =>
      cases e' with
      | name y => simp [shape, spelled, parent] at h
      | number m => simp [shape, spelled, parent] at h
      | op o' l' r' =>
          simp only [shape, parent, sign, Shape.mk.injEq, List.cons.injEq, Kind.other.injEq, true_and, and_true] at h
          rw [ihl h.1, Operator.eq_of_text h.2.1, ihr h.2.2]

mutual
theorem Stmt.shape_injective : (s s' : Stmt) → s.shape = s'.shape → s = s'
  | .assign x e, s', h => by
      cases s' with
      | assign y e' =>
          simp only [shape, parent, sign, spelled, Shape.mk.injEq, List.cons.injEq, Option.some.injEq, true_and,
            and_true] at h
          rw [Name.eq_of_text h.1, Expr.shape_injective h.2]
      | _ => simp [shape, parent] at h
  | .ret e, s', h => by
      cases s' with
      | ret e' =>
          simp only [shape, parent, Shape.mk.injEq, List.cons.injEq, true_and, and_true] at h
          rw [Expr.shape_injective h]
      | _ => simp [shape, parent] at h
  | .empty, s', h => by
      cases s' with
      | empty => rfl
      | _ => simp [shape, parent] at h
  | .block body, s', h => by
      cases s' with
      | block body' =>
          simp only [shape, parent, Shape.mk.injEq, true_and] at h
          rw [Stmt.shapes_injective body body' h]
      | _ => simp [shape, parent] at h
  | .ifThen cond body, s', h => by
      cases s' with
      | ifThen cond' body' =>
          simp only [shape, parent, Shape.mk.injEq, List.cons.injEq, true_and, and_true] at h
          rw [Expr.shape_injective h.1, Stmt.shapes_injective body body' h.2]
      | _ => simp [shape, parent] at h
  | .ifElse cond body other, s', h => by
      cases s' with
      | ifElse cond' body' other' =>
          simp only [shape, parent, Shape.mk.injEq, List.cons.injEq, true_and, and_true] at h
          rw [Expr.shape_injective h.1, Stmt.shapes_injective body body' h.2.1,
            Stmt.shapes_injective other other' h.2.2]
      | _ => simp [shape, parent] at h
  | .whileLoop cond body, s', h => by
      cases s' with
      | whileLoop cond' body' =>
          simp only [shape, parent, Shape.mk.injEq, List.cons.injEq, true_and, and_true] at h
          rw [Expr.shape_injective h.1, Stmt.shapes_injective body body' h.2]
      | _ => simp [shape, parent] at h
  | .doLoop body cond, s', h => by
      cases s' with
      | doLoop body' cond' =>
          simp only [shape, parent, Shape.mk.injEq, List.cons.injEq, true_and, and_true] at h
          rw [Stmt.shapes_injective body body' h.1, Expr.shape_injective h.2]
      | _ => simp [shape, parent] at h
theorem Stmt.shapes_injective : (b b' : List Stmt) → Stmt.shapes b = Stmt.shapes b' → b = b'
  | [], [], _ => rfl
  | [], _ :: _, h => by simp [shapes] at h
  | _ :: _, [], h => by simp [shapes] at h
  | s :: rest, s' :: rest', h => by
      simp only [shapes, List.cons.injEq] at h
      rw [Stmt.shape_injective s s' h.1, Stmt.shapes_injective rest rest' h.2]
end

/-! ## Trees that show a program -/

/-- The node of a mark. -/
def signNode (s : String) (start stop : Nat) : Node := .mk (.other s) start stop [] false false

/-- The tree shows the expression; operations in it may stand in parentheses. -/
inductive Shows (p : Program) : Expr → Node → Prop
  | name {x : Name} {a b : Nat} : p.nodeText (spanning .identifier a b []) = .ok x.text →
      Shows p (.name x) (spanning .identifier a b [])
  | number {n : Numeral} {a b : Nat} : p.nodeText (spanning .numberLiteral a b []) = .ok n.text →
      Shows p (.number n) (spanning .numberLiteral a b [])
  | op {o : Operator} {l r : Expr} {left right : Node} {a b c d : Nat} : Shows p l left →
      p.nodeText (signNode o.text c d) = .ok o.text → Shows p r right →
      Shows p (.op o l r) (spanning .binaryExpression a b [left, signNode o.text c d, right])
  | parentheses {o : Operator} {l r : Expr} {inner : Node} {a b : Nat} {rest : List Char} :
      Shows p (.op o l r) inner →
      p.nodeText (spanning .parenthesizedExpression a b [inner]) = .ok (String.ofList ('(' :: rest)) →
      Shows p (.op o l r) (spanning .parenthesizedExpression a b [inner])

mutual
/-- The tree shows the statement. -/
inductive ShowsStmt (p : Program) : Stmt → Node → Prop
  | assign {x : Name} {e : Expr} {value : Node} {a b c d a' b' c' d' : Nat} :
      p.nodeText (spanning .identifier a b []) = .ok x.text → Shows p e value →
      ShowsStmt p (.assign x e) (spanning .expressionStatement a' b'
        [spanning .assignmentExpression c' d' [spanning .identifier a b [], signNode "=" c d, value]])
  | ret {e : Expr} {value : Node} {a b c d : Nat} : Shows p e value →
      ShowsStmt p (.ret e) (spanning .returnStatement a b [signNode "return" c d, value])
  | empty {a b : Nat} : ShowsStmt p .empty (spanning .expressionStatement a b [])
  | block {body : List Stmt} {inner : Node} : ShowsBlock p body inner → ShowsStmt p (.block body) inner
  | ifThen {e : Expr} {body : List Stmt} {cond inner : Node} {a b c d : Nat} : Shows p e cond →
      ShowsBlock p body inner →
      ShowsStmt p (.ifThen e body) (spanning .ifStatement a b [signNode "if" c d, cond, inner])
  | ifElse {e : Expr} {body other : List Stmt} {cond inner inner' : Node} {a b c d a' b' c' d' : Nat} :
      Shows p e cond → ShowsBlock p body inner → ShowsBlock p other inner' →
      ShowsStmt p (.ifElse e body other) (spanning .ifStatement a b [signNode "if" c d, cond, inner,
        spanning .elseClause a' b' [signNode "else" c' d', inner']])
  | whileLoop {e : Expr} {body : List Stmt} {cond inner : Node} {a b c d : Nat} : Shows p e cond →
      ShowsBlock p body inner →
      ShowsStmt p (.whileLoop e body) (spanning .whileStatement a b [signNode "while" c d, cond, inner])
  | doLoop {e : Expr} {body : List Stmt} {cond inner : Node} {a b c d : Nat} : ShowsBlock p body inner →
      Shows p e cond →
      ShowsStmt p (.doLoop body e) (spanning .doStatement a b [signNode "do" c d, inner, cond])
/-- The tree is a block that shows the statements. -/
inductive ShowsBlock (p : Program) : List Stmt → Node → Prop
  | mk {body : List Stmt} {nodes : List Node} {a b : Nat} : ShowsEach p body nodes →
      ShowsBlock p body (spanning .compoundStatement a b nodes)
/-- The trees show the statements one by one. -/
inductive ShowsEach (p : Program) : List Stmt → List Node → Prop
  | nil : ShowsEach p [] []
  | cons {s : Stmt} {rest : List Stmt} {n : Node} {nodes : List Node} : ShowsStmt p s n →
      ShowsEach p rest nodes → ShowsEach p (s :: rest) (n :: nodes)
end

variable {p : Program}

theorem erase_spanning {k : Kind} (hk : k ≠ .parenthesizedExpression) (a b : Nat) (children : List Node) :
    (spanning k a b children).erase p = .mk k true false
      (if k.isSpelled then (p.nodeText (spanning k a b children)).toOption else none) (Node.eraseAll p children) := by
  rw [spanning, Node.erase]
  exact fun _ h => absurd h hk

theorem erase_parent {k : Kind} (hk : k ≠ .parenthesizedExpression) (hs : k.isSpelled = false) (a b : Nat)
    (children : List Node) : (spanning k a b children).erase p = parent k (Node.eraseAll p children) := by
  rw [erase_spanning hk, hs]
  rfl

theorem erase_spelled {k : Kind} {s : String} {a b : Nat} (hk : k ≠ .parenthesizedExpression)
    (hs : k.isSpelled = true) (htext : p.nodeText (spanning k a b []) = .ok s) :
    (spanning k a b []).erase p = spelled k s := by
  rw [erase_spanning hk, hs, htext]
  rfl

theorem erase_signNode (s : String) (a b : Nat) : (signNode s a b).erase p = sign s := rfl

theorem Shows.erase {e : Expr} {n : Node} (h : Shows p e n) : n.erase p = e.shape := by
  induction h with
  | name htext => exact erase_spelled (by decide) rfl htext
  | number htext => exact erase_spelled (by decide) rfl htext
  | op hl _ hr ihl ihr =>
      rw [erase_parent (by decide) rfl]
      simp only [Node.eraseAll, ihl, ihr, erase_signNode]
      rfl
  | parentheses _ _ ih =>
      rw [spanning, Node.erase]
      simp only [Node.eraseAll, ih]

mutual
theorem ShowsStmt.erase {s : Stmt} {n : Node} (h : ShowsStmt p s n) : n.erase p = s.shape := by
  match h with
  | .assign htext he =>
      rw [erase_parent (by decide) rfl, Node.eraseAll, Node.eraseAll, erase_parent (by decide) rfl]
      simp only [Node.eraseAll, he.erase, erase_signNode, erase_spelled (k := .identifier) (by decide) rfl htext]
      rfl
  | .ret he =>
      rw [erase_parent (by decide) rfl]
      simp only [Node.eraseAll, he.erase, erase_signNode]
      rfl
  | .empty => exact erase_parent (by decide) rfl ..
  | .block hb => exact ShowsBlock.erase hb
  | .ifThen he hb =>
      rw [erase_parent (by decide) rfl]
      simp only [Node.eraseAll, he.erase, erase_signNode, ShowsBlock.erase hb]
      rfl
  | .ifElse he hb ho =>
      rw [erase_parent (by decide) rfl]
      simp only [Node.eraseAll, he.erase, erase_signNode, ShowsBlock.erase hb, ShowsBlock.erase ho,
        erase_parent (k := .elseClause) (by decide) rfl]
      rfl
  | .whileLoop he hb =>
      rw [erase_parent (by decide) rfl]
      simp only [Node.eraseAll, he.erase, erase_signNode, ShowsBlock.erase hb]
      rfl
  | .doLoop hb he =>
      rw [erase_parent (by decide) rfl]
      simp only [Node.eraseAll, he.erase, erase_signNode, ShowsBlock.erase hb]
      rfl
theorem ShowsBlock.erase {body : List Stmt} {n : Node} (h : ShowsBlock p body n) :
    n.erase p = parent .compoundStatement (Stmt.shapes body) := by
  match h with
  | .mk hbody => rw [erase_parent (by decide) rfl, ShowsEach.erase hbody]
theorem ShowsEach.erase {body : List Stmt} {nodes : List Node} (h : ShowsEach p body nodes) :
    Node.eraseAll p nodes = Stmt.shapes body := by
  match h with
  | .nil => rfl
  | .cons hs hrest => rw [Node.eraseAll, ShowsStmt.erase hs, ShowsEach.erase hrest, Stmt.shapes]
end

end EsqlAudit.Grammar.Structured
