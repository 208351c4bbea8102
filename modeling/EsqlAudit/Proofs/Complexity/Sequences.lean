import EsqlAudit.Complexity.Cognitive
import EsqlAudit.Function.BeginEnd
import Mathlib.Data.List.SplitBy

/-!
# Runs of logical operators

An expression costs one for each run of equal operators, in the order in which they are met. An operation whose
right operand alone is an operation is met after that operand. So the runs are those of the operators as they are
written if there is no such operation, or if no left operand is an operation and all operators are met backwards;
in every other shape some choice of operators is miscounted.
-/

namespace EsqlAudit.Complexity
open Syntax

/-! ## Runs -/

theorem length_splitBy_loop (xs : List Logical) (last : Logical) (group : List Logical) (groups : List (List Logical)) :
    (List.splitBy.loop (· == ·) xs last group groups).length = groups.length + 1 + changesAfter last xs := by
  induction xs generalizing last group groups with
  | nil => simp [List.splitBy.loop, changesAfter]
  | cons x xs ih =>
      rw [List.splitBy.loop, changesAfter]
      by_cases h : x = last
      · subst h
        simp [ih]
      · have hlast : (last == x) = false := beq_eq_false_iff_ne.mpr (Ne.symm h)
        simp only [hlast, ih, List.length_cons, beq_iff_eq, h, if_false]
        omega

/-- The number of runs is that of the maximal stretches of equal operators. -/
theorem runs_eq_length_splitBy (xs : List Logical) : runs xs = (xs.splitBy (· == ·)).length := by
  cases xs with
  | nil => rfl
  | cons x xs =>
      rw [List.splitBy, length_splitBy_loop, runs]
      simp [Nat.add_comm]

/-- One if two lists with these ends share a run when they are put together. -/
def joint : Option Logical → Option Logical → Nat
  | some a, some b => if a = b then 1 else 0
  | _, _ => 0

theorem joint_comm (a b : Option Logical) : joint a b = joint b a := by
  cases a <;> cases b <;> simp [joint, eq_comm]

theorem runs_cons (x : Logical) (xs : List Logical) : runs (x :: xs) + joint (some x) xs.head? = 1 + runs xs := by
  cases xs with
  | nil => rfl
  | cons y xs =>
      by_cases h : x = y
      · simp [runs, changesAfter, joint, h, Nat.add_comm]
      · simp [runs, changesAfter, joint, h, Ne.symm h, Nat.add_comm]

theorem runs_append (xs ys : List Logical) : runs (xs ++ ys) + joint xs.getLast? ys.head? = runs xs + runs ys := by
  induction xs with
  | nil => simp [runs, joint]
  | cons x xs ih =>
      cases xs with
      | nil => exact runs_cons x ys
      | cons y xs =>
          have happend := runs_cons x (y :: (xs ++ ys))
          have hcons := runs_cons x (y :: xs)
          rw [List.getLast?_cons_cons]
          simp only [List.cons_append, List.head?_cons] at ih happend hcons ⊢
          omega

theorem runs_reverse (xs : List Logical) : runs xs.reverse = runs xs := by
  induction xs with
  | nil => rfl
  | cons x xs ih =>
      have hcons := runs_cons x xs
      have hconcat := runs_append xs.reverse [x]
      rw [List.getLast?_reverse, List.head?_cons, joint_comm, show runs [x] = 1 from rfl] at hconcat
      rw [List.reverse_cons]
      omega

theorem joint_and_or (a : Option Logical) : joint a (some .and) + joint a (some .or) = a.toList.length := by
  cases a with
  | none => rfl
  | some a => cases a <;> rfl

/-- The two operators between two lists cost the same on average, whatever the lists are. -/
theorem runs_between (xs ys : List Logical) :
    runs (xs ++ .and :: ys) + runs (xs ++ .or :: ys) + xs.getLast?.toList.length + ys.head?.toList.length =
      2 * (runs xs + runs ys) + 2 := by
  have hand := runs_append xs (.and :: ys)
  have hor := runs_append xs (.or :: ys)
  have hys := joint_and_or ys.head?
  rw [joint_comm _ (some .and), joint_comm _ (some .or)] at hys
  have := joint_and_or xs.getLast?
  have := runs_cons .and ys
  have := runs_cons .or ys
  simp only [List.head?_cons] at hand hor
  omega

/-! ## Formulas -/

/-- An expression as far as its cost goes: nested operations, each with its operator if that is a logical one. -/
inductive Formula where
  | operand
  | apply (left : Formula) (op : Option Logical) (right : Formula)

namespace Formula

def isOperation : Formula → Bool
  | operand => false
  | apply .. => true

/-- The operators as they are written. -/
def inorder : Formula → List Logical
  | operand => []
  | apply left op right => left.inorder ++ (op.toList ++ right.inorder)

/-- The operators in the order in which they are met. -/
def met : Formula → List Logical
  | operand => []
  | apply left op right =>
    if left.isOperation then left.met ++ (op.toList ++ right.met) else right.met ++ op.toList

/-- The same operations without logical operators. -/
def shape : Formula → Formula
  | operand => operand
  | apply left _ right => apply left.shape none right.shape

/-- No operation has a right operand alone that is an operation. -/
def isUpright : Formula → Bool
  | operand => true
  | apply left _ right => (left.isOperation || !right.isOperation) && left.isUpright && right.isUpright

/-- No left operand is an operation. -/
def isRightDeep : Formula → Bool
  | operand => true
  | apply left _ right => !left.isOperation && right.isRightDeep

@[simp] theorem isOperation_operand : isOperation operand = false := rfl

@[simp] theorem isOperation_apply (left : Formula) (op : Option Logical) (right : Formula) :
    isOperation (apply left op right) = true := rfl

@[simp] theorem isOperation_shape (t : Formula) : t.shape.isOperation = t.isOperation := by
  cases t <;> rfl

@[simp] theorem shape_shape (t : Formula) : t.shape.shape = t.shape := by
  induction t with
  | operand => rfl
  | apply left op right ihl ihr => simp [shape, ihl, ihr]

@[simp] theorem inorder_shape (t : Formula) : t.shape.inorder = [] := by
  induction t with
  | operand => rfl
  | apply left op right ihl ihr => simp [shape, inorder, ihl, ihr]

@[simp] theorem met_shape (t : Formula) : t.shape.met = [] := by
  induction t with
  | operand => rfl
  | apply left op right ihl ihr => simp [shape, met, ihl, ihr]

theorem isUpright_shape (t : Formula) : t.shape.isUpright = t.isUpright := by
  induction t with
  | operand => rfl
  | apply left op right ihl ihr => simp [shape, isUpright, ihl, ihr]

theorem isRightDeep_shape (t : Formula) : t.shape.isRightDeep = t.isRightDeep := by
  induction t with
  | operand => rfl
  | apply left op right ihl ihr => simp [shape, isRightDeep, ihr]

theorem met_perm (t : Formula) : t.met.Perm t.inorder := by
  induction t with
  | operand => exact .nil
  | apply left op right ihl ihr =>
      rw [met, inorder]
      split
      · exact ihl.append (ihr.append_left _)
      · rename_i hleft
        cases left with
        | operand => exact (List.perm_append_comm).trans (ihr.append_left _)
        | apply => exact absurd rfl hleft

/-! ## Shapes that are counted right -/

theorem met_of_isUpright {t : Formula} (h : t.isUpright = true) : t.met = t.inorder := by
  induction t with
  | operand => rfl
  | apply left op right ihl ihr =>
      simp only [isUpright, Bool.and_eq_true, Bool.or_eq_true, Bool.not_eq_true'] at h
      obtain ⟨⟨hleans, hleft⟩, hright⟩ := h
      rw [met, inorder, ihl hleft, ihr hright]
      split
      · rfl
      · rename_i hplain
        cases left with
        | operand =>
            cases right with
            | operand => simp [inorder]
            | apply => rcases hleans with h | h <;> cases h
        | apply => exact absurd rfl hplain

theorem met_of_isRightDeep {t : Formula} (h : t.isRightDeep = true) : t.met = t.inorder.reverse := by
  induction t with
  | operand => rfl
  | apply left op right _ ih =>
      simp only [isRightDeep, Bool.and_eq_true, Bool.not_eq_true'] at h
      cases left with
      | operand =>
          rw [met, ih h.2]
          cases op <;> simp [inorder]
      | apply => cases h.1

theorem runs_met {t : Formula} (h : t.isUpright = true ∨ t.isRightDeep = true) : runs t.met = runs t.inorder := by
  rcases h with h | h
  · rw [met_of_isUpright h]
  · rw [met_of_isRightDeep h, runs_reverse]

/-! ## Shapes that are not -/

/-- Some choice of operators for these operations is miscounted. -/
def Miscounted (t : Formula) : Prop :=
  ∃ u : Formula, u.shape = t.shape ∧ runs u.met ≠ runs u.inorder

theorem Miscounted.of_lists {t u : Formula} {xs ys : List Logical} (hshape : u.shape = t.shape) (hmet : u.met = xs)
    (hinorder : u.inorder = ys) (h : runs xs ≠ runs ys) : t.Miscounted :=
  ⟨u, hshape, by rwa [hmet, hinorder]⟩

/-- If the runs beside an operator are miscounted, so are those with one of the two operators. -/
theorem exists_operator (xs ys xs' ys' : List Logical)
    (hends : xs.getLast?.toList.length + ys.head?.toList.length = xs'.getLast?.toList.length + ys'.head?.toList.length)
    (h : runs xs + runs ys ≠ runs xs' + runs ys') : ∃ op, runs (xs ++ op :: ys) ≠ runs (xs' ++ op :: ys') := by
  have hxs := runs_between xs ys
  have hxs' := runs_between xs' ys'
  by_cases hand : runs (xs ++ .and :: ys) = runs (xs' ++ .and :: ys')
  · exact ⟨.or, by omega⟩
  · exact ⟨.and, hand⟩

/-- The two lists of a formula are both empty or neither. -/
theorem ends_met (t : Formula) : t.met.getLast?.toList.length = t.inorder.getLast?.toList.length ∧
    t.met.head?.toList.length = t.inorder.head?.toList.length ∧
    t.met.getLast?.toList.length = t.inorder.head?.toList.length := by
  have h := t.met_perm.length_eq
  cases hm : t.met with
  | nil =>
      rw [hm] at h
      rw [List.length_eq_zero_iff.mp h.symm]
      simp
  | cons a xs =>
      cases hi : t.inorder with
      | nil =>
          rw [hm, hi] at h
          cases h
      | cons b ys => simp [List.getLast?_cons]

theorem Miscounted.left {left : Formula} (h : left.Miscounted) (op : Option Logical) (right : Formula) :
    (apply left op right).Miscounted := by
  obtain ⟨u, hu, hne⟩ := h
  obtain ⟨op', hop⟩ := exists_operator u.met [] u.inorder [] (by simp [u.ends_met.1]) (by simpa using hne)
  -- The right operand gets no logical operators, so all runs are those of the left one and the operator between.
  refine ⟨apply u (some op') right.shape, by simp [shape, hu], ?_⟩
  cases u with
  | operand => exact absurd rfl hne
  | apply => simpa [met, inorder] using hop

theorem Miscounted.right {right : Formula} (h : right.Miscounted) (left : Formula) (op : Option Logical) :
    (apply left op right).Miscounted := by
  obtain ⟨u, hu, hne⟩ := h
  cases left with
  | operand =>
      obtain ⟨op', hop⟩ := exists_operator u.met [] [] u.inorder (by simp [u.ends_met.2.2]) (by simpa [runs] using hne)
      exact ⟨apply operand (some op') u, by simp [shape, hu], by simpa [met, inorder] using hop⟩
  | apply a x b =>
      obtain ⟨op', hop⟩ := exists_operator [] u.met [] u.inorder (by simp [u.ends_met.2.1]) (by simpa using hne)
      refine ⟨apply (apply a x b).shape (some op') u, by simp [shape, hu], ?_⟩
      rw [met, inorder, met_shape, inorder_shape, isOperation_shape]
      simpa using hop

theorem eq_of_isRightDeep {t : Formula} (hdeep : t.isRightDeep = true) (hleans : t.isUpright = false) :
    ∃ x y right, t = apply operand x (apply operand y right) := by
  cases t with
  | operand => cases hleans
  | apply left x right =>
      cases left with
      | apply => cases hdeep
      | operand =>
          cases right with
          | operand => cases hleans
          | apply left y right =>
              cases left with
              | apply => cases hdeep
              | operand => exact ⟨x, y, right, rfl⟩

theorem eq_of_isUpright {t : Formula} (hupright : t.isUpright = true) (hleft : t.isRightDeep = false) :
    ∃ left x middle y right, t = apply (apply left x middle) y right := by
  cases t with
  | operand => cases hleft
  | apply left y right =>
      cases left with
      | apply left x middle => exact ⟨left, x, middle, y, right, rfl⟩
      | operand =>
          cases right with
          | operand => cases hleft
          | apply => cases hupright

/-- A nested operation on the left whose operators are met backwards. -/
theorem miscounted_of_backward_left {left : Formula} (hdeep : left.isRightDeep = true) (hleans : left.isUpright = false)
    (op : Option Logical) (right : Formula) : (apply left op right).Miscounted := by
  obtain ⟨x, y, rest, rfl⟩ := eq_of_isRightDeep hdeep hleans
  let u := apply (apply operand (some .or) (apply operand (some .and) rest.shape)) (some .and) right.shape
  have hmet : u.met = [.and, .or, .and] := by simp [u, met]
  have hinorder : u.inorder = [.or, .and, .and] := by simp [u, inorder]
  exact .of_lists (by simp [u, shape]) hmet hinorder (by decide)

/-- A nested operation on the right whose operators are met backwards, after those of the left operand. -/
theorem miscounted_of_backward_right {left right : Formula} (hleft : left.isOperation = true)
    (hdeep : right.isRightDeep = true) (hleans : right.isUpright = false) (op : Option Logical) :
    (apply left op right).Miscounted := by
  obtain ⟨x, y, rest, rfl⟩ := eq_of_isRightDeep hdeep hleans
  let u := apply left.shape (some .and) (apply operand (some .and) (apply operand (some .or) rest.shape))
  have hmet : u.met = [.and, .or, .and] := by simp [u, met, hleft]
  have hinorder : u.inorder = [.and, .and, .or] := by simp [u, inorder]
  exact .of_lists (by simp [u, shape]) hmet hinorder (by decide)

/-- A nested operation on the right alone whose operators are met as they are written. -/
theorem miscounted_of_upright_right {right : Formula} (hupright : right.isUpright = true)
    (hleft : right.isRightDeep = false) (op : Option Logical) : (apply operand op right).Miscounted := by
  obtain ⟨left, x, middle, y, rest, rfl⟩ := eq_of_isUpright hupright hleft
  let u := apply operand (some .and) (apply (apply left.shape (some .or) middle.shape) (some .and) rest.shape)
  have hmet : u.met = [.or, .and, .and] := by simp [u, met]
  have hinorder : u.inorder = [.and, .or, .and] := by simp [u, inorder]
  exact .of_lists (by simp [u, shape]) hmet hinorder (by decide)

theorem miscounted_of_mixed {t : Formula} (hleans : t.isUpright = false) (hleft : t.isRightDeep = false) :
    t.Miscounted := by
  induction t with
  | operand => cases hleft
  | apply left op right ihl ihr =>
      by_cases hl : left.Miscounted
      · exact hl.left op right
      by_cases hr : right.Miscounted
      · exact hr.right left op
      -- What is left are two operands that are each counted right, but not in the same order.
      cases hru : right.isUpright with
      | false =>
          have hrd : right.isRightDeep = true := eq_true_of_ne_false fun h => hr (ihr hru h)
          cases left with
          | operand => simp [isRightDeep, hrd] at hleft
          | apply => exact miscounted_of_backward_right rfl hrd hru op
      | true =>
          cases left with
          | operand =>
              refine miscounted_of_upright_right hru ?_ op
              simpa [isRightDeep] using hleft
          | apply a x b =>
              have hlu : (apply a x b).isUpright = false := by
                simpa [isUpright.eq_2 _ op, hru] using hleans
              have hld : (apply a x b).isRightDeep = true := eq_true_of_ne_false fun h => hl (ihl hlu h)
              exact miscounted_of_backward_left hld hlu op right

end Formula

/-! ## Expressions -/

/-- The node is an expression with the operations of the formula, each with its operands and its operator between
them. -/
inductive Depicts (p : Program) : Node → Formula → Prop
  | operand {n : Node} (hkind : n.kind ≠ .binaryExpression) : Depicts p n .operand
  | apply {l o r : Node} {left right : Formula} {x y z : String} {start stop : Nat} {named missing : Bool}
    (hl : Depicts p l left) (hr : Depicts p r right) (hkind : o.kind ≠ .binaryExpression)
    (hx : p.nodeText l = .ok x) (hy : p.nodeText o = .ok y) (hz : p.nodeText r = .ok z)
    (hleft : Logical.ofText? x = none) (hright : Logical.ofText? z = none) :
    Depicts p (.mk .binaryExpression start stop [l, o, r] named missing) (.apply left (Logical.ofText? y) right)

variable {p : Program} {n : Node} {t : Formula}

theorem Depicts.kind_eq (h : Depicts p n t) : (n.kind == .binaryExpression) = t.isOperation := by
  cases h with
  | operand hkind => exact beq_eq_false_iff_ne.mpr hkind
  | apply => rfl

theorem joinOperators_operands {x y z : String} (hx : Logical.ofText? x = none) (hz : Logical.ofText? z = none)
    (left right : Formula) (below : Measured (List Logical)) :
    joinOperators [⟨x, left.isOperation, .ok left.met⟩, ⟨y, false, below⟩, ⟨z, right.isOperation, .ok right.met⟩] =
      .ok (Formula.apply left (Logical.ofText? y) right).met := by
  have hown : ([⟨x, left.isOperation, .ok left.met⟩, ⟨y, false, below⟩,
      ⟨z, right.isOperation, .ok right.met⟩].filterMap fun o : Operand => Logical.ofText? o.text).getLast? =
        Logical.ofText? y := by
    cases hy : Logical.ofText? y <;> simp [hx, hy, hz]
  rw [joinOperators, hown]
  cases left <;> cases right <;> simp [hx, hz, Formula.met] <;> rfl

/-- The operators of an expression are collected in the order in which they are met. -/
theorem Depicts.operators_eq (h : Depicts p n t) : operators p n = .ok t.met := by
  induction h with
  | @operand n hkind =>
      cases n
      exact if_neg (mt beq_iff_eq.mp hkind)
  | @apply l o r left right x y z _ _ _ _ hl hr hkind hx hy hz hleft hright ihl ihr =>
      have hmark : (o.kind == .binaryExpression) = false := beq_eq_false_iff_ne.mpr hkind
      rw [operators, if_pos (by rfl)]
      simp only [operands, hx, hy, hz, hl.kind_eq, hr.kind_eq, hmark, ihl, ihr]
      exact joinOperators_operands hleft hright left right _

theorem Depicts.sequences_eq (h : Depicts p n t) : sequences p n = .ok (runs t.met) := by
  rw [sequences, h.operators_eq]
  rfl

/-- A text with an operand and operators, under which every formula can be drawn. -/
def palette : Program :=
  .load "x+&&||".toList none

/-- Where the palette has the operator. -/
def Formula.mark : Option Logical → Node
  | none => .mk (.other "+") 1 2 [] false false
  | some .and => .mk (.other "&&") 2 4 [] false false
  | some .or => .mk (.other "||") 4 6 [] false false

def Formula.draw : Formula → Node
  | .operand => .mk .identifier 0 1 [] true false
  | .apply left op right => .mk .binaryExpression 0 2 [left.draw, mark op, right.draw] true false

theorem Formula.nodeText_draw (t : Formula) :
    ∃ x, palette.nodeText t.draw = .ok x ∧ Logical.ofText? x = none := by
  cases t with
  | operand => exact ⟨"x", rfl, rfl⟩
  | apply => exact ⟨"x+", rfl, rfl⟩

theorem Formula.nodeText_mark (op : Option Logical) :
    ∃ y, palette.nodeText (mark op) = .ok y ∧ Logical.ofText? y = op := by
  match op with
  | none => exact ⟨"+", rfl, rfl⟩
  | some .and => exact ⟨"&&", rfl, rfl⟩
  | some .or => exact ⟨"||", rfl, rfl⟩

theorem Formula.depicts_draw (t : Formula) : Depicts palette t.draw t := by
  induction t with
  | operand => exact .operand (by decide)
  | apply left op right ihl ihr =>
      obtain ⟨x, hx, hleft⟩ := left.nodeText_draw
      obtain ⟨y, hy, rfl⟩ := nodeText_mark op
      obtain ⟨z, hz, hright⟩ := right.nodeText_draw
      refine .apply ihl ihr ?_ hx hy hz hleft hright
      rcases Logical.ofText? y with _ | _ | _ <;> decide

/-- An expression costs the number of runs of its operators in the order in which they are met. Expressions of its
shape all cost the runs of their operators as they are written exactly if none of its operations has a right
operand alone that is an operation, or none has a left operand that is one. -/
theorem sequences_runs (h : Depicts p n t) :
    sequences p n = .ok (t.met.splitBy (· == ·)).length ∧
      ((∀ (q : Program) (m : Node) (u : Formula), Depicts q m u → u.shape = t.shape →
          sequences q m = .ok (u.inorder.splitBy (· == ·)).length) ↔
        t.isUpright = true ∨ t.isRightDeep = true) := by
  simp only [← runs_eq_length_splitBy]
  refine ⟨h.sequences_eq, fun hall => ?_, fun hshape q m u hu hut => ?_⟩
  · refine Classical.byContradiction fun hmixed => ?_
    rw [not_or, Bool.not_eq_true, Bool.not_eq_true] at hmixed
    obtain ⟨u, hut, hne⟩ := Formula.miscounted_of_mixed hmixed.1 hmixed.2
    have hright := hall palette u.draw u u.depicts_draw hut
    rw [u.depicts_draw.sequences_eq] at hright
    exact hne (Except.ok.inj hright)
  · rw [← t.isUpright_shape, ← t.isRightDeep_shape, ← hut, u.isUpright_shape, u.isRightDeep_shape] at hshape
    rw [hu.sequences_eq, Formula.runs_met hshape]

/-- The expression of the definition `int f(){return a||b&&c||d;}`. -/
def mixedReturn : Node :=
  .mk .binaryExpression 15 25 [
    .mk .binaryExpression 15 22 [
      .mk .identifier 15 16 [] true false, .mk (.other "||") 16 18 [] false false,
      .mk .binaryExpression 18 22 [
        .mk .identifier 18 19 [] true false, .mk (.other "&&") 19 21 [] false false,
        .mk .identifier 21 22 [] true false] true false] true false,
    .mk (.other "||") 22 24 [] false false, .mk .identifier 24 25 [] true false] true false

/-- The definition. -/
def mixed : Node :=
  .mk .functionDefinition 0 27 [
    .mk .primitiveType 0 3 [] true false,
    .mk .functionDeclarator 4 7 [.mk .identifier 4 5 [] true false, .mk .parameterList 5 7 [] true false] true false,
    .mk .compoundStatement 7 27 [
      .mk .returnStatement 8 26 [.mk (.other "return") 8 14 [] false false, mixedReturn] true false] true false]
    true false

def mixedProgram : Program :=
  .load "int f(){return a||b&&c||d;}".toList (some mixed)

def mixedFormula : Formula :=
  .apply (.apply .operand (some .or) (.apply .operand (some .and) .operand)) (some .or) .operand

theorem mixedReturn_depicts : Depicts mixedProgram mixedReturn mixedFormula := by
  refine .apply (x := "a||b&&c") (y := "||") (z := "d") ?_ (.operand ?_) ?_ rfl rfl rfl rfl rfl
  · refine .apply (x := "a") (y := "||") (z := "b&&c") (.operand ?_) ?_ ?_ rfl rfl rfl rfl rfl
    · decide
    · refine .apply (x := "b") (y := "&&") (z := "c") (.operand ?_) (.operand ?_) ?_ rfl rfl rfl rfl rfl
      all_goals decide
    · decide
  all_goals decide

/-- The conjunction is met before the first disjunction, so two runs are counted, and the shape is one that is
miscounted. -/
theorem sequences_runs_mixed :
    Depicts mixedProgram mixedReturn mixedFormula ∧ sequences mixedProgram mixedReturn = .ok 2 ∧
      ¬ ∀ (q : Program) (m : Node) (u : Formula), Depicts q m u → u.shape = mixedFormula.shape →
          sequences q m = .ok (u.inorder.splitBy (· == ·)).length := by
  obtain ⟨hcount, hiff⟩ := sequences_runs mixedReturn_depicts
  refine ⟨mixedReturn_depicts, hcount, fun hall => ?_⟩
  exact absurd (hiff.mp hall) (by decide)

/-- Two runs are counted in the function, and three are written. -/
theorem mixed_miscounted :
    (Function.all mixedProgram).toOption.map (·.map fun f => (cognitive mixedProgram f).toOption) = some [some 2] ∧
      (sequences mixedProgram mixedReturn).toOption = some 2 ∧ Depicts mixedProgram mixedReturn mixedFormula ∧
      (mixedFormula.inorder.splitBy (· == ·)).length = 3 :=
  ⟨by decide +kernel, by decide +kernel, mixedReturn_depicts, by decide +kernel⟩

end EsqlAudit.Complexity
