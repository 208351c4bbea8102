import Mathlib.Data.Nat.Choose.Basic
import EsqlAudit.Proofs.Complexity.Structures

/-!
# The cost at other levels

Code that stands one level deeper costs one more for each of its structures that is not hidden, and nothing else
changes. So structures in each other's blocks cost more the more of them there are, while each branch of a chain
of `else if` costs the same.
-/

namespace EsqlAudit.Complexity
open Syntax

variable {p : Program}

/-! ## One level deeper -/

/-- How many structures of a tree are not hidden. -/
def exposed (n : Node) : Nat :=
  structures ((n.spots []).filter fun s => !isHidden s)

theorem cost_eq_sumOver (p : Program) (level : Nat) (n : Node) :
    cost p level n = sumOver (charge p level) (n.spots []) :=
  cost_eq level n [] rfl fun _ => rfl

theorem charge_level (p : Program) (level : Nat) (s : Spot) :
    charge p level s = (charge p 0 s).map (· + level * if !isHidden s && isNesting s.node.kind then 1 else 0) := by
  rw [charge, charge]
  cases hout : isLeftOut s with
  | true =>
      have hnone : (!isHidden s && isNesting s.node.kind) = false := by
        rw [isLeftOut, Bool.or_eq_true, Bool.and_eq_true] at hout
        rcases hout with hhidden | ⟨helse, -⟩
        · simp [isHidden, hhidden]
        · simp [beq_iff_eq.mp helse, isNesting]
      rw [hnone]
      rfl
  | false =>
      have hseen : isHidden s = false := (Bool.or_eq_false_iff.mp hout).1
      rw [if_neg Bool.false_ne_true, if_neg Bool.false_ne_true, hseen]
      cases hk : isNesting s.node.kind with
      | true =>
          rw [weight_structure p _ hk, weight_structure p _ hk]
          refine congrArg Except.ok ?_
          simp only [Bool.not_false, Bool.and_self, if_true]
          omega
      | false =>
          rw [weight_level p hk (level + _) (0 + _)]
          cases weight p (0 + depth s.node.kind s.above) s.node <;> rfl

theorem sumOver_charge_level (p : Program) (level : Nat) (ss : List Spot) :
    sumOver (charge p level) ss =
      (sumOver (charge p 0) ss).map (· + level * structures (ss.filter fun s => !isHidden s)) := by
  induction ss with
  | nil => rfl
  | cons s ss ih =>
      have hs := charge_level p level s
      cases hcharge : charge p 0 s with
      | error e =>
          rw [hcharge] at hs
          rw [sumOver_cons_error hs, sumOver_cons_error hcharge]
          rfl
      | ok c =>
          rw [hcharge] at hs
          rw [sumOver_cons_of_ok hs, sumOver_cons_of_ok hcharge, ih, structures_seen_cons, Nat.mul_add]
          cases sumOver (charge p 0) ss with
          | error e => rfl
          | ok rest =>
              refine congrArg Except.ok ?_
              dsimp only
              omega

theorem cost_level (p : Program) (level : Nat) (n : Node) :
    cost p level n = (cost p 0 n).map (· + level * exposed n) := by
  rw [cost_eq_sumOver, cost_eq_sumOver, sumOver_charge_level]
  rfl

/-- The cost of a tree that can be read is worked out at every level. It is the cost at the outermost level and,
for each level, the number of structures that are not hidden; so it never falls from a level to the next, and
rises by just that number. -/
theorem cost_affine (p : Program) {n : Node} (h : p.Reads n) :
    ∃ base, cost p 0 n = .ok base ∧ (∀ k, cost p k n = .ok (base + k * exposed n)) ∧
      ∀ k total, cost p k n = .ok total →
        ∃ deeper, cost p (k + 1) n = .ok deeper ∧ total ≤ deeper ∧ deeper = total + exposed n := by
  obtain ⟨base, hbase⟩ := cost_ok 0 n h
  have hlevel : ∀ k, cost p k n = .ok (base + k * exposed n) := by
    intro k
    rw [cost_level, hbase]
    rfl
  refine ⟨base, hbase, hlevel, fun k total htotal => ?_⟩
  rw [hlevel k] at htotal
  cases htotal
  refine ⟨_, hlevel (k + 1), ?_, ?_⟩
  · rw [Nat.succ_mul]
    omega
  · rw [Nat.succ_mul, Nat.add_assoc]

/-- The statement `if(a){x=1+(b?2:3);}else if(c){while(d){}}`, with one structure below an expression. -/
def loopInElse : Node :=
  .mk .ifStatement 0 41 [
    .mk (.other "if") 0 2 [] false false, .mk .identifier 3 4 [] true false,
    .mk .compoundStatement 5 19 [
      .mk .expressionStatement 6 18 [
        .mk .assignmentExpression 6 17 [
          .mk .identifier 6 7 [] true false, .mk (.other "=") 7 8 [] false false,
          .mk .binaryExpression 8 17 [
            .mk .numberLiteral 8 9 [] true false, .mk (.other "+") 9 10 [] false false,
            .mk .parenthesizedExpression 10 17 [
              .mk .conditionalExpression 11 16 [
                .mk .identifier 11 12 [] true false, .mk (.other "?") 12 13 [] false false,
                .mk .numberLiteral 13 14 [] true false, .mk .numberLiteral 15 16 [] true false] true false] true false]
            true false] true false] true false] true false,
    .mk .elseClause 19 41 [
      .mk (.other "else") 19 23 [] false false,
      .mk .ifStatement 24 41 [
        .mk (.other "if") 24 26 [] false false, .mk .identifier 27 28 [] true false,
        .mk .compoundStatement 29 41 [
          .mk .whileStatement 30 40 [
            .mk (.other "while") 30 35 [] false false, .mk .identifier 36 37 [] true false,
            .mk .compoundStatement 38 40 [] true false] true false] true false] true false] true false] true false

/-- Three of the four structures are not hidden. -/
theorem cost_affine_loop_in_else :
    let p := Program.load "if(a)\x7bx=1+(b?2:3);\x7delse if(c)\x7bwhile(d)\x7b\x7d\x7d".toList (some loopInElse)
    p.Reads loopInElse ∧ (loopInElse.walk.countP fun m => isNesting m.kind) = 4 ∧ exposed loopInElse = 3 ∧
      ∃ base, cost p 0 loopInElse = .ok base ∧ cost p 7 loopInElse = .ok (base + 7 * 3) := by
  intro p
  have hread : p.Reads loopInElse := Program.readable_of_isOk (p := p) (by decide +kernel)
  obtain ⟨base, hbase, hlevel, -⟩ := cost_affine p hread
  have hexposed : exposed loopInElse = 3 := by decide +kernel
  have hseven := hlevel 7
  rw [hexposed] at hseven
  exact ⟨hread, by decide +kernel, hexposed, base, hbase, hseven⟩

/-! ## Code that costs nothing -/

/-- The code of the node costs nothing. -/
def IsFree (p : Program) (n : Node) : Prop :=
  cost p 0 n = .ok 0

/-- Where nothing is to pay there is no structure, so nothing is to pay at a deeper level either. -/
theorem IsFree.cost_eq {n : Node} (h : IsFree p n) (level : Nat) : cost p level n = .ok 0 := by
  have hsum : sumOver (charge p 0) (n.spots []) = .ok 0 := (cost_eq_sumOver p 0 n).symm.trans h
  obtain ⟨extra, -, htotal⟩ := sumOver_charge_eq hsum
  have hnone : exposed n = 0 := by
    rw [exposed]
    omega
  rw [cost_level, h, hnone]
  rfl

theorem sumOver_alone {α : Type} {f : α → Measured Nat} {before after : List α}
    (h : ∀ x ∈ before ++ after, f x = .ok 0) (a : α) : sumOver f (before ++ a :: after) = f a := by
  obtain ⟨hbefore, hafter⟩ := List.forall_mem_append.mp h
  rw [sumOver_append, sumOver_eq_zero hbefore]
  cases ha : f a with
  | error e =>
      rw [sumOver_cons_error ha]
      rfl
  | ok n =>
      rw [sumOver_cons_of_ok ha, sumOver_eq_zero hafter]
      exact congrArg Except.ok (Nat.zero_add n)

/-! ## The parts of a structure -/

/-- What a part of a structure costs when the structure stands at a level. -/
def costPart (p : Program) (level : Nat) (n : Node) : Measured Nat :=
  if n.kind == .compoundStatement then cost p (level + 1) n
  else if n.kind == .elseClause then (costElse p level n.children).map (1 + ·)
  else cost p level n

theorem costAll_eq_sumOver (p : Program) (level : Nat) (ns : List Node) :
    costAll p level ns = sumOver (cost p level) ns := by
  induction ns with
  | nil => rfl
  | cons c rest ih =>
      rw [sumOver, ← ih]
      exact costAll.eq_2 p level c rest

theorem costInside_eq_sumOver (p : Program) (level : Nat) (ns : List Node) :
    costInside p level ns = sumOver (costPart p level) ns := by
  induction ns with
  | nil => rfl
  | cons c rest ih =>
      obtain ⟨kind, start, stop, children, named, missing⟩ := c
      rw [sumOver, ← ih]
      exact costInside.eq_2 p level kind start stop children named missing rest

theorem costElse_eq_sumOver (p : Program) (level : Nat) (ns : List Node) :
    costElse p level ns = sumOver (fun c => cost p (if c.kind == .ifStatement then level else level + 1) c) ns := by
  induction ns with
  | nil => rfl
  | cons c rest ih =>
      rw [sumOver, ← ih]
      exact costElse.eq_2 p level c rest

section Parts

variable {n : Node}

theorem cost_structure (p : Program) (level : Nat) (hk : isNesting n.kind = true) :
    cost p level n = (sumOver (costPart p level) n.children).map (1 + level + ·) := by
  obtain ⟨kind, start, stop, children, named, missing⟩ := n
  rw [cost.eq_def, Node.children, ← costInside_eq_sumOver]
  exact if_pos hk

theorem cost_block (p : Program) (level : Nat) (hk : n.kind = .compoundStatement) :
    cost p level n = sumOver (cost p level) n.children := by
  obtain ⟨kind, start, stop, children, named, missing⟩ := n
  obtain rfl : kind = .compoundStatement := hk
  rw [cost.eq_def, Node.children, ← costAll_eq_sumOver]
  rfl

theorem costPart_block (p : Program) (level : Nat) (hk : n.kind = .compoundStatement) :
    costPart p level n = cost p (level + 1) n := by
  simp [costPart, hk]

theorem costPart_else (p : Program) (level : Nat) (hk : n.kind = .elseClause) :
    costPart p level n =
      (sumOver (fun c => cost p (if c.kind == .ifStatement then level else level + 1) c) n.children).map (1 + ·) := by
  simp [costPart, hk, costElse_eq_sumOver]

/-- A condition, a block or a mark that costs nothing as a part of a structure. An `else` always costs something. -/
structure IsFreePart (p : Program) (n : Node) : Prop where
  free : IsFree p n
  no_else : n.kind ≠ .elseClause

theorem IsFreePart.costPart_eq (h : IsFreePart p n) (level : Nat) : costPart p level n = .ok 0 := by
  rw [costPart, if_neg (mt beq_iff_eq.mp h.no_else)]
  split
  · exact h.free.cost_eq (level + 1)
  · exact h.free.cost_eq level

end Parts

/-! ## Structures in each other -/

/-- So many structures stand in each other: each but the outermost is in the block of the one around it, and all
else that stands beside them costs nothing. -/
inductive Nested (p : Program) : Nat → Node → Prop
  | bare {n : Node} : IsFree p n → Nested p 0 n
  | inBlock {d : Nat} {block inner : Node} {before after : List Node} : block.kind = .compoundStatement →
      block.children = before ++ inner :: after → (∀ n ∈ before ++ after, IsFree p n) → Nested p d inner →
      Nested p d block
  | inStructure {d : Nat} {outer block : Node} {before after : List Node} : isNesting outer.kind = true →
      outer.children = before ++ block :: after → (∀ n ∈ before ++ after, IsFreePart p n) →
      block.kind = .compoundStatement → Nested p d block → Nested p (d + 1) outer

theorem Nested.cost_eq {d : Nat} {n : Node} (h : Nested p d n) (level : Nat) :
    cost p level n = .ok (d * (level + 1) + d * (d - 1) / 2) := by
  induction h generalizing level with
  | bare hfree => simpa using hfree.cost_eq level
  | inBlock hkind hchildren hfree _ ih =>
      rw [cost_block p level hkind, hchildren, sumOver_alone fun n hn => (hfree n hn).cost_eq level, ih]
  | @inStructure d outer block before after hk hchildren hfree hblock _ ih =>
      rw [cost_structure p level hk, hchildren, sumOver_alone fun n hn => (hfree n hn).costPart_eq level,
        costPart_block p level hblock, ih]
      -- The block is a level deeper, so each of the `d` structures in it costs one more.
      refine congrArg Except.ok ?_
      rw [Nat.triangle_succ, Nat.mul_succ d, Nat.succ_mul d]
      dsimp only
      omega

/-! ## Chains -/

/-- An `if` with so many further `else if` branches, and with a last `else` or without one, all of whose conditions and
blocks cost nothing. -/
inductive Chained (p : Program) : Nat → Bool → Node → Prop
  | last {branch : Node} : branch.kind = .ifStatement → (∀ n ∈ branch.children, IsFreePart p n) →
      Chained p 0 false branch
  | lastElse {branch other : Node} {before after : List Node} : branch.kind = .ifStatement →
      branch.children = before ++ other :: after → (∀ n ∈ before ++ after, IsFreePart p n) →
      other.kind = .elseClause → (∀ n ∈ other.children, IsFree p n) → Chained p 0 true branch
  | elseIf {m : Nat} {final : Bool} {branch other next : Node} {before after front back : List Node} :
      branch.kind = .ifStatement → branch.children = before ++ other :: after →
      (∀ n ∈ before ++ after, IsFreePart p n) → other.kind = .elseClause → other.children = front ++ next :: back →
      (∀ n ∈ front ++ back, IsFree p n) → Chained p m final next → Chained p (m + 1) final branch

theorem Chained.kind_eq {m : Nat} {final : Bool} {n : Node} (h : Chained p m final n) : n.kind = .ifStatement := by
  cases h <;> assumption

theorem cost_branch {branch other : Node} {before after : List Node} (level : Nat) (hk : branch.kind = .ifStatement)
    (hchildren : branch.children = before ++ other :: after) (hfree : ∀ n ∈ before ++ after, IsFreePart p n)
    (hother : other.kind = .elseClause) :
    cost p level branch =
      ((sumOver (fun c => cost p (if c.kind == .ifStatement then level else level + 1) c)
        other.children).map (1 + ·)).map (1 + level + ·) := by
  rw [cost_structure p level (by rw [hk]; rfl), hchildren, sumOver_alone fun n hn => (hfree n hn).costPart_eq level,
    costPart_else p level hother]

theorem Chained.cost_eq {m : Nat} {final : Bool} {n : Node} (h : Chained p m final n) (level : Nat) :
    cost p level n = .ok ((m + 1) * (level + 1) + m + if final then 1 else 0) := by
  induction h with
  | last hk hfree =>
      rw [cost_structure p level (by rw [hk]; rfl), sumOver_eq_zero fun n hn => (hfree n hn).costPart_eq level]
      refine congrArg Except.ok ?_
      simp only [Bool.false_eq_true, if_false]
      omega
  | lastElse hk hchildren hfree hother hlast =>
      rw [cost_branch level hk hchildren hfree hother, sumOver_eq_zero fun n hn => (hlast n hn).cost_eq _]
      refine congrArg Except.ok ?_
      simp only [if_true]
      omega
  | @elseIf m final branch other next before after front back hk hchildren hfree hother hnext hbeside hchain ih =>
      rw [cost_branch level hk hchildren hfree hother, hnext, sumOver_alone fun n hn => (hbeside n hn).cost_eq _,
        hchain.kind_eq]
      -- A further `if` stays at the level of the `if` whose `else` it stands in.
      refine (congrArg _ (congrArg _ ih)).trans (congrArg Except.ok ?_)
      rw [Nat.succ_mul (m + 1)]
      dsimp only
      omega

/-- Structures in each other cost quadratically, chains of `else if` linearly. -/
theorem cost_nested_chained (p : Program) (k : Nat) :
    (∀ n node, Nested p n node → cost p k node = .ok (n * (k + 1) + n * (n - 1) / 2)) ∧
      ∀ m final node, Chained p m final node → cost p k node = .ok ((m + 1) * (k + 1) + m + if final then 1 else 0) :=
  ⟨fun _ _ h => h.cost_eq k, fun _ _ _ h => h.cost_eq k⟩

/-- The statement `while(a){do{if(b){x=1;}}while(c);}`. -/
def threeDeep : Node :=
  .mk .whileStatement 0 34 [
    .mk (.other "while") 0 5 [] false false, .mk .identifier 6 7 [] true false,
    .mk .compoundStatement 8 34 [
      .mk .doStatement 9 31 [
        .mk (.other "do") 9 11 [] false false,
        .mk .compoundStatement 11 24 [
          .mk .ifStatement 12 23 [
            .mk (.other "if") 12 14 [] false false, .mk .identifier 15 16 [] true false,
            .mk .compoundStatement 17 23 [
              .mk .expressionStatement 18 22 [
                .mk .assignmentExpression 18 21 [
                  .mk .identifier 18 19 [] true false, .mk (.other "=") 19 20 [] false false,
                  .mk .numberLiteral 20 21 [] true false] true false] true false] true false] true false] true false,
        .mk .identifier 30 31 [] true false] true false] true false] true false

/-- The statement `if(a){}else if(b){}else{}`. -/
def threeWays : Node :=
  .mk .ifStatement 0 25 [
    .mk (.other "if") 0 2 [] false false, .mk .identifier 3 4 [] true false, .mk .compoundStatement 5 7 [] true false,
    .mk .elseClause 7 25 [
      .mk (.other "else") 7 11 [] false false,
      .mk .ifStatement 12 25 [
        .mk (.other "if") 12 14 [] false false, .mk .identifier 15 16 [] true false,
        .mk .compoundStatement 17 19 [] true false,
        .mk .elseClause 19 25 [
          .mk (.other "else") 19 23 [] false false, .mk .compoundStatement 23 25 [] true false] true false] true false]
      true false] true false

/-- Three structures in each other cost more than three branches of a chain. -/
theorem cost_nested_chained_three :
    let p := Program.none
    (Nested p 3 threeDeep ∧ cost p 2 threeDeep = .ok 12) ∧ Chained p 1 true threeWays ∧ cost p 2 threeWays = .ok 8 := by
  intro p
  obtain ⟨hnest, hchain⟩ := cost_nested_chained p 2
  have hmark : ∀ (s : String) (a b : Nat), IsFreePart p (.mk (.other s) a b [] false false) := fun _ _ _ => ⟨rfl, nofun⟩
  have hname : ∀ a b : Nat, IsFreePart p (.mk .identifier a b [] true false) := fun _ _ => ⟨rfl, nofun⟩
  have hblock : ∀ a b : Nat, IsFreePart p (.mk .compoundStatement a b [] true false) := fun _ _ => ⟨rfl, nofun⟩
  have hnested : Nested p 3 threeDeep := by
    refine @Nested.inStructure p _ _ _ [_, _] [] rfl rfl ?_ rfl (@Nested.inBlock p _ _ _ [] [] rfl rfl (by simp)
      (@Nested.inStructure p _ _ _ [_] [_] rfl rfl ?_ rfl (@Nested.inBlock p _ _ _ [] [] rfl rfl (by simp)
        (@Nested.inStructure p _ _ _ [_, _] [] rfl rfl ?_ rfl (.bare rfl)))))
    all_goals simp [hmark, hname]
  have hchained : Chained p 1 true threeWays := by
    refine @Chained.elseIf p _ _ _ _ _ [_, _, _] [] [_] [] rfl rfl ?_ rfl rfl ?_
      (@Chained.lastElse p _ _ [_, _, _] [] rfl rfl ?_ rfl ?_)
    · simp [hmark, hname, hblock]
    · simp [(hmark _ _ _).free]
    · simp [hmark, hname, hblock]
    · simp [Node.children, (hmark _ _ _).free, (hblock _ _).free]
  exact ⟨⟨hnested, hnest 3 _ hnested⟩, hchained, hchain 1 true _ hchained⟩

end EsqlAudit.Complexity
