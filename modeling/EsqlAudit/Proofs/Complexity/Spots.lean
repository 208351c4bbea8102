import EsqlAudit.Complexity.Session
import EsqlAudit.Proofs.Outcome

/-!
# What each node of a body costs

The cost of a body and its burdens are worked out by two recursions. Both are sums over the nodes of its tree, and what
a node adds is told by the kinds of the nodes above it: whether it is looked at, how deep it stands, and whether it is a
part of a structure.
-/

namespace EsqlAudit.Syntax

/-- A node of a tree with the kinds of the nodes above it, nearest first. -/
structure Spot where
  above : List Kind
  node : Node

namespace Node

mutual
/-- The node and all below it, parents first, when the nodes of the kinds `above` stand above it. -/
def spots (above : List Kind) : Node → List Spot
  | mk k s e cs n m => ⟨above, mk k s e cs n m⟩ :: spotsAll (k :: above) cs
/-- The spots of several trees one after the other. -/
def spotsAll (above : List Kind) : List Node → List Spot
  | [] => []
  | c :: cs => spots above c ++ spotsAll above cs
end

mutual
theorem map_node_spots (above : List Kind) : (n : Node) → (n.spots above).map Spot.node = n.walk
  | mk k s e cs n m => by rw [spots, List.map_cons, map_node_spotsAll, walk]
theorem map_node_spotsAll (above : List Kind) : (ns : List Node) → (spotsAll above ns).map Spot.node = walkAll ns
  | [] => rfl
  | c :: cs => by rw [spotsAll, List.map_append, map_node_spots above c, map_node_spotsAll above cs, walkAll]
end

end Node

end EsqlAudit.Syntax

namespace EsqlAudit.Complexity
open Syntax

/-! ## Sums -/

/-- The sum of what the items add, or the first fault. -/
def sumOver {α : Type} (f : α → Measured Nat) : List α → Measured Nat
  | [] => .ok 0
  | a :: rest =>
    match f a with
    | .error e => .error e
    | .ok n => (sumOver f rest).map (n + ·)

section Sums

variable {α : Type} {f : α → Measured Nat} {a : α} {xs ys : List α} {n m : Nat}

theorem sumOver_cons_error {e : Utf8.Fault} (h : f a = .error e) : sumOver f (a :: xs) = .error e := by
  rw [sumOver, h]

theorem sumOver_cons_of_ok (h : f a = .ok n) : sumOver f (a :: xs) = (sumOver f xs).map (n + ·) := by
  rw [sumOver, h]

theorem sumOver_cons_ok_iff : sumOver f (a :: xs) = .ok n ↔
    ∃ k m, f a = .ok k ∧ sumOver f xs = .ok m ∧ k + m = n := by
  constructor
  · intro h
    cases ha : f a with
    | error e =>
        rw [sumOver_cons_error ha] at h
        cases h
    | ok k =>
        rw [sumOver_cons_of_ok ha] at h
        obtain ⟨m, hm, hsum⟩ := of_map_ok h
        exact ⟨k, m, rfl, hm, hsum⟩
  · rintro ⟨k, m, hk, hm, rfl⟩
    rw [sumOver_cons_of_ok hk, hm]
    rfl

theorem sumOver_append (f : α → Measured Nat) (xs ys : List α) : sumOver f (xs ++ ys) =
    match sumOver f xs with
    | .error e => .error e
    | .ok n => (sumOver f ys).map (n + ·) := by
  induction xs with
  | nil =>
      rw [List.nil_append, sumOver]
      cases sumOver f ys with
      | error e => rfl
      | ok n => exact congrArg Except.ok (Nat.zero_add n).symm
  | cons a xs ih =>
      rw [List.cons_append]
      cases ha : f a with
      | error e => rw [sumOver_cons_error ha, sumOver_cons_error ha]
      | ok k =>
          rw [sumOver_cons_of_ok ha, sumOver_cons_of_ok ha, ih]
          cases sumOver f xs with
          | error e => rfl
          | ok n =>
              cases sumOver f ys with
              | error e => rfl
              | ok m => exact congrArg Except.ok (Nat.add_assoc k n m).symm

theorem sumOver_eq_zero (h : ∀ x ∈ xs, f x = .ok 0) : sumOver f xs = .ok 0 := by
  induction xs with
  | nil => rfl
  | cons a xs ih =>
      rw [sumOver_cons_of_ok (h a List.mem_cons_self), ih fun x hx => h x (List.mem_cons_of_mem a hx)]
      rfl

end Sums

/-! ## Where a node stands -/

/-- Kinds below which the cost looks at nothing. -/
def hides : Kind → Bool
  | .binaryExpression | .gotoStatement | .breakStatement | .continueStatement => true
  | _ => false

/-- Whether the nearest node above is a structure. -/
def underStructure (above : List Kind) : Bool :=
  above.head?.any isNesting

/-- Whether a node of the kind is one level deeper than the nearest node above it: the body of a structure, and what
stands in its `else` unless it is a further `if`. -/
def deepens (k : Kind) : List Kind → Bool
  | [] => false
  | a :: above =>
    (isNesting a && k == .compoundStatement) || (a == .elseClause && underStructure above && k != .ifStatement)

/-- How many levels deep a node of the kind stands. -/
def depth : Kind → List Kind → Nat
  | _, [] => 0
  | k, a :: above => depth a above + if deepens k (a :: above) then 1 else 0

/-- Whether the cost leaves the node out: it stands below a node that hides it, or it is an `else` outside a
structure. -/
def isLeftOut (s : Spot) : Bool :=
  s.above.any hides || (s.node.kind == .elseClause && !underStructure s.above)

/-- What a node that is counted weighs at a level: a structure weighs one and its level. -/
def weight (p : Program) (level : Nat) (n : Node) : Measured Nat :=
  if isNesting n.kind then .ok (1 + level)
  else
    match n.kind with
    | .caseStatement | .elseClause | .gotoStatement => .ok 1
    | .breakStatement | .continueStatement => .ok (if namesLabel n.children then 1 else 0)
    | .binaryExpression => sequences p n
    | _ => .ok 0

/-- What a node costs where it stands when the tree stands at a level. -/
def charge (p : Program) (level : Nat) (s : Spot) : Measured Nat :=
  if isLeftOut s then .ok 0 else weight p (level + depth s.node.kind s.above) s.node

section Depth

variable {k a : Kind} {above : List Kind}

theorem not_hides_of_isNesting (h : isNesting k = true) : hides k = false := by
  cases k <;> first | rfl | cases h

theorem depth_of_not_deepens (h : deepens k (a :: above) = false) : depth k (a :: above) = depth a above := by
  simp [depth, h]

theorem depth_of_deepens (h : deepens k (a :: above) = true) : depth k (a :: above) = depth a above + 1 := by
  simp [depth, h]

end Depth

/-! ## The cost as a sum -/

variable {p : Program}

theorem charge_of_hidden {level : Nat} {s : Spot} (h : s.above.any hides = true) : charge p level s = .ok 0 := by
  rw [charge, isLeftOut, h, Bool.true_or, if_pos rfl]

mutual
theorem mem_spots_above {above : List Kind} {s : Spot} : (n : Node) → s ∈ n.spots above → above <:+ s.above
  | .mk k a b cs c d, hs => by
      rcases List.mem_cons.mp hs with rfl | hs
      · exact List.suffix_rfl
      · exact (List.suffix_cons k above).trans (mem_spotsAll_above cs hs)
theorem mem_spotsAll_above {above : List Kind} {s : Spot} : (ns : List Node) → s ∈ Node.spotsAll above ns →
    above <:+ s.above
  | c :: cs, hs => by
      rcases List.mem_append.mp hs with hs | hs
      · exact mem_spots_above c hs
      · exact mem_spotsAll_above cs hs
end

/-- Nothing costs anything below a node that hides it. -/
theorem sumOver_hidden {level : Nat} {above : List Kind} (h : above.any hides = true) (ns : List Node) :
    sumOver (charge p level) (Node.spotsAll above ns) = .ok 0 := by
  refine sumOver_eq_zero fun s hs => charge_of_hidden ?_
  obtain ⟨k, hk, hhides⟩ := List.any_eq_true.mp h
  exact List.any_eq_true.mpr ⟨k, (mem_spotsAll_above ns hs).subset hk, hhides⟩

section Charge

variable {n : Node} {kind k : Kind} {above : List Kind}

theorem charge_of_counted (p : Program) (level : Nat) (hseen : above.any hides = false)
    (helse : n.kind = .elseClause → underStructure above = true) :
    charge p level ⟨above, n⟩ = weight p (level + depth n.kind above) n := by
  have hcounted : isLeftOut ⟨above, n⟩ = false := by
    by_cases h : n.kind = .elseClause
    · simp [isLeftOut, hseen, helse h]
    · simp [isLeftOut, hseen, h]
  rw [charge, hcounted]
  rfl

theorem weight_structure (p : Program) (level : Nat) (hk : isNesting n.kind = true) :
    weight p level n = .ok (1 + level) :=
  if_pos hk

theorem weight_level (p : Program) (hk : isNesting n.kind = false) (level level' : Nat) :
    weight p level n = weight p level' n := by
  rw [weight, weight, if_neg (Bool.eq_false_iff.mp hk), if_neg (Bool.eq_false_iff.mp hk)]

theorem cost_of_hides (p : Program) (level : Nat) (h : hides n.kind = true) : cost p level n = weight p level n := by
  obtain ⟨kind, start, stop, children, named, missing⟩ := n
  rw [cost.eq_def]
  cases kind <;> first | rfl | cases h

/-- A node that is neither a structure nor hides what is below it costs what it is by itself and what its children
cost. -/
theorem cost_plain (p : Program) (level : Nat) (hseen : above.any hides = false) (hk : isNesting n.kind = false)
    (hh : hides n.kind = false) (helse : n.kind = .elseClause → underStructure above = false) :
    ∃ own, charge p level ⟨above, n⟩ = .ok own ∧ ∀ l, cost p l n = (costAll p l n.children).map (own + ·) := by
  by_cases hcase : n.kind = .caseStatement
  · refine ⟨1, ?_, fun l => ?_⟩
    · rw [charge_of_counted p level hseen (by simp [hcase]), weight, hcase]
      rfl
    · obtain ⟨kind, start, stop, children, named, missing⟩ := n
      subst hcase
      rw [cost.eq_def]
      rfl
  · refine ⟨0, ?_, fun l => ?_⟩
    · by_cases h : n.kind = .elseClause
      · simp [charge, isLeftOut, h, helse h]
      · rw [charge_of_counted p level hseen (absurd · h), weight, if_neg (Bool.eq_false_iff.mp hk)]
        split <;> simp_all [hides]
    · obtain ⟨kind, start, stop, children, named, missing⟩ := n
      have hcost : cost p l (.mk kind start stop children named missing) = costAll p l children := by
        rw [Node.kind] at hk hh hcase
        rw [cost.eq_def]
        dsimp only
        rw [if_neg (Bool.eq_false_iff.mp hk)]
        split <;> first | rfl | contradiction
      rw [hcost, Node.children]
      cases costAll p l children with
      | error e => rfl
      | ok n => exact congrArg Except.ok (Nat.zero_add n).symm

theorem any_hides_cons (hk : hides k = false) (h : above.any hides = false) : (k :: above).any hides = false := by
  simp [hk, h]

theorem depth_plain (hk : isNesting k = false) (helse : k = .elseClause → underStructure above = false) :
    depth kind (k :: above) = depth k above := by
  apply depth_of_not_deepens
  by_cases h : k = .elseClause
  · simp [deepens, hk, helse h]
  · simp [deepens, hk, h]

theorem ne_else_of_isNesting (hk : isNesting k = true) : k ≠ .elseClause := by
  rintro rfl
  cases hk

theorem ne_else_of_hides (hk : hides k = true) : k ≠ .elseClause := by
  rintro rfl
  cases hk

theorem depth_part (hk : isNesting k = true) :
    depth kind (k :: above) = depth k above + if kind == .compoundStatement then 1 else 0 := by
  simp [depth, deepens, hk, ne_else_of_isNesting hk]

theorem depth_else_part (hk : isNesting k = true) :
    depth kind (.elseClause :: k :: above) = depth k above + if kind == .ifStatement then 0 else 1 := by
  have helse : depth .elseClause (k :: above) = depth k above := depth_part hk
  have hplain : isNesting .elseClause = false := rfl
  rw [depth, helse]
  by_cases h : kind = .ifStatement <;> simp [deepens, underStructure, hplain, hk, h]

end Charge

mutual
/-- The cost of a node is the sum of what it and the nodes below it cost where they stand. An `else` that is a part of a
structure is counted with the structure. -/
theorem cost_eq (level : Nat) : (n : Node) → (above : List Kind) → above.any hides = false →
    (n.kind = .elseClause → underStructure above = false) →
    cost p (level + depth n.kind above) n = sumOver (charge p level) (n.spots above)
  | .mk kind start stop children named missing, above, hseen, helse => by
      rw [Node.kind] at helse ⊢
      rw [Node.spots]
      have hcounted := charge_of_counted (n := .mk kind start stop children named missing) p level hseen
      cases hk : isNesting kind with
      | true =>
          have hcharge := (hcounted (absurd · (ne_else_of_isNesting hk))).trans (weight_structure p _ hk)
          have hinside := any_hides_cons (not_hides_of_isNesting hk) hseen
          rw [sumOver_cons_of_ok hcharge, Node.kind, ← costInside_eq level kind above hinside hk children, cost.eq_def]
          exact if_pos hk
      | false =>
          cases hh : hides kind with
          | true =>
              have hcost := cost_of_hides (n := .mk kind start stop children named missing) p
                  (level + depth kind above) hh
              rw [hcost, sumOver, hcounted (absurd · (ne_else_of_hides hh)), Node.kind, sumOver_hidden (by simp [hh])]
              cases weight p (level + depth kind above) (.mk kind start stop children named missing) <;> rfl
          | false =>
              obtain ⟨own, hcharge, hcost⟩ :=
                cost_plain (n := .mk kind start stop children named missing) p level hseen hk hh helse
              rw [hcost, sumOver_cons_of_ok hcharge, Node.children,
                costAll_eq level kind above (any_hides_cons hh hseen) hk helse children]
theorem costAll_eq (level : Nat) (k : Kind) (above : List Kind) (hseen : (k :: above).any hides = false)
    (hk : isNesting k = false) (helse : k = .elseClause → underStructure above = false) : (ns : List Node) →
    costAll p (level + depth k above) ns = sumOver (charge p level) (Node.spotsAll (k :: above) ns)
  | [] => rfl
  | c :: rest => by
      have hc := cost_eq level c (k :: above) hseen fun _ => hk
      rw [depth_plain hk helse] at hc
      rw [Node.spotsAll, sumOver_append, ← hc, ← costAll_eq level k above hseen hk helse rest]
      exact costAll.eq_2 p _ c rest
theorem costInside_eq (level : Nat) (k : Kind) (above : List Kind) (hseen : (k :: above).any hides = false)
    (hk : isNesting k = true) : (ns : List Node) →
    costInside p (level + depth k above) ns = sumOver (charge p level) (Node.spotsAll (k :: above) ns)
  | [] => rfl
  | .mk kind start stop children named missing :: rest => by
      have hrest := costInside_eq level k above hseen hk rest
      rw [Node.spotsAll, sumOver_append, ← hrest, costInside]
      by_cases helse : kind = .elseClause
      · subst helse
        have hcharge : charge p level ⟨k :: above, .mk .elseClause start stop children named missing⟩ = .ok 1 :=
          charge_of_counted p level hseen fun _ => hk
        rw [Node.spots, sumOver_cons_of_ok hcharge, ← costElse_eq level k above hseen hk children]
        rfl
      · have hc := cost_eq level (.mk kind start stop children named missing) (k :: above) hseen (absurd · helse)
        rw [Node.kind, depth_part hk] at hc
        rw [← hc]
        by_cases hcompound : kind = .compoundStatement
        · subst hcompound
          rfl
        · simp only [beq_eq_false_iff_ne.mpr hcompound, beq_eq_false_iff_ne.mpr helse]
          rfl
theorem costElse_eq (level : Nat) (k : Kind) (above : List Kind) (hseen : (k :: above).any hides = false)
    (hk : isNesting k = true) : (ns : List Node) →
    costElse p (level + depth k above) ns = sumOver (charge p level) (Node.spotsAll (.elseClause :: k :: above) ns)
  | [] => rfl
  | c :: rest => by
      have helse : (Kind.elseClause :: k :: above).any hides = false := any_hides_cons rfl hseen
      have hc := cost_eq level c (.elseClause :: k :: above) helse fun _ => rfl
      have hlevel : level + depth c.kind (.elseClause :: k :: above) =
          if c.kind == .ifStatement then level + depth k above else level + depth k above + 1 := by
        rw [depth_else_part hk]
        split <;> rfl
      rw [hlevel] at hc
      rw [Node.spotsAll, sumOver_append, ← hc, ← costElse_eq level k above hseen hk rest]
      exact costElse.eq_2 p _ c rest
end

/-! ## The body of a function -/

theorem kind_of_body {n body : Node} (h : body? n = some body) : body.kind = .compoundStatement := by
  rw [body?, Node.child?] at h
  exact beq_iff_eq.mp (List.find?_some h :)

theorem cost_body {n body : Node} (h : body? n = some body) (p : Program) (level : Nat) :
    cost p level body = sumOver (charge p level) (body.spots []) :=
  cost_eq level body [] rfl (by simp [kind_of_body h])

theorem measureCognitive_start (p : Program) (f : Function) :
    ((Session.start p).measureCognitive f).1 = cognitive p f :=
  Memo.consult_empty f.name (cognitive p f)

end EsqlAudit.Complexity
