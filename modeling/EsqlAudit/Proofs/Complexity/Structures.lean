import EsqlAudit.Proofs.Complexity.Readable
import EsqlAudit.Proofs.Complexity.Spots

/-!
# Structures and the complexity

Each structure of a body that is not hidden costs one, and the complexity is their number and a surcharge: the
levels at which they stand, and what other nodes cost. A structure below an expression or a jump costs nothing, so
the complexity may be less than the number of all structures.
-/

namespace EsqlAudit.Complexity
open Syntax

variable {p : Program}

/-- Whether an expression or a jump stands above the node. -/
def isHidden (s : Spot) : Bool :=
  s.above.any hides

/-- How many of the nodes are structures. -/
def structures (ss : List Spot) : Nat :=
  ss.countP fun s => isNesting s.node.kind

/-- What a node costs besides the one of a structure. -/
def surcharge (p : Program) (s : Spot) : Measured Nat :=
  if isLeftOut s then .ok 0
  else if isNesting s.node.kind then .ok (depth s.node.kind s.above)
  else weight p 0 s.node

theorem structures_spots (n : Node) : structures (n.spots []) = n.walk.countP fun m => isNesting m.kind := by
  rw [← Node.map_node_spots [] n, List.countP_map]
  rfl

theorem structures_split (ss : List Spot) :
    structures ss = structures (ss.filter isHidden) + structures (ss.filter fun s => !isHidden s) :=
  List.countP_eq_countP_filter_add ss _ isHidden

theorem structures_seen_cons (s : Spot) (ss : List Spot) :
    structures ((s :: ss).filter fun s => !isHidden s) =
      (if !isHidden s && isNesting s.node.kind then 1 else 0) + structures (ss.filter fun s => !isHidden s) := by
  cases hs : isHidden s with
  | true => simp [hs]
  | false => simp [hs, structures, List.countP_cons, Nat.add_comm]

/-- A structure costs one besides its surcharge unless it is hidden, and any other node its surcharge. -/
theorem charge_eq_surcharge {s : Spot} {c : Nat} (h : charge p 0 s = .ok c) :
    ∃ extra, surcharge p s = .ok extra ∧ c = (if !isHidden s && isNesting s.node.kind then 1 else 0) + extra := by
  rw [charge] at h
  rw [surcharge]
  cases hout : isLeftOut s with
  | true =>
      rw [hout, if_pos rfl] at h
      cases h
      refine ⟨0, rfl, ?_⟩
      rw [isLeftOut, Bool.or_eq_true, Bool.and_eq_true] at hout
      rcases hout with hhidden | ⟨helse, -⟩
      · simp [isHidden, hhidden]
      · rw [beq_iff_eq.mp helse]
        simp [isNesting]
  | false =>
      rw [hout, if_neg Bool.false_ne_true] at h
      rw [if_neg Bool.false_ne_true]
      have hseen : isHidden s = false := (Bool.or_eq_false_iff.mp hout).1
      cases hk : isNesting s.node.kind with
      | true =>
          rw [weight_structure p _ hk] at h
          cases h
          exact ⟨_, rfl, by simp [hseen]⟩
      | false =>
          rw [weight_level p hk _ 0] at h
          exact ⟨c, h, by simp⟩

theorem sumOver_charge_eq {ss : List Spot} {total : Nat} (h : sumOver (charge p 0) ss = .ok total) :
    ∃ extra, sumOver (surcharge p) ss = .ok extra ∧ total = structures (ss.filter fun s => !isHidden s) + extra := by
  induction ss generalizing total with
  | nil =>
      cases h
      exact ⟨0, rfl, rfl⟩
  | cons s ss ih =>
      obtain ⟨c, rest, hc, hrest, rfl⟩ := sumOver_cons_ok_iff.mp h
      obtain ⟨e₁, he₁, rfl⟩ := charge_eq_surcharge hc
      obtain ⟨e₂, he₂, rfl⟩ := ih hrest
      refine ⟨e₁ + e₂, sumOver_cons_ok_iff.mpr ⟨e₁, e₂, he₁, he₂, rfl⟩, ?_⟩
      rw [structures_seen_cons]
      omega

theorem cognitive_of_body {f : Function} {n body : Node} (hnode : f.node = some n) (hbody : body? n = some body)
    (p : Program) : cognitive p f = sumOver (charge p 0) (body.spots []) := by
  rw [cognitive, hnode, Option.bind_some, hbody]
  exact cost_body hbody p 0

/-- The complexity of a function whose body can be read is worked out. It is the number of the structures in the
body that are not hidden, and their surcharges; so it is at least the number of all structures exactly if the
hidden ones are no more than the surcharges. -/
theorem measureCognitive_structures (p : Program) {f : Function} {n body : Node} (hnode : f.node = some n)
    (hbody : body? n = some body) :
    (p.Reads body → ∃ total, ((Session.start p).measureCognitive f).1 = .ok total) ∧
      ∀ total, ((Session.start p).measureCognitive f).1 = .ok total →
        ∃ extra, sumOver (surcharge p) (body.spots []) = .ok extra ∧
          total = structures ((body.spots []).filter fun s => !isHidden s) + extra ∧
          ((body.walk.countP fun m => isNesting m.kind) ≤ total ↔
            structures ((body.spots []).filter isHidden) ≤ extra) := by
  rw [measureCognitive_start, ← structures_spots]
  constructor
  · intro hread
    rw [cognitive, hnode, Option.bind_some, hbody]
    exact cost_ok 0 body hread
  · intro total htotal
    rw [cognitive_of_body hnode hbody] at htotal
    obtain ⟨extra, hextra, rfl⟩ := sumOver_charge_eq htotal
    have hsplit := structures_split (body.spots [])
    refine ⟨extra, hextra, rfl, ?_⟩
    omega

/-- The body of the definition `int f(){return 1+(x?2:3);}`. -/
def choiceBody : Node :=
  .mk .compoundStatement 7 26 [
    .mk .returnStatement 8 25 [
      .mk (.other "return") 8 14 [] false false,
      .mk .binaryExpression 15 24 [
        .mk .numberLiteral 15 16 [] true false, .mk (.other "+") 16 17 [] false false,
        .mk .parenthesizedExpression 17 24 [
          .mk .conditionalExpression 18 23 [
            .mk .identifier 18 19 [] true false, .mk (.other "?") 19 20 [] false false,
            .mk .numberLiteral 20 21 [] true false, .mk .numberLiteral 22 23 [] true false] true false] true false]
        true false] true false] true false

/-- The definition. -/
def choice : Node :=
  .mk .functionDefinition 0 26 [
    .mk .primitiveType 0 3 [] true false,
    .mk .functionDeclarator 4 7 [.mk .identifier 4 5 [] true false, .mk .parameterList 5 7 [] true false] true false,
    choiceBody] true false

/-- One structure is hidden and there are no surcharges. -/
theorem measureCognitive_structures_choice :
    let p := Program.load "int f(){return 1+(x?2:3);}".toList (some choice)
    let f : Function := ⟨"f", 1, 1, some choice, [], "int"⟩
    (f.node = some choice ∧ body? choice = some choiceBody ∧ p.Reads choiceBody) ∧
      ∃ total, ((Session.start p).measureCognitive f).1 = .ok total ∧
        ¬ (choiceBody.walk.countP fun m => isNesting m.kind) ≤ total := by
  intro p f
  have hnode : f.node = some choice := rfl
  have hbody : body? choice = some choiceBody := rfl
  have hread : p.Reads choiceBody :=
    Program.Reads.child? (Program.readable_of_isOk (p := p) (by decide +kernel)) hbody
  obtain ⟨hmeasured, hcounted⟩ := measureCognitive_structures p hnode hbody
  obtain ⟨total, htotal⟩ := hmeasured hread
  obtain ⟨extra, hextra, -, hiff⟩ := hcounted total htotal
  have hnone : (sumOver (surcharge p) (choiceBody.spots [])).toOption = some 0 := by decide +kernel
  rw [hextra] at hnone
  cases hnone
  refine ⟨⟨hnode, hbody, hread⟩, total, htotal, fun hle => ?_⟩
  exact absurd (hiff.mp hle) (by decide +kernel)

/-- A choice in a sum is a structure of the body, and the complexity is zero. -/
theorem choice_costs_nothing :
    let p := Program.load "int f(){return 1+(x?2:3);}".toList (some choice)
    (Function.all p).toOption.map (·.map fun f => ((Session.start p).measureCognitive f).1.toOption) = some [some 0] ∧
      body? choice = some choiceBody ∧ (choiceBody.walk.countP fun m => isNesting m.kind) = 1 :=
  ⟨by decide +kernel, rfl, by decide +kernel⟩

end EsqlAudit.Complexity
