import EsqlAudit.Complexity.Session
import EsqlAudit.Proofs.Syntax.Readable

/-!
# Measures of readable trees

No measure of a function fails whose definition can be read.
-/

namespace EsqlAudit.Complexity
open Syntax

variable {p : Program}

/-! ## Cyclomatic complexity -/

theorem operatorAmong_ok {ns : List Node} (h : ∀ n ∈ ns, p.Reads n) :
    ∃ op, operatorAmong p ns = .ok op := by
  induction ns with
  | nil => exact ⟨none, rfl⟩
  | cons c rest ih =>
      obtain ⟨text, htext⟩ := (h c List.mem_cons_self).text
      have hrest := ih fun n hn => h n (List.mem_cons_of_mem c hn)
      rw [operatorAmong]
      split
      · exact map_ok _ ⟨text, htext⟩
      · split
        · exact hrest
        · rw [htext]
          dsimp only
          split
          · exact ⟨_, rfl⟩
          · exact hrest

theorem logicalOperator_ok {n : Node} (h : p.Reads n) : ∃ op, logicalOperator p n = .ok op := by
  rw [logicalOperator]
  split
  · exact operatorAmong_ok fun c hc => h.child hc
  · exact ⟨none, rfl⟩

theorem cyclomatic_ok {f : Function} (h : ∀ n ∈ f.node, p.Reads n) : ∃ total, cyclomatic p f = .ok total := by
  rw [cyclomatic]
  split
  · exact ⟨1, rfl⟩
  · rename_i n hn
    apply foldlM_ok
    intro m hm total
    have hread := (h n hn).below hm
    exact map_ok _ (map_ok _ (logicalOperator_ok hread))

/-! ## Cognitive complexity -/

theorem joinOperators_ok {found : List Operand} (h : ∀ o ∈ found, ∃ ops, o.below = .ok ops) :
    ∃ ops, joinOperators found = .ok ops := by
  have hnested : ∀ o ∈ found.filter fun o => o.isBinary && (Logical.ofText? o.text).isNone,
      ∃ ops, o.below = .ok ops := fun o ho => h o (List.mem_filter.mp ho).1
  simp only [joinOperators]
  generalize found.filter _ = nested at hnested ⊢
  cases hhead : nested.head? with
  | none =>
      have hnil : nested = [] := List.head?_eq_none_iff.mp hhead
      subst hnil
      exact ⟨_, rfl⟩
  | some o =>
      obtain ⟨left, hleft⟩ := hnested o (List.mem_of_mem_head? hhead)
      cases hlast : nested.tail.getLast? with
      | none => exact ⟨_, by simp only [hleft]; rfl⟩
      | some o' =>
          obtain ⟨right, hright⟩ := hnested o' (List.mem_of_mem_tail (List.mem_of_mem_getLast? hlast))
          exact ⟨_, by simp only [hleft, hright]; rfl⟩

mutual
theorem operators_ok : (n : Node) → p.Reads n → ∃ ops, operators p n = .ok ops
  | .mk kind _ _ children _ _, h => by
      obtain ⟨found, hfound, hbelow⟩ := operands_ok children fun _ hc => h.child hc
      rw [operators]
      split
      · rw [hfound]
        exact joinOperators_ok hbelow
      · exact ⟨[], rfl⟩
theorem operands_ok : (ns : List Node) → (∀ n ∈ ns, p.Reads n) →
    ∃ found, operands p ns = .ok found ∧ ∀ o ∈ found, ∃ ops, o.below = .ok ops
  | [], _ => ⟨[], rfl, by simp⟩
  | c :: rest, h => by
      obtain ⟨text, htext⟩ := (h c List.mem_cons_self).text
      obtain ⟨found, hfound, hbelow⟩ := operands_ok rest fun n hn => h n (List.mem_cons_of_mem c hn)
      refine ⟨_, by rw [operands, htext, hfound], ?_⟩
      intro o ho
      rcases List.mem_cons.mp ho with rfl | ho
      · exact operators_ok c (h c List.mem_cons_self)
      · exact hbelow o ho
end

mutual
theorem cost_ok (level : Nat) : (n : Node) → p.Reads n → ∃ total, cost p level n = .ok total
  | .mk kind start stop children named missing, h => by
      have hchildren : ∀ c ∈ children, p.Reads c := fun _ hc => h.child hc
      rw [cost.eq_def]
      dsimp only
      split
      · exact map_ok _ (costInside_ok level children hchildren)
      · split
        · exact map_ok _ (costAll_ok level children hchildren)
        · exact ⟨1, rfl⟩
        · exact ⟨_, rfl⟩
        · exact ⟨_, rfl⟩
        · exact map_ok _ (operators_ok _ h)
        · exact costAll_ok level children hchildren
theorem costAll_ok (level : Nat) : (ns : List Node) → (∀ n ∈ ns, p.Reads n) →
    ∃ total, costAll p level ns = .ok total
  | [], _ => ⟨0, rfl⟩
  | c :: rest, h => by
      obtain ⟨total, htotal⟩ := cost_ok level c (h c List.mem_cons_self)
      rw [costAll, htotal]
      exact map_ok _ (costAll_ok level rest fun n hn => h n (List.mem_cons_of_mem c hn))
theorem costInside_ok (level : Nat) : (ns : List Node) → (∀ n ∈ ns, p.Reads n) →
    ∃ total, costInside p level ns = .ok total
  | [], _ => ⟨0, rfl⟩
  | .mk kind start stop children named missing :: rest, h => by
      have hread := h (.mk kind start stop children named missing) List.mem_cons_self
      have hrest := costInside_ok level rest fun n hn => h n (List.mem_cons_of_mem _ hn)
      have hpart : ∃ total, (if kind == .compoundStatement then
          cost p (level + 1) (.mk kind start stop children named missing)
        else if kind == .elseClause then (costElse p level children).map (1 + ·)
        else cost p level (.mk kind start stop children named missing)) = .ok total := by
        split
        · exact cost_ok (level + 1) _ hread
        · split
          · exact map_ok _ (costElse_ok level children fun _ hc => hread.child hc)
          · exact cost_ok level _ hread
      obtain ⟨total, htotal⟩ := hpart
      simp only [costInside, htotal]
      exact map_ok _ hrest
theorem costElse_ok (level : Nat) : (ns : List Node) → (∀ n ∈ ns, p.Reads n) →
    ∃ total, costElse p level ns = .ok total
  | [], _ => ⟨0, rfl⟩
  | c :: rest, h => by
      have hrest := costElse_ok level rest fun n hn => h n (List.mem_cons_of_mem c hn)
      obtain ⟨total, htotal⟩ :=
        cost_ok (if c.kind == .ifStatement then level else level + 1) c (h c List.mem_cons_self)
      rw [costElse, htotal]
      exact map_ok _ hrest
end

theorem cognitive_ok {f : Function} (h : ∀ n ∈ f.node, p.Reads n) : ∃ total, cognitive p f = .ok total := by
  rw [cognitive]
  split
  · exact ⟨0, rfl⟩
  · rename_i b hb
    obtain ⟨n, hn, hbody⟩ := Option.bind_eq_some_iff.mp hb
    exact cost_ok 0 b ((h n hn).child? hbody)

/-! ## Vocabulary -/

theorem firstText_ok {ns : List Node} (fits : String → Bool) (h : ∀ n ∈ ns, p.Reads n) :
    ∃ found, firstText p fits ns = .ok found := by
  induction ns with
  | nil => exact ⟨none, rfl⟩
  | cons c rest ih =>
      obtain ⟨text, htext⟩ := (h c List.mem_cons_self).text
      rw [firstText, htext]
      dsimp only
      split
      · exact ⟨some text, rfl⟩
      · exact ih fun n hn => h n (List.mem_cons_of_mem c hn)

theorem operatorOf_ok {n : Node} (h : p.Reads n) : ∃ op, operatorOf p n = .ok op := by
  have hchildren : ∀ c ∈ n.children, p.Reads c := fun _ hc => h.child hc
  rw [operatorOf]
  split
  · exact firstText_ok _ hchildren
  · exact firstText_ok _ hchildren
  · exact firstText_ok _ hchildren
  · exact map_ok _ h.text
  · exact ⟨_, rfl⟩
  · exact map_ok _ h.text
  all_goals exact ⟨_, rfl⟩

end EsqlAudit.Complexity
