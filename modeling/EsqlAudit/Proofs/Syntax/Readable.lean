import EsqlAudit.Function.BeginEnd
import EsqlAudit.Proofs.Outcome

/-!
# Readable trees

A tree is readable if the bytes under each of its nodes are UTF-8. The functions of a readable tree can all
be told, and each of them has a readable definition.
-/

namespace EsqlAudit.Syntax

/-! ## Walks -/

theorem Node.mem_walk_self (n : Node) : n ∈ n.walk := by
  cases n
  exact List.mem_cons_self

theorem Node.mem_walkAll {ns : List Node} {m : Node} : m ∈ Node.walkAll ns ↔ ∃ n ∈ ns, m ∈ n.walk := by
  induction ns with
  | nil => simp [Node.walkAll]
  | cons n ns ih => simp [Node.walkAll, ih]

theorem Node.mem_walk_of_child {n c m : Node} (hc : c ∈ n.children) (hm : m ∈ c.walk) : m ∈ n.walk := by
  cases n
  exact List.mem_cons_of_mem _ (Node.mem_walkAll.mpr ⟨c, hc, hm⟩)

mutual
theorem Node.walk_infix {m : Node} : (n : Node) → m ∈ n.walk → m.walk <:+: n.walk
  | .mk k s e cs a b, hm => by
      rcases List.mem_cons.mp hm with rfl | hm
      · exact List.infix_rfl
      · exact List.infix_cons (Node.walkAll_infix cs hm)
theorem Node.walkAll_infix {m : Node} : (ns : List Node) → m ∈ Node.walkAll ns → m.walk <:+: Node.walkAll ns
  | n :: ns, hm => by
      rcases List.mem_append.mp hm with hm | hm
      · exact (Node.walk_infix n hm).trans (List.prefix_append _ _).isInfix
      · exact (Node.walkAll_infix ns hm).trans (List.suffix_append _ _).isInfix
end

/-! ## Readable nodes -/

/-- The bytes under the node, and under every node below it, can be read. -/
def Program.Reads (p : Program) (n : Node) : Prop :=
  ∀ m ∈ n.walk, ∃ text, p.nodeText m = .ok text

variable {p : Program} {n c m : Node}

theorem Program.Reads.text (h : p.Reads n) : ∃ text, p.nodeText n = .ok text :=
  h n n.mem_walk_self

theorem Program.Reads.child (h : p.Reads n) (hc : c ∈ n.children) : p.Reads c :=
  fun m hm => h m (Node.mem_walk_of_child hc hm)

theorem Program.Reads.child? {k : Kind} (h : p.Reads n) (hc : n.child? k = some c) : p.Reads c :=
  h.child (List.mem_of_find?_eq_some hc)

theorem Program.Reads.below (h : p.Reads n) (hm : m ∈ n.walk) : p.Reads m :=
  fun k hk => h k ((Node.walk_infix n hm).subset hk)

theorem Program.reads_of_mem_nodes (h : ∀ m ∈ p.nodes, ∃ text, p.nodeText m = .ok text)
    (hn : n ∈ p.nodes) : p.Reads n := by
  cases hroot : p.root with
  | none => simp [Program.nodes, hroot] at hn
  | some root =>
      have hnodes : p.nodes = root.walk := by simp [Program.nodes, hroot]
      rw [hnodes] at h hn
      exact Program.Reads.below h hn

theorem Program.readable_of_isOk (h : ∀ m ∈ p.nodes, (p.nodeText m).isOk = true) :
    ∀ m ∈ p.nodes, ∃ text, p.nodeText m = .ok text := by
  intro m hm
  cases htext : p.nodeText m with
  | error e =>
      have hm := h m hm
      rw [htext] at hm
      cases hm
  | ok text => exact ⟨text, rfl⟩

end EsqlAudit.Syntax

namespace EsqlAudit.Function
open Syntax

variable {p : Program} {n : Node}

theorem declarator_reads {d : Node} (h : p.Reads n) (hd : declarator? n = some d) : p.Reads d := by
  obtain ⟨c, hc, hfound⟩ := List.exists_of_findSome?_eq_some hd
  have hread := h.child hc
  split at hfound
  · cases hfound
    exact hread
  · split at hfound
    · exact hread.child? hfound
    · cases hfound

theorem identifierIn_ok (h : p.Reads n) : ∃ name, identifierIn p n = .ok name := by
  rw [identifierIn]
  split
  · rename_i c hc
    obtain ⟨text, htext⟩ := (h.child? hc).text
    exact ⟨some text, by rw [htext]; rfl⟩
  · exact ⟨none, rfl⟩

theorem namesAt_reads {m : Node} (h : p.Reads n) (hm : m ∈ namesAt n) : p.Reads m := by
  rw [namesAt] at hm
  split at hm
  · rwa [List.mem_singleton.mp hm]
  · split at hm
    · exact h.child (List.mem_filter.mp hm).1
    · cases hm

theorem parameterNames_reads {m : Node} (h : p.Reads n) (hm : m ∈ parameterNames n) : p.Reads m := by
  rw [parameterNames] at hm
  split at hm
  · obtain ⟨c, hc, hm⟩ := List.mem_flatMap.mp hm
    exact namesAt_reads (h.child hc) hm
  · cases hm

theorem parametersIn_ok (h : p.Reads n) : ∃ names, parametersIn p n = .ok names := by
  rw [parametersIn]
  split
  · rename_i list hlist
    apply mapM_ok
    intro m hm
    obtain ⟨c, hc, hm⟩ := List.mem_flatMap.mp hm
    exact (parameterNames_reads ((h.child? hlist).child hc) hm).text
  · exact ⟨[], rfl⟩

theorem returnTypeIn_ok (h : p.Reads n) : ∃ type, returnTypeIn p n = .ok type := by
  rw [returnTypeIn]
  split
  · rename_i c hc
    exact (h.child (List.mem_of_find?_eq_some hc)).text
  · exact ⟨"void", rfl⟩

mutual
theorem deepName_ok : (n : Node) → p.Reads n → ∃ name, deepName p n = .ok name
  | .mk _ _ _ children _ _, h => deepNameAmong_ok children fun _ hc => h.child hc
theorem deepNameAmong_ok : (ns : List Node) → (∀ n ∈ ns, p.Reads n) → ∃ name, deepNameAmong p ns = .ok name
  | [], _ => ⟨none, rfl⟩
  | c :: rest, h => by
      have hrest := deepNameAmong_ok rest fun n hn => h n (List.mem_cons_of_mem c hn)
      have hc := h c List.mem_cons_self
      rw [deepNameAmong]
      split
      · obtain ⟨name, hname⟩ := identifierIn_ok hc
        rw [hname]
        cases name with
        | none => exact hrest
        | some name => exact ⟨some name, rfl⟩
      · split
        · obtain ⟨name, hname⟩ := deepName_ok c hc
          rw [hname]
          dsimp only
          split
          · exact hrest
          · exact ⟨name, rfl⟩
        · exact hrest
end

/-- A definition that can be read has a function, unless it has no name. -/
theorem ofDefinition_ok (h : p.Reads n) :
    ∃ f, ofDefinition p n = .ok f ∧ ∀ g ∈ f, g.node = some n := by
  obtain ⟨type, htype⟩ := returnTypeIn_ok h
  obtain ⟨deep, hdeep⟩ := deepName_ok n h
  cases hd : declarator? n with
  | none =>
      simp only [ofDefinition, hd, htype, hdeep, bind, Except.bind, pure, Except.pure]
      split
      · split
        · exact ⟨none, rfl, by simp⟩
        · exact ⟨_, rfl, by simp⟩
      · exact absurd rfl ‹_›
  | some d =>
      obtain ⟨name, hname⟩ := identifierIn_ok (declarator_reads h hd)
      obtain ⟨names, hnames⟩ := parametersIn_ok (declarator_reads h hd)
      simp only [ofDefinition, hd, htype, hdeep, hname, hnames, bind, Except.bind, pure, Except.pure]
      split
      · split
        · exact ⟨none, rfl, by simp⟩
        · exact ⟨_, rfl, by simp⟩
      · exact ⟨_, rfl, by simp⟩

theorem inTree_ok (h : ∀ m ∈ p.nodes, ∃ text, p.nodeText m = .ok text) :
    ∃ fs, inTree p = .ok fs ∧ ∀ f ∈ fs, ∃ n ∈ p.nodes, f.node = some n := by
  have hdef : ∀ n ∈ p.nodes.filter (·.kind == .functionDefinition),
      ∃ f, ofDefinition p n = .ok f ∧ ∀ g ∈ f, g.node = some n := by
    intro n hn
    exact ofDefinition_ok (Program.reads_of_mem_nodes h (List.mem_filter.mp hn).1)
  obtain ⟨found, hfound⟩ := mapM_ok fun n hn => (hdef n hn).imp fun _ hf => hf.1
  refine ⟨found.filterMap id, by rw [inTree, hfound]; rfl, ?_⟩
  intro f hf
  obtain ⟨g, hg, rfl⟩ := List.mem_filterMap.mp hf
  obtain ⟨n, hn, hof⟩ := mem_of_mapM hfound hg
  obtain ⟨f', hf', hnode⟩ := hdef n hn
  rw [hof] at hf'
  cases hf'
  exact ⟨n, (List.mem_filter.mp hn).1, hnode f rfl⟩

theorem node_of_mem_beginEndFrom {i skip : Nat} {lines : List (List Char)} {f : Function}
    (hf : f ∈ beginEndFrom i skip lines) : f.node = none := by
  fun_induction beginEndFrom i skip lines with
  | case1 => cases hf
  | case2 _ _ _ _ ih => exact ih hf
  | case3 _ _ _ _ ih => exact ih hf
  | case4 _ _ _ _ _ _ ih => exact ih hf
  | case5 _ _ _ _ _ _ _ ih =>
      rcases List.mem_cons.mp hf with rfl | hf
      · rfl
      · exact ih hf

/-- The functions of a program with a readable tree can be told, and each definition is a node of the tree. -/
theorem all_nodes (h : ∀ m ∈ p.nodes, ∃ text, p.nodeText m = .ok text) :
    ∃ fs, all p = .ok fs ∧ ∀ f ∈ fs, ∀ n ∈ f.node, n ∈ p.nodes := by
  obtain ⟨found, hfound, hnodes⟩ := inTree_ok h
  refine ⟨_, by rw [all, hfound]; rfl, ?_⟩
  intro f hf n hn
  rcases List.mem_append.mp hf with hf | hf
  · obtain ⟨m, hm, hnode⟩ := hnodes f hf
    rw [hnode] at hn
    cases hn
    exact hm
  · rw [node_of_mem_beginEndFrom (List.mem_filter.mp hf).1] at hn
    cases hn

/-- The functions of a program with a readable tree can be told, and each definition is readable. -/
theorem all_ok (h : ∀ m ∈ p.nodes, ∃ text, p.nodeText m = .ok text) :
    ∃ fs, all p = .ok fs ∧ ∀ f ∈ fs, ∀ n ∈ f.node, p.Reads n := by
  obtain ⟨fs, hall, hnodes⟩ := all_nodes h
  exact ⟨fs, hall, fun f hf n hn => Program.reads_of_mem_nodes h (hnodes f hf n hn)⟩

end EsqlAudit.Function
