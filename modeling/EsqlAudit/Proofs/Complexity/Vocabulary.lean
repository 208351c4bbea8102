import EsqlAudit.Proofs.Complexity.Halstead
import EsqlAudit.Proofs.Complexity.Readable
import EsqlAudit.Proofs.Table
import Mathlib.Data.Finset.Card

/-!
# The words of a tree

What a node adds to the vocabulary of a function is told by the node, the kind of its parent and its place among the
children of its parent. The vocabulary is made of what the nodes add, one after the other, so its counts are those of
these words: all of them, and the distinct ones among them.
-/

namespace EsqlAudit.Syntax

/-- A node of a tree with the kind of its parent, if it has one, and its place among the children of its parent. -/
structure Seat where
  parent : Option Kind
  index : Nat
  node : Node

namespace Node

mutual
/-- The seats of the node and of all below it, parents first, when the node has the given seat. -/
def seats (parent : Option Kind) (index : Nat) : Node → List Seat
  | mk k s e cs n m => ⟨parent, index, mk k s e cs n m⟩ :: seatsAll k 0 cs
/-- The seats of several children of a node and of all below them, the first having the given place. -/
def seatsAll (parent : Kind) (index : Nat) : List Node → List Seat
  | [] => []
  | c :: cs => seats (some parent) index c ++ seatsAll parent (index + 1) cs
end

mutual
theorem map_node_seats (parent : Option Kind) (index : Nat) : (n : Node) →
    (n.seats parent index).map Seat.node = n.walk
  | mk k s e cs n m => by rw [seats, List.map_cons, map_node_seatsAll, walk]
theorem map_node_seatsAll (parent : Kind) (index : Nat) : (ns : List Node) →
    (seatsAll parent index ns).map Seat.node = walkAll ns
  | [] => rfl
  | c :: cs => by rw [seatsAll, List.map_append, map_node_seats, map_node_seatsAll, walkAll]
end

end Node

end EsqlAudit.Syntax

namespace EsqlAudit.Complexity
open Syntax

/-! ## What a node adds -/

/-- Whether a name in the seat is that of a called function: the first child of a call. -/
def isCallee (s : Seat) : Bool :=
  s.parent == some .callExpression && s.index == 0

/-- The text of a node, empty where it cannot be read. -/
def textOf (p : Program) (n : Node) : String :=
  (p.nodeText n).toOption.getD ""

/-- The operators that a node adds: that of an expression, a keyword, and the name of a called function. -/
def operatorsAt (p : Program) (s : Seat) : List String :=
  (operatorOf p s.node).toOption.join.toList ++
    (if textOf p s.node ∈ keywordOperators then [textOf p s.node] else []) ++
    (if s.node.kind = .identifier ∧ isCallee s then [textOf p s.node] else [])

/-- The operand that a node adds: a name that is not called, or a literal. -/
def operandsAt (p : Program) (s : Seat) : List String :=
  match s.node.kind with
  | .identifier => if isCallee s then [] else [textOf p s.node]
  | .numberLiteral | .charLiteral => [textOf p s.node]
  | .stringLiteral => ["<string>"]
  | _ => []

variable {p : Program}

/-- A name is no expression that has an operator, so it adds at most a keyword and the name of a function. -/
theorem length_operatorsAt_le (p : Program) (s : Seat) : (operatorsAt p s).length ≤ 2 := by
  have onlyIf (c : Prop) [Decidable c] (text : String) : (if c then [text] else []).length ≤ 1 := by
    split <;> simp
  have hkeyword := onlyIf (textOf p s.node ∈ keywordOperators) (textOf p s.node)
  simp only [operatorsAt, List.length_append]
  by_cases hname : s.node.kind = .identifier
  · have hnone : operatorOf p s.node = .ok none := by rw [operatorOf, hname]
    have hcallee := onlyIf (s.node.kind = .identifier ∧ isCallee s) (textOf p s.node)
    have hempty : (operatorOf p s.node).toOption.join.toList.length = 0 := by rw [hnone]; rfl
    omega
  · have hoperator : (operatorOf p s.node).toOption.join.toList.length ≤ 1 := by
      cases (operatorOf p s.node).toOption.join <;> simp
    have hcallee : (if s.node.kind = .identifier ∧ isCallee s then [textOf p s.node] else []).length = 0 := by
      rw [if_neg fun h => hname h.1, List.length_nil]
    omega

theorem length_operandsAt_le (p : Program) (s : Seat) : (operandsAt p s).length ≤ 1 := by
  rw [operandsAt]
  split
  · split <;> simp
  all_goals simp

theorem addKeyword_ofWords (text : String) (operators operands : List String) :
    (if keywordOperators.contains text then (Vocabulary.ofWords operators operands).addOperator text
      else .ofWords operators operands) =
    .ofWords (operators ++ if text ∈ keywordOperators then [text] else []) operands := by
  by_cases htext : text ∈ keywordOperators
  · rw [if_pos (List.contains_iff_mem.mpr htext), if_pos htext, Vocabulary.addOperator_ofWords]
  · rw [if_neg (List.contains_iff_mem.not.mpr htext), if_neg htext, List.append_nil]

theorem addAtom_ofWords (s : Seat) (operators operands : List String) :
    addAtom (isCallee s) s.node.kind (textOf p s.node) (.ofWords operators operands) =
      .ofWords (operators ++ if s.node.kind = .identifier ∧ isCallee s then [textOf p s.node] else [])
        (operands ++ operandsAt p s) := by
  rw [addAtom.eq_def, operandsAt]
  cases s.node.kind with
  | identifier =>
      cases hcallee : isCallee s with
      | true => simp [Vocabulary.addOperator_ofWords]
      | false => simp [Vocabulary.addOperand_ofWords]
  | numberLiteral => simp [Vocabulary.addOperand_ofWords]
  | charLiteral => simp [Vocabulary.addOperand_ofWords]
  | stringLiteral => simp [Vocabulary.addOperand_ofWords]
  | _ => simp

/-- A node adds its own words to those that were counted before it. -/
theorem addOwn_eq {s : Seat} (h : p.Reads s.node) (operators operands : List String) :
    addOwn p (isCallee s) s.node (.ofWords operators operands) =
      .ok (.ofWords (operators ++ operatorsAt p s) (operands ++ operandsAt p s)) := by
  obtain ⟨text, htext⟩ := h.text
  obtain ⟨op, hop⟩ := operatorOf_ok h
  have hread : text = textOf p s.node := by rw [textOf, htext]; rfl
  have hoperator : (op.map (Vocabulary.ofWords operators operands).addOperator).getD (.ofWords operators operands) =
      .ofWords (operators ++ op.toList) operands := by
    cases op with
    | none => exact congrArg (Vocabulary.ofWords · operands) (List.append_nil operators).symm
    | some word => exact Vocabulary.addOperator_ofWords operators operands word
  have hown : operatorsAt p s = op.toList ++ (if text ∈ keywordOperators then [text] else []) ++
      (if s.node.kind = .identifier ∧ isCallee s then [text] else []) := by
    rw [operatorsAt, hop, ← hread]
    rfl
  have hadded := addAtom_ofWords (p := p) s (operators ++ op.toList ++ if text ∈ keywordOperators then [text] else [])
    operands
  rw [← hread, ← addKeyword_ofWords, ← hoperator] at hadded
  rw [addOwn, htext, hop, hown, ← List.append_assoc, ← List.append_assoc]
  exact congrArg Except.ok hadded

/-! ## What a tree adds -/

mutual
/-- A tree adds the words of its nodes, from the first to the last. -/
theorem addTree_eq (parent : Option Kind) (index : Nat) : (n : Node) → p.Reads n → (operators operands : List String) →
    addTree p (isCallee ⟨parent, index, n⟩) (.ofWords operators operands) n =
      .ok (.ofWords (operators ++ (n.seats parent index).flatMap (operatorsAt p))
        (operands ++ (n.seats parent index).flatMap (operandsAt p)))
  | .mk kind start stop children named missing, h, operators, operands => by
      have hown := addOwn_eq (s := ⟨parent, index, .mk kind start stop children named missing⟩) h operators operands
      have hbelow := addTrees_eq kind 0 children fun _ hc => h.child hc
      rw [addTree, hown, show (kind == .callExpression) = (some kind == some .callExpression && 0 == 0) by simp]
      dsimp only
      rw [hbelow, Node.seats, List.flatMap_cons, List.flatMap_cons, List.append_assoc, List.append_assoc]
/-- Only the first child of a call may be the function that it names. -/
theorem addTrees_eq (parent : Kind) (index : Nat) : (ns : List Node) → (∀ n ∈ ns, p.Reads n) →
    (operators operands : List String) →
    addTrees p (some parent == some .callExpression && index == 0) (.ofWords operators operands) ns =
      .ok (.ofWords (operators ++ (Node.seatsAll parent index ns).flatMap (operatorsAt p))
        (operands ++ (Node.seatsAll parent index ns).flatMap (operandsAt p)))
  | [], _, operators, operands => by
      rw [addTrees, Node.seatsAll, List.flatMap_nil, List.flatMap_nil, List.append_nil, List.append_nil]
  | c :: rest, h, operators, operands => by
      have hc := addTree_eq (some parent) index c (h c List.mem_cons_self) operators operands
      have hrest := addTrees_eq parent (index + 1) rest fun n hn => h n (List.mem_cons_of_mem c hn)
      rw [isCallee] at hc
      rw [show (some parent == some Kind.callExpression && index + 1 == 0) = false by simp] at hrest
      rw [addTrees, hc]
      dsimp only
      rw [hrest, Node.seatsAll, List.flatMap_append, List.flatMap_append, List.append_assoc, List.append_assoc]
end

/-- The vocabulary of a readable function is that of the words that its nodes add. -/
theorem vocabulary_eq {f : Function} {n : Node} (hnode : f.node = some n) (hread : p.Reads n) : vocabulary p f =
    .ok (.ofWords ((n.seats none 0).flatMap (operatorsAt p)) ((n.seats none 0).flatMap (operandsAt p))) := by
  rw [vocabulary, hnode]
  exact addTree_eq none 0 n hread [] []

theorem vocabulary_ok {f : Function} (hread : ∀ n ∈ f.node, p.Reads n) : ∃ v, vocabulary p f = .ok v ∧
    (v.size < 2 ^ 1000 → ∃ record, v.counts.toRecord = .ok record) := by
  cases hnode : f.node with
  | none => exact ⟨.ofWords [] [], by rw [vocabulary, hnode]; rfl, Vocabulary.toRecord_ok⟩
  | some n => exact ⟨_, vocabulary_eq hnode (hread n hnode), Vocabulary.toRecord_ok⟩

theorem length_flatMap_le {f : Seat → List String} {k : Nat} (h : ∀ s, (f s).length ≤ k) (seats : List Seat) :
    (seats.flatMap f).length ≤ k * seats.length := by
  induction seats with
  | nil => exact Nat.zero_le _
  | cons s seats ih =>
      have hs := h s
      rw [List.flatMap_cons, List.length_append, List.length_cons, Nat.mul_succ]
      omega

/-- A function has at most three words for each node of its program. -/
theorem size_vocabulary {f : Function} {v : Vocabulary} (hread : ∀ n ∈ f.node, p.Reads n)
    (hmem : ∀ n ∈ f.node, n ∈ p.nodes) (h : vocabulary p f = .ok v) : v.size ≤ 3 * p.nodes.length := by
  cases hnode : f.node with
  | none =>
      rw [vocabulary, hnode] at h
      cases h
      exact Nat.zero_le _
  | some n =>
      rw [vocabulary_eq hnode (hread n hnode)] at h
      cases h
      have hbelow : n.walk.length ≤ p.nodes.length := by
        have hn := hmem n hnode
        rw [Program.nodes] at hn ⊢
        split at hn
        · cases hn
        · exact (Node.walk_infix _ hn).length_le
      have hoperators := length_flatMap_le (length_operatorsAt_le p) (n.seats none 0)
      have hoperands := length_flatMap_le (length_operandsAt_le p) (n.seats none 0)
      rw [← List.length_map (f := Seat.node), Node.map_node_seats] at hoperators hoperands
      rw [Vocabulary.size_ofWords]
      omega

theorem measureVocabulary_start (p : Program) (f : Function) :
    ((Session.start p).measureVocabulary f).1 = vocabulary p f :=
  Memo.consult_empty f.name (vocabulary p f)

/-! ## Counts -/

/-- The numbers of distinct and of all words, and the counter that they are read off, are those of the words that
the parts add. -/
structure Tallies (unique total : Int) (counter : Counter String) (parts : List (List String)) : Prop where
  total_eq : total = ((parts.map List.length).sum : Nat)
  unique_eq : unique = (parts.flatten.toFinset.card : Nat)
  unique_keys : unique = ((counter.map (·.1)).length : Nat)
  keys_nodup : (counter.map (·.1)).Nodup
  mem_keys : ∀ word, word ∈ counter.map (·.1) ↔ ∃ part ∈ parts, word ∈ part
  counted : ∀ e ∈ counter, e.2 = parts.flatten.count e.1
  unique_le : unique ≤ total
  unique_eq_zero : unique = 0 ↔ total = 0

theorem toFinset_eraseDups (words : List String) : words.eraseDups.toFinset = words.toFinset := by
  ext word
  simp

theorem length_eraseDups_eq_card (words : List String) : words.eraseDups.length = words.toFinset.card := by
  rw [← toFinset_eraseDups, List.toFinset_card_of_nodup (eraseDups_nodup words)]

theorem length_eraseDups_eq_zero {words : List String} : words.eraseDups.length = 0 ↔ words.length = 0 := by
  rw [length_eraseDups_eq_card, Finset.card_eq_zero, List.toFinset_eq_empty_iff, List.length_eq_zero_iff]

theorem tallies_of_parts (parts : List (List String)) :
    Tallies (Counter.tally parts.flatten).length (Counter.tally parts.flatten).total (Counter.tally parts.flatten)
      parts where
  total_eq := by rw [Counter.total_tally, List.length_flatten]
  unique_eq := by rw [Counter.length_tally, length_eraseDups_eq_card]
  unique_keys := by rw [List.length_map]
  keys_nodup := by
    rw [Counter.keys_tally]
    exact eraseDups_nodup _
  mem_keys := fun word => by rw [Counter.keys_tally, List.mem_eraseDups, List.mem_flatten]
  counted := fun e he => by
    obtain ⟨word, -, rfl⟩ := List.mem_map.mp he
    rfl
  unique_le := by
    rw [Counter.length_tally, Counter.total_tally]
    exact_mod_cast length_eraseDups_le parts.flatten
  unique_eq_zero := by
    rw [Counter.length_tally, Counter.total_tally]
    exact_mod_cast length_eraseDups_eq_zero

theorem Counts.volume_ne_domain {c : Counts} (h : 0 ≤ c.vocabulary) : c.volume ≠ .error .domain := by
  rw [volume]
  split
  · intro hfault
    cases hfault
  · rename_i hwords
    rw [beq_iff_eq] at hwords
    obtain ⟨l, hl⟩ := logTwo_ok (i := c.vocabulary) (by omega)
    rw [hl, toDouble]
    intro hfault
    split at hfault <;> cases hfault

/-- A fresh session counts the words that the nodes of a readable function add: the totals are the sums of their
numbers, the unique counts the numbers of distinct words among them. No logarithm is taken of zero and nothing is
divided by zero. -/
theorem counts_of_seats {f : Function} {n : Node} (hnode : f.node = some n) (hread : p.Reads n) :
    ∃ v, ((Session.start p).measureVocabulary f).1 = .ok v ∧
      (n.seats none 0).map Seat.node = n.walk ∧
      (∀ s ∈ n.seats none 0, (operatorsAt p s).length ≤ 2 ∧ (operandsAt p s).length ≤ 1) ∧
      Tallies v.counts.uniqueOperators v.counts.totalOperators v.operators ((n.seats none 0).map (operatorsAt p)) ∧
      Tallies v.counts.uniqueOperands v.counts.totalOperands v.operands ((n.seats none 0).map (operandsAt p)) ∧
      (0 < v.counts.length → 0 < v.counts.vocabulary) ∧
      (0 < v.counts.totalOperands → 0 < v.counts.uniqueOperands) ∧
      v.counts.volume ≠ .error .domain ∧
      (v.size < 2 ^ 1000 → (∃ x, v.counts.volume = .ok x) ∧ ∃ x, v.counts.difficulty = .ok x) := by
  have hoperators := tallies_of_parts ((n.seats none 0).map (operatorsAt p))
  have hoperands := tallies_of_parts ((n.seats none 0).map (operandsAt p))
  rw [← List.flatMap_def] at hoperators hoperands
  refine ⟨_, (measureVocabulary_start p f).trans (vocabulary_eq hnode hread), Node.map_node_seats none 0 n,
    fun s _ => ⟨length_operatorsAt_le p s, length_operandsAt_le p s⟩, hoperators, hoperands, ?_, ?_, ?_,
    fun h => ⟨Vocabulary.volume_ok h, Vocabulary.difficulty_ok h⟩⟩
  · have hzero₁ := hoperators.unique_eq_zero
    have hzero₂ := hoperands.unique_eq_zero
    simp only [Counts.length, Counts.vocabulary, Vocabulary.counts, Vocabulary.ofWords]
    omega
  · have hzero := hoperands.unique_eq_zero
    simp only [Vocabulary.counts, Vocabulary.ofWords]
    omega
  · apply Counts.volume_ne_domain
    simp only [Counts.vocabulary, Vocabulary.counts]
    omega

/-- A call of a function `f` on itself and a text: its name is once an operator and once an operand. -/
def selfCall : Node :=
  .mk .returnStatement 0 16 [
    .mk (.other "return") 0 6 [] false false,
    .mk .callExpression 7 15 [
      .mk .identifier 7 8 [] true false,
      .mk (.other "argument_list") 8 15 [
        .mk .identifier 9 10 [] true false, .mk (.other ",") 10 11 [] false false,
        .mk .stringLiteral 11 14 [] true false] true false] true false] true false

theorem counts_of_seats_self_call :
    let p := Program.load "return f(f,\"s\");".toList (some selfCall)
    p.Reads selfCall ∧ (selfCall.seats none 0).flatMap (operatorsAt p) = ["return", "()", "f"] ∧
      (selfCall.seats none 0).flatMap (operandsAt p) = ["f", "<string>"] ∧
      ∃ v, ((Session.start p).measureVocabulary ⟨"g", 1, 1, some selfCall, [], "int"⟩).1 = .ok v ∧
        v.counts.totalOperators = 3 ∧ v.counts.totalOperands = 2 := by
  intro p
  have hread : p.Reads selfCall := Program.readable_of_isOk (p := p) (by decide +kernel)
  have hops : (selfCall.seats none 0).flatMap (operatorsAt p) = ["return", "()", "f"] := by decide +kernel
  have hopnds : (selfCall.seats none 0).flatMap (operandsAt p) = ["f", "<string>"] := by decide +kernel
  obtain ⟨v, hv, -, -, hoperators, hoperands, -⟩ :=
    counts_of_seats (f := ⟨"g", 1, 1, some selfCall, [], "int"⟩) rfl hread
  have hthree := hoperators.total_eq
  have htwo := hoperands.total_eq
  rw [← List.length_flatten, ← List.flatMap_def, hops] at hthree
  rw [← List.length_flatten, ← List.flatMap_def, hopnds] at htwo
  exact ⟨hread, hops, hopnds, v, hv, hthree, htwo⟩

end EsqlAudit.Complexity
