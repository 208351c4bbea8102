import EsqlAudit.Proofs.Complexity.Readable
import EsqlAudit.Proofs.Complexity.Spots

/-!
# Burdens against the complexity

The burdens of a function are listed to explain its complexity. Their sum is never less than the complexity. It is
the complexity exactly if each node of the body counts for the same in both: a structure stands as deep as there
are structures above it, an `else` is a part of a structure, and below a jump stands nothing that counts.
-/

namespace EsqlAudit.Complexity
open Syntax

variable {p : Program}

/-! ## Burdens as a sum -/

/-- How many structures stand above. -/
def nesting (above : List Kind) : Nat :=
  above.countP isNesting

theorem nesting_cons (k : Kind) (above : List Kind) :
    nesting (k :: above) = if isNesting k then nesting above + 1 else nesting above := by
  rw [nesting, List.countP_cons]
  split <;> rfl

/-- All burdens together, the deepest nesting apart. -/
def Burdens.sum (b : Burdens) : Nat :=
  b.ifs + b.loops + b.switches + b.ternaries + b.nestingPenalty + b.elses + b.cases + b.gotos + b.labeledJumps +
    b.sequences

/-- What a node adds to the burdens: nothing below an expression, else its weight at as many levels as structures
stand above it. -/
def burden (p : Program) (s : Spot) : Measured Nat :=
  if s.above.contains .binaryExpression then .ok 0 else weight p (nesting s.above) s.node

/-- The burdens with those of one more node. -/
def enter (p : Program) (b : Burdens) (s : Spot) : Measured Burdens :=
  if s.above.contains .binaryExpression then .ok b
  else
    let b := { b with maxNesting := Nat.max b.maxNesting (nesting s.above) }
    if s.node.kind == .binaryExpression then
      (sequences p s.node).map fun n => { b with sequences := b.sequences + n }
    else .ok (b.add (nesting s.above) s.node.kind (namesLabel s.node.children))

theorem foldlM_enter_within (b : Burdens) {ss : List Spot} (h : ∀ s ∈ ss, s.above.contains .binaryExpression = true) :
    ss.foldlM (enter p) b = .ok b := by
  induction ss with
  | nil => rfl
  | cons s ss ih =>
      have hskip : enter p b s = .ok b := if_pos (h s List.mem_cons_self)
      rw [List.foldlM_cons, hskip]
      exact ih fun s hs => h s (List.mem_cons_of_mem _ hs)

mutual
/-- The burdens of a node are entered one by one. -/
theorem collect_eq : (n : Node) → (above : List Kind) → (b : Burdens) → above.contains .binaryExpression = false →
    collect p (nesting above) b n = (n.spots above).foldlM (enter p) b
  | .mk kind start stop children named missing, above, b, hseen => by
      rw [Node.spots, List.foldlM_cons, enter, if_neg (Bool.eq_false_iff.mp hseen), collect.eq_def]
      by_cases hk : kind = .binaryExpression
      · subst hk
        have hwithin : ∀ b, (Node.spotsAll (.binaryExpression :: above) children).foldlM (enter p) b = .ok b := by
          intro b
          apply foldlM_enter_within b
          intro s hs
          have hmem := (mem_spotsAll_above children hs).subset List.mem_cons_self
          exact List.contains_iff_mem.mpr hmem
        simp only [hwithin]
        cases sequences p (.mk .binaryExpression start stop children named missing) <;> rfl
      · have hinside : (kind :: above).contains .binaryExpression = false := by
          rw [List.contains_cons, hseen, Bool.or_false, beq_eq_false_iff_ne]
          exact Ne.symm hk
        have hlevel := nesting_cons kind above
        simp only [Node.kind, beq_eq_false_iff_ne.mpr hk, Bool.false_eq_true, ↓reduceIte]
        rw [← hlevel]
        exact collectAll_eq children (kind :: above) _ hinside
theorem collectAll_eq : (ns : List Node) → (above : List Kind) → (b : Burdens) →
    above.contains .binaryExpression = false →
    collectAll p (nesting above) b ns = (Node.spotsAll above ns).foldlM (enter p) b
  | [], _, _, _ => rfl
  | c :: rest, above, b, hseen => by
      rw [Node.spotsAll, List.foldlM_append, ← collect_eq c above b hseen, collectAll]
      cases collect p (nesting above) b c with
      | error e => rfl
      | ok b => exact collectAll_eq rest above b hseen
end

theorem add_sum (p : Program) (b : Burdens) (level : Nat) {n : Node} (hn : n.kind ≠ .binaryExpression) :
    ∃ c, weight p level n = .ok c ∧ (b.add level n.kind (namesLabel n.children)).sum = b.sum + c := by
  rw [weight]
  cases hkind : n.kind with
  | binaryExpression => exact absurd hkind hn
  | breakStatement | continueStatement =>
      refine ⟨_, rfl, ?_⟩
      cases namesLabel n.children with
      | true => exact Nat.add_right_comm _ 1 _
      | false => rfl
  | _ =>
      refine ⟨_, rfl, ?_⟩
      simp only [Burdens.add, Burdens.sum]
      omega

theorem enter_sum {b b' : Burdens} {s : Spot} (h : enter p b s = .ok b') :
    ∃ c, burden p s = .ok c ∧ b'.sum = b.sum + c := by
  rw [enter] at h
  rw [burden]
  cases hwithin : s.above.contains .binaryExpression with
  | true =>
      rw [hwithin, if_pos rfl] at h
      cases h
      exact ⟨0, rfl, rfl⟩
  | false =>
      rw [hwithin, if_neg Bool.false_ne_true] at h
      rw [if_neg Bool.false_ne_true]
      by_cases hk : s.node.kind = .binaryExpression
      · rw [if_pos (beq_iff_eq.mpr hk)] at h
        obtain ⟨c, hc, rfl⟩ := of_map_ok h
        refine ⟨c, ?_, ?_⟩
        · rw [weight, hk]
          exact hc
        · simp only [Burdens.sum]
          omega
      · rw [if_neg (by simp [hk])] at h
        cases h
        exact add_sum p { b with maxNesting := Nat.max b.maxNesting (nesting s.above) } (nesting s.above) hk

/-- The sum of the burdens is the sum of what the nodes add to them. -/
theorem foldlM_enter_sum {b b' : Burdens} {ss : List Spot} (h : ss.foldlM (enter p) b = .ok b') :
    ∃ c, sumOver (burden p) ss = .ok c ∧ b'.sum = b.sum + c := by
  induction ss generalizing b with
  | nil =>
      cases h
      exact ⟨0, rfl, rfl⟩
  | cons s ss ih =>
      rw [List.foldlM_cons] at h
      obtain ⟨b₁, hb₁, hrest⟩ := of_bind_ok h
      obtain ⟨c, hc, hsum⟩ := enter_sum hb₁
      obtain ⟨d, hd, hsum'⟩ := ih hrest
      exact ⟨c + d, sumOver_cons_ok_iff.mpr ⟨c, d, hc, hd, rfl⟩, by omega⟩

/-! ## Burdens against charges -/

/-- No node stands deeper than there are structures above it. -/
theorem depth_le_nesting (k : Kind) : (above : List Kind) → depth k above ≤ nesting above
  | [] => Nat.le_refl 0
  | a :: above => by
      have habove := depth_le_nesting a above
      cases hdeepens : deepens k (a :: above) with
      | false =>
          rw [depth_of_not_deepens hdeepens, nesting_cons]
          split <;> omega
      | true =>
          rw [depth_of_deepens hdeepens, nesting_cons]
          simp only [deepens, Bool.or_eq_true, Bool.and_eq_true] at hdeepens
          rcases hdeepens with ⟨ha, -⟩ | ⟨⟨ha, hunder⟩, -⟩
          · rw [if_pos ha]
            omega
          · -- An `else` is no deeper than its structure, which is one of those above.
            obtain rfl : a = .elseClause := beq_iff_eq.mp ha
            cases above with
            | nil => cases hunder
            | cons s above =>
                have hs : isNesting s = true := hunder
                have hlevel : depth .elseClause (s :: above) = depth s above := depth_part hs
                have hrest := depth_le_nesting s above
                rw [hlevel, nesting_cons s, if_pos hs]
                exact Nat.succ_le_succ hrest

/-- The node counts for the same in the burdens and in the complexity. -/
structure Agrees (p : Program) (s : Spot) : Prop where
  hidden : s.above.any hides = true → burden p s = .ok 0
  level : s.above.any hides = false → isNesting s.node.kind = true → depth s.node.kind s.above = nesting s.above
  part : s.above.any hides = false → s.node.kind = .elseClause → underStructure s.above = true

/-- What a node adds to the burdens it adds to the complexity, or less. -/
theorem charge_of_burden {s : Spot} {c : Nat} (h : burden p s = .ok c) :
    ∃ d, charge p 0 s = .ok d ∧ d ≤ c ∧ (d = c ↔ Agrees p s) := by
  cases hhidden : s.above.any hides with
  | true =>
      refine ⟨0, charge_of_hidden hhidden, Nat.zero_le c, fun hc => ?_, fun hs => ?_⟩
      · subst hc
        exact ⟨fun _ => h, by simp [hhidden], by simp [hhidden]⟩
      · have hzero := hs.hidden hhidden
        rw [h] at hzero
        exact (Except.ok.inj hzero).symm
  | false =>
      have hseen : s.above.contains .binaryExpression = false := by
        rw [Bool.eq_false_iff]
        intro hmem
        have hany := List.any_eq_true.mpr ⟨_, List.contains_iff_mem.mp hmem, (rfl : hides .binaryExpression = true)⟩
        simp [hhidden] at hany
      rw [burden, hseen, if_neg Bool.false_ne_true] at h
      by_cases hpart : s.node.kind = .elseClause → underStructure s.above = true
      · have hcharge := charge_of_counted p 0 hhidden hpart
        cases hk : isNesting s.node.kind with
        | true =>
            have hdepth := depth_le_nesting s.node.kind s.above
            rw [weight_structure p _ hk] at h hcharge
            cases h
            refine ⟨_, hcharge, by omega, fun hsame => ?_, fun hs => ?_⟩
            · exact ⟨by simp [hhidden], fun _ _ => by omega, fun _ => hpart⟩
            · have hlevel := hs.level hhidden hk
              omega
        | false =>
            rw [weight_level p hk _ (nesting s.above), h] at hcharge
            exact ⟨c, hcharge, Nat.le_refl c, iff_of_true rfl ⟨by simp [hhidden], by simp [hk], fun _ => hpart⟩⟩
      · -- An `else` outside a structure is a burden and costs nothing.
        obtain ⟨helse, hstray⟩ := Classical.not_imp.mp hpart
        have hcharge : charge p 0 s = .ok 0 := by simp [charge, isLeftOut, helse, hstray]
        have hc : c = 1 := by
          rw [weight, helse] at h
          exact (Except.ok.inj h).symm
        exact ⟨0, hcharge, Nat.zero_le c, iff_of_false (by omega) fun hs => hstray (hs.part hhidden helse)⟩

theorem sumOver_charge_of_burden {ss : List Spot} {c : Nat} (h : sumOver (burden p) ss = .ok c) :
    ∃ d, sumOver (charge p 0) ss = .ok d ∧ d ≤ c ∧ (d = c ↔ ∀ s ∈ ss, Agrees p s) := by
  induction ss generalizing c with
  | nil =>
      cases h
      exact ⟨0, rfl, Nat.le_refl 0, by simp⟩
  | cons s ss ih =>
      obtain ⟨c₁, c₂, hc₁, hc₂, rfl⟩ := sumOver_cons_ok_iff.mp h
      obtain ⟨d₁, hd₁, hle₁, hiff₁⟩ := charge_of_burden hc₁
      obtain ⟨d₂, hd₂, hle₂, hiff₂⟩ := ih hc₂
      refine ⟨d₁ + d₂, sumOver_cons_ok_iff.mpr ⟨d₁, d₂, hd₁, hd₂, rfl⟩, Nat.add_le_add hle₁ hle₂, ?_⟩
      rw [List.forall_mem_cons, ← hiff₁, ← hiff₂]
      omega

/-! ## The body of a function -/

theorem reads_spot {n : Node} (h : p.Reads n) {s : Spot} (hs : s ∈ n.spots []) : p.Reads s.node := by
  apply h.below
  rw [← Node.map_node_spots []]
  exact List.mem_map_of_mem hs

theorem enter_ok {s : Spot} (h : p.Reads s.node) (b : Burdens) : ∃ b', enter p b s = .ok b' := by
  rw [enter]
  split
  · exact ⟨b, rfl⟩
  · dsimp only
    split
    · exact map_ok _ (map_ok _ (operators_ok s.node h))
    · exact ⟨_, rfl⟩

theorem burdens_ok {f : Function} (h : ∀ n ∈ f.node, p.Reads n) : ∃ b, burdens p f = .ok b := by
  rw [burdens]
  split
  · exact ⟨_, rfl⟩
  · rename_i body hbody
    obtain ⟨n, hn, hbody⟩ := Option.bind_eq_some_iff.mp hbody
    have hread := (h n hn).child? hbody
    rw [show collect p 0 Burdens.none body = _ from collect_eq body [] .none rfl]
    exact foldlM_ok _ fun s hs b => enter_ok (reads_spot hread hs) b

/-- The burdens of a function can be told only if its complexity can; their sum is the complexity if all nodes
agree, and more if one does not. -/
theorem cognitive_of_burdens {f : Function} {b : Burdens} (h : burdens p f = .ok b) :
    ∃ total, cognitive p f = .ok total ∧ total ≤ b.sum ∧
      (total = b.sum ↔ ∀ body, f.node.bind body? = some body → ∀ s ∈ body.spots [], Agrees p s) := by
  rw [burdens] at h
  rw [cognitive]
  cases hbody : f.node.bind body? with
  | none =>
      rw [hbody] at h
      cases h
      exact ⟨0, rfl, Nat.le_refl 0, by simp [Burdens.sum, Burdens.none]⟩
  | some body =>
      rw [hbody] at h
      obtain ⟨n, -, hn⟩ := Option.bind_eq_some_iff.mp hbody
      obtain ⟨c, hc, hsum⟩ := foldlM_enter_sum ((collect_eq body [] .none rfl).symm.trans h)
      obtain ⟨d, hd, hle, hiff⟩ := sumOver_charge_of_burden hc
      have hsum : b.sum = c := hsum.trans (Nat.zero_add c)
      refine ⟨d, (cost_body hn p 0).trans hd, hsum ▸ hle, ?_⟩
      rw [hsum, hiff]
      simp

theorem explainCognitive_start (p : Program) (f : Function) : ((Session.start p).explainCognitive f).1 =
    burdens p f >>= fun b => (cognitive p f).map fun total => (b, total) := by
  rw [Session.explainCognitive, show (Session.start p).program = p from rfl, ← measureCognitive_start p f]
  cases burdens p f <;> rfl

/-- The burdens of a function whose definition can be read can be told. Whenever they are told, they sum up to the
complexity or more, and to the complexity exactly if every node of the body counts for the same in both. -/
theorem explainCognitive_sum (p : Program) (f : Function) :
    ((∀ n ∈ f.node, p.Reads n) → ∃ r, ((Session.start p).explainCognitive f).1 = .ok r) ∧
      ∀ b total, ((Session.start p).explainCognitive f).1 = .ok (b, total) → total ≤ b.sum ∧
        (total = b.sum ↔ ∀ body, f.node.bind body? = some body → ∀ s ∈ body.spots [], Agrees p s) := by
  rw [explainCognitive_start]
  constructor
  · intro hread
    obtain ⟨b, hb⟩ := burdens_ok hread
    obtain ⟨total, htotal, -⟩ := cognitive_of_burdens hb
    exact ⟨(b, total), by rw [hb, htotal]; rfl⟩
  · intro b total h
    obtain ⟨b, hb, h⟩ := of_bind_ok h
    obtain ⟨total, htotal, hsum⟩ := cognitive_of_burdens hb
    rw [htotal] at h
    cases h
    exact hsum

/-- A tree of the text `void f(){if(x){}else if(y){}}`. -/
def elseIf : Node :=
  .mk .unit 0 29 [
    .mk .functionDefinition 0 29 [
      .mk .primitiveType 0 4 [] true false,
      .mk .functionDeclarator 5 8 [.mk .identifier 5 6 [] true false, .mk .parameterList 6 8 [] true false] true false,
      .mk .compoundStatement 8 29 [
        .mk .ifStatement 9 28 [
          .mk (.other "if") 9 11 [] false false, .mk .identifier 12 13 [] true false,
          .mk .compoundStatement 14 16 [] true false,
          .mk .elseClause 16 28 [
            .mk (.other "else") 16 20 [] false false,
            .mk .ifStatement 21 28 [
              .mk (.other "if") 21 23 [] false false, .mk .identifier 24 25 [] true false,
              .mk .compoundStatement 26 28 [] true false]
              true false] true false] true false] true false] true false] true false

/-- The burdens of the function can be told, and not all of its nodes agree. -/
theorem explainCognitive_sum_else_if :
    let p := Program.load "void f(){if(x){}else if(y){}}".toList (some elseIf)
    let f : Function := ⟨"f", 1, 1, elseIf.children.head?, [], "void"⟩
    (∀ n ∈ f.node, p.Reads n) ∧ ∃ b total, ((Session.start p).explainCognitive f).1 = .ok (b, total) ∧ total < b.sum ∧
      ∃ body, f.node.bind body? = some body ∧ ¬ ∀ s ∈ body.spots [], Agrees p s := by
  intro p f
  have hread : ∀ n ∈ f.node, p.Reads n := by
    intro n hn
    have hroot : p.Reads elseIf := Program.readable_of_isOk (p := p) (by decide +kernel)
    exact hroot.child (List.mem_of_mem_head? hn)
  obtain ⟨htold, hsum⟩ := explainCognitive_sum p f
  obtain ⟨⟨b, total⟩, hr⟩ := htold hread
  obtain ⟨-, hiff⟩ := hsum b total hr
  have hfour : (((Session.start p).explainCognitive f).1.toOption.map fun r => (r.1.sum, r.2)) = some (4, 3) := by
    decide +kernel
  rw [hr] at hfour
  obtain ⟨hb, htotal⟩ : b.sum = 4 ∧ total = 3 := Prod.mk.inj (Option.some.inj hfour)
  refine ⟨hread, b, total, hr, by omega, _, rfl, fun hagree => ?_⟩
  have hsame := hiff.mpr fun body hbody => Option.some.inj hbody ▸ hagree
  omega

/-- A further `if` of an `else` stays at its level, but one more is counted for it among the burdens. -/
theorem burdens_exceed_else_if :
    let p := Program.load "void f(){if(x){}else if(y){}}".toList (some elseIf)
    (Function.all p).toOption.map (·.map fun f =>
      ((Session.start p).explainCognitive f).1.toOption.map fun r => (r.1.sum, r.2)) = some [some (4, 3)] := by
  decide +kernel

end EsqlAudit.Complexity
