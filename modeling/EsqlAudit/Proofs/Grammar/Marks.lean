import EsqlAudit.Grammar.Unit
import EsqlAudit.Proofs.Grammar.Tokens
import EsqlAudit.Proofs.Syntax.Readable

/-!
# The operators of assignments, increments and member accesses

In every tree that the grammar makes, an assignment, an increment and a member access have one mark among their
children, and it is a token of the text within the node. For expressions this goes with two facts about their places: an
expression starts with its first token, and it does not stop before it starts.
-/

namespace EsqlAudit.Grammar
open Syntax Text

/-! ## Operators in a tree -/

/-- The kinds of expressions whose operator is one mark among several that it could be. -/
def isOperated : Kind → Bool
  | .assignmentExpression | .updateExpression | .fieldExpression => true
  | _ => false

/-- The operators that expressions of the kind can have. -/
def spellings : Kind → List String
  | .assignmentExpression => assignmentOperators
  | .updateExpression => ["++", "--"]
  | .fieldExpression => [".", "->"]
  | _ => []

/-- The token is the operator of an expression of the kind with the children, and its only mark. -/
inductive Operates (op : Token) : Kind → List Node → Prop
  | assignment {left right : Node} : op.text ∈ spellings .assignmentExpression → left.isNamed = true →
      right.isNamed = true → Operates op .assignmentExpression [left, markNode op, right]
  | ahead {operand : Node} : op.text ∈ spellings .updateExpression → operand.isNamed = true →
      Operates op .updateExpression [markNode op, operand]
  | behind {operand : Node} : op.text ∈ spellings .updateExpression → operand.isNamed = true →
      Operates op .updateExpression [operand, markNode op]
  | access {whole field : Node} : op.text ∈ spellings .fieldExpression → whole.isNamed = true →
      field.isNamed = true → Operates op .fieldExpression [whole, markNode op, field]

/-- The node covers the one of the tokens that is its operator, if its kind wants one. -/
def Marked (all : List Token) (n : Node) : Prop :=
  isOperated n.kind = true → ∃ op ∈ all, Operates op n.kind n.children ∧ n.start ≤ op.start ∧ op.stop ≤ n.stop

/-- The node and all below it have their operators. -/
def AllMarked (all : List Token) (n : Node) : Prop :=
  ∀ m ∈ n.walk, Marked all m

/-- The node of the token wants no operator. -/
def Token.IsPlain (t : Token) : Prop :=
  isOperated (Kind.ofName t.text) = false

/-- The kinds that want an operator have long names. -/
theorem length_of_isOperated {text : String} (h : isOperated (Kind.ofName text) = true) : 8 < text.length := by
  have hnamed : ∀ e ∈ Kind.named, isOperated e.1 = true → 8 < e.2.length := by decide
  rw [Kind.ofName] at h
  cases hfind : Kind.named.find? (·.2 == text) with
  | none =>
      rw [hfind] at h
      cases h
  | some e =>
      rw [hfind] at h
      have htext : e.2 = text := beq_iff_eq.mp (List.find?_some hfind :)
      rw [← htext]
      exact hnamed e (List.mem_of_find?_eq_some hfind) h

theorem isPlain_of_length {t : Token} (h : t.text.length ≤ 8) : t.IsPlain := by
  cases hkind : isOperated (Kind.ofName t.text) with
  | false => exact hkind
  | true => exact absurd (length_of_isOperated hkind) (Nat.not_lt.mpr h)

theorem isPlain_of_mem {texts : List String} {t : Token} (htexts : ∀ text ∈ texts, text.length ≤ 8)
    (ht : t.text ∈ texts) : t.IsPlain :=
  isPlain_of_length (htexts _ ht)

theorem isPlain_of_beq {text : String} {t : Token} (hlength : text.length ≤ 8) (ht : (t.text == text) = true) :
    t.IsPlain :=
  isPlain_of_length (beq_iff_eq.mp ht ▸ hlength)

section Nodes

variable {all : List Token} {k : Kind} {t : Token} {start stop : Nat} {children : List Node}

theorem AllMarked.mk {named missing : Bool} (hself : Marked all (.mk k start stop children named missing))
    (h : ∀ c ∈ children, AllMarked all c) : AllMarked all (.mk k start stop children named missing) := by
  intro m hm
  rcases List.mem_cons.mp hm with rfl | hm
  · exact hself
  · obtain ⟨c, hc, hm⟩ := Node.mem_walkAll.mp hm
    exact h c hc m hm

theorem marked_of_kind {n : Node} (hk : isOperated n.kind = false) : Marked all n := by
  intro h
  rw [hk] at h
  cases h

theorem allMarked_spanning (hk : isOperated k = false) (h : ∀ c ∈ children, AllMarked all c) :
    AllMarked all (spanning k start stop children) :=
  .mk (marked_of_kind hk) h

theorem allMarked_leafOf (hk : isOperated k = false) : AllMarked all (leafOf k t) :=
  .mk (marked_of_kind hk) (by simp)

theorem allMarked_markNode (ht : t.IsPlain) : AllMarked all (markNode t) :=
  .mk (marked_of_kind ht) (by simp)

theorem allMarked_missingNode (fin : Nat) : AllMarked all (missingNode fin) :=
  .mk (marked_of_kind rfl) (by simp)

end Nodes

theorem forall_mem_two {P : Node → Prop} {a b : Node} (ha : P a) (hb : P b) : ∀ c ∈ [a, b], P c :=
  List.forall_mem_cons.mpr ⟨ha, List.forall_mem_singleton.mpr hb⟩

theorem forall_mem_three {P : Node → Prop} {a b c : Node} (ha : P a) (hb : P b) (hc : P c) : ∀ d ∈ [a, b, c], P d :=
  List.forall_mem_cons.mpr ⟨ha, forall_mem_two hb hc⟩

/-! ## Tokens of a text -/

/-- The tokens stand in order before `fin`, and the nodes of marks want no operator. -/
structure Lexed (fin : Nat) (all : List Token) : Prop where
  spaced : Spaced Token.start Token.stop fin 0 all
  plain : ∀ t ∈ all, t.cls = .mark → t.IsPlain

/-- Where the first of the tokens starts, or the text ends. -/
def startOf (fin : Nat) : List Token → Nat
  | [] => fin
  | t :: _ => t.start

variable {fin s : Nat} {all ts rest more : List Token} {t : Token} {n node left : Node}

theorem Lexed.bounds (hl : Lexed fin all) (ht : t ∈ all) : t.start < t.stop ∧ t.stop ≤ fin :=
  (hl.spaced.mem ht).2

theorem Lexed.stop_le (hl : Lexed fin all) (h : t :: rest <:+ all) (hmore : more <:+ rest) :
    t.stop ≤ startOf fin more := by
  cases hl.spaced.suffix h with
  | cons _ _ hfin hrest =>
      cases hrest.suffix hmore with
      | nil => exact hfin
      | cons hstart _ _ _ => exact hstart

theorem Lexed.startOf_le (hl : Lexed fin all) (h : ts <:+ all) (hrest : rest <:+ ts.tail) :
    startOf fin ts ≤ startOf fin rest := by
  cases ts with
  | nil =>
      obtain rfl := List.suffix_nil.mp hrest
      exact Nat.le_refl _
  | cons t ts =>
      have hstop := hl.stop_le h hrest
      have hbounds := hl.bounds (h.subset List.mem_cons_self)
      rw [startOf]
      omega

theorem Lexed.le_stop (hl : Lexed fin all) (h : t :: rest <:+ all) : startOf fin (t :: rest) ≤ t.stop :=
  Nat.le_of_lt (hl.bounds (h.subset List.mem_cons_self)).1

theorem Lexed.le_markStop (hl : Lexed fin all) (m : String) {stop : Nat} (h : t :: rest <:+ all) (hmore : more <:+ rest)
    (hstop : t.start ≤ stop) : t.start ≤ markStop m stop more := by
  cases more with
  | nil => exact hstop
  | cons c more =>
      have hbefore := hl.stop_le h hmore
      have ht := hl.le_stop h
      have hc := hl.le_stop (hmore.trans ((List.suffix_cons t rest).trans h))
      simp only [startOf] at hbefore ht hc
      rw [markStop]
      split
      · omega
      · exact hstop

theorem suffix_all_of_cons (h : t :: rest <:+ all) : rest <:+ all :=
  (List.suffix_cons t rest).trans h

theorem scan_mark_text {c : Char} {cs : List Char} {len : Nat} (h : scan c cs = (len, some .mark)) :
    String.ofList ((c :: cs).take len) ∈ compoundMarks ++ simpleMarks.map String.singleton := by
  rw [scan] at h
  split at h
  · cases h
  split at h
  · cases h
  split at h
  · cases h
  split at h
  · split at h <;> cases h
  split at h
  · cases h
  split at h
  · cases h
  split at h
  · rename_i m hm
    cases h
    have hpre := List.isPrefixOf_iff_prefix.mp (List.find?_some hm :)
    rw [← String.length_toList, ← List.prefix_iff_eq_take.mp hpre, String.ofList_toList]
    exact List.mem_append_left _ (List.mem_of_find?_eq_some hm)
  · split at h
    · rename_i hc
      cases h
      exact List.mem_append_right _ (List.mem_map_of_mem (List.contains_iff_mem.mp hc))
    · cases h

theorem tokensFrom_plain (pos skip : Nat) (cs : List Char) :
    ∀ t ∈ tokensFrom pos skip cs, t.cls = .mark → t.IsPlain := by
  induction cs generalizing pos skip with
  | nil => simp [tokensFrom]
  | cons c rest ih =>
      cases skip with
      | succ skip => exact ih (pos + 1) skip
      | zero =>
          simp only [tokensFrom]
          split
          · rename_i len cls hscan
            rw [List.forall_mem_cons]
            refine ⟨fun hcls => ?_, ih (pos + 1) (len - 1)⟩
            dsimp only at hcls
            subst hcls
            exact isPlain_of_mem (by decide) (scan_mark_text hscan)
          · exact ih (pos + 1) _

theorem tokenize_lexed (bytes : List UInt8) : Lexed bytes.length (tokenize bytes) :=
  ⟨tokenize_spaced bytes, tokensFrom_plain 0 0 _⟩

/-! ## Expressions -/

/-- An expression that starts at `s`, with its operators. -/
structure Fine (all : List Token) (s : Nat) (n : Node) : Prop where
  named : n.isNamed = true
  start_eq : n.start = s
  le_stop : s ≤ n.stop
  marked : AllMarked all n

theorem fine_spanning {k : Kind} {stop : Nat} {children : List Node} (hk : isOperated k = false) (hstop : s ≤ stop)
    (h : ∀ c ∈ children, AllMarked all c) : Fine all s (spanning k s stop children) :=
  ⟨rfl, rfl, hstop, allMarked_spanning hk h⟩

theorem Lexed.fine_operated (hl : Lexed fin all) {k : Kind} {op : Token} {stop : Nat} {children : List Node}
    (hop : op ∈ all) (hoperates : Operates op k children) (hstart : s ≤ op.start) (hstop : op.stop ≤ stop)
    (h : ∀ c ∈ children, AllMarked all c) : Fine all s (spanning k s stop children) := by
  have hbounds := hl.bounds hop
  refine ⟨rfl, rfl, ?_, .mk (fun _ => ⟨op, hop, hoperates, hstart, hstop⟩) h⟩
  change s ≤ stop
  omega

theorem fine_missingNode : Fine all fin (missingNode fin) :=
  ⟨rfl, rfl, Nat.le_refl _, allMarked_missingNode fin⟩

theorem Lexed.leafKind_plain (hl : Lexed fin all) (ht : t ∈ all) : isOperated (leafKind t) = false := by
  rw [leafKind]
  cases hcls : t.cls with
  | mark => exact hl.plain t ht hcls
  | _ => rfl

theorem Lexed.fine_leafOf (hl : Lexed fin all) (ht : t ∈ all) {k : Kind} (hk : isOperated k = false) :
    Fine all t.start (leafOf k t) :=
  ⟨rfl, rfl, Nat.le_of_lt (hl.bounds ht).1, allMarked_leafOf hk⟩

theorem Lexed.fine_operand (hl : Lexed fin all) (ht : t ∈ all) : Fine all t.start (operand t) := by
  rw [operand]
  split
  · exact hl.fine_leafOf ht rfl
  · exact hl.fine_leafOf ht (hl.leafKind_plain ht)

theorem isPlain_of_level {l : Nat} (h : level? t = some l) : t.IsPlain := by
  obtain ⟨before, after, hsplit, -⟩ := List.lookup_eq_some_iff.mp h
  have hmem : t.text ∈ binaryOperators.map (·.1) := by
    rw [hsplit]
    simp
  exact isPlain_of_mem (by decide) hmem

/-- A prefix operator before its operand. -/
theorem Lexed.fine_before (hl : Lexed fin all) {k : Kind} {operand : Node} (hk : unaryKind t = some k)
    (ht : t ∈ all) (hoperand : Fine all s operand) (hs : t.stop ≤ s) : Fine all t.start (before k t operand) := by
  have hbounds := hl.bounds ht
  have hstop := hoperand.le_stop
  have children (hplain : t.IsPlain) : ∀ c ∈ [markNode t, operand], AllMarked all c :=
    forall_mem_two (allMarked_markNode hplain) hoperand.marked
  rw [unaryKind] at hk
  split at hk
  · rename_i htext
    have hmem : t.text ∈ spellings .updateExpression := by simpa [spellings] using htext
    cases hk
    exact hl.fine_operated ht (.ahead hmem hoperand.named) (Nat.le_refl _) (by omega)
      (children (isPlain_of_mem (by decide) hmem))
  split at hk
  · rename_i htext
    cases hk
    exact fine_spanning rfl (by omega) (children (isPlain_of_mem (by decide) (List.contains_iff_mem.mp htext)))
  split at hk
  · rename_i htext
    cases hk
    exact fine_spanning rfl (by omega) (children (isPlain_of_beq (by decide) htext))
  split at hk
  · rename_i htext
    cases hk
    exact fine_spanning rfl (by omega) (children (isPlain_of_beq (by decide) htext))
  · cases hk

theorem length_le_of_tail (h : rest <:+ ts.tail) : rest.length ≤ ts.length - 1 :=
  List.length_tail ▸ h.length_le

theorem length_lt_of_tail (h : t :: rest <:+ ts.tail) : rest.length + 1 < ts.length := by
  have hlength := length_le_of_tail h
  rw [List.length_cons] at hlength
  omega

/-- An operator after its left operand, before the right one. -/
theorem Fine.between {k : Kind} {right : Node} {s' : Nat} (hleft : Fine all s left) (hk : isOperated k = false)
    (ht : t.IsPlain) (hright : Fine all s' right) (hs : s ≤ s') : Fine all s (between k left t right) := by
  have hstop := hright.le_stop
  rw [Grammar.between, hleft.start_eq]
  exact fine_spanning hk (by omega) (forall_mem_three hleft.marked (allMarked_markNode ht) hright.marked)

mutual

theorem primary_fine (hl : Lexed fin all) (ts : List Token) (h : ts <:+ all) :
    Fine all (startOf fin ts) (primary fin ts).value := by
  match ts with
  | [] =>
      rw [primary]
      exact fine_missingNode
  | t :: rest =>
      have ht := h.subset List.mem_cons_self
      have hbounds := hl.bounds ht
      have hrest := suffix_all_of_cons h
      have hinner := expression_fine hl rest hrest
      have hdrop := dropMark_suffix_of_tail ")" (expression fin rest).suffix
      have hlength := hdrop.length_le
      have hoperand := unary_fine hl (dropMark ")" (expression fin rest).rest) (hdrop.trans hrest)
      change Fine all t.start _
      rw [primary]
      dsimp only
      split
      · split
        · have hnext := hl.stop_le h hdrop
          have hstop := hoperand.le_stop
          exact fine_spanning rfl (by omega) (forall_mem_two hinner.marked hoperand.marked)
        · have hnext := hl.stop_le h List.suffix_rfl
          have hstop := hinner.le_stop
          have hclose := hl.le_markStop ")" h (suffix_of_tail (expression fin rest).suffix)
            (Nat.le_trans (Nat.le_of_lt hbounds.1) (Nat.le_trans hnext hstop))
          exact fine_spanning rfl hclose (List.forall_mem_singleton.mpr hinner.marked)
      · exact hl.fine_operand ht
termination_by 10 * ts.length
decreasing_by
  all_goals first
    | omega
    | (simp only [List.length_cons]; omega)

theorem postfixed_fine (hl : Lexed fin all) (ts : List Token) (h : ts <:+ all) :
    Fine all (startOf fin ts) (postfixed fin ts).value := by
  have hhead := primary_fine hl ts h
  have hrest := (primary fin ts).suffix
  have hlength := length_le_of_tail hrest
  rw [postfixed]
  exact suffixes_fine hl _ _ hhead (hl.startOf_le h hrest) ((suffix_of_tail hrest).trans h)
termination_by 10 * ts.length + 2
decreasing_by all_goals omega

theorem suffixes_fine {lo : Nat} (hl : Lexed fin all) (node : Node) (ts : List Token) (hnode : Fine all lo node)
    (hs : lo ≤ startOf fin ts) (h : ts <:+ all) : Fine all lo (suffixes fin node ts).value := by
  match ts with
  | [] =>
      rw [suffixes]
      exact hnode
  | t :: rest =>
      obtain rfl := hnode.start_eq
      have ht := h.subset List.mem_cons_self
      have hbounds := hl.bounds ht
      have hrest := suffix_all_of_cons h
      have hnext := hl.stop_le h List.suffix_rfl
      rw [startOf] at hs
      rw [suffixes.eq_def]
      dsimp only
      split
      -- A call.
      · have hargs := arguments_marked hl rest hrest
        split
        · rename_i args _ heq
          rw [heq] at hargs
          exact fine_spanning rfl (by omega) (List.forall_mem_cons.mpr ⟨hnode.marked, hargs⟩)
        · rename_i args c after hafter heq
          rw [heq] at hargs
          have hc := hafter.trans hrest
          have hbefore := hl.stop_le h hafter
          have hwithin := hl.le_stop hc
          have hlast := hl.stop_le hc List.suffix_rfl
          have hlength : after.length < rest.length := hafter.length_le
          exact suffixes_fine hl _ after
            (fine_spanning rfl (by omega) (List.forall_mem_cons.mpr ⟨hnode.marked, hargs⟩)) (by omega)
            (suffix_all_of_cons hc)
      split
      -- A subscript.
      · have hindex := expression_fine hl rest hrest
        split
        · rename_i index _ heq
          rw [heq] at hindex
          exact fine_spanning rfl (by omega) (forall_mem_two hnode.marked hindex.marked)
        · rename_i index c after hafter heq
          rw [heq] at hindex
          have hc := (suffix_of_tail hafter).trans hrest
          have hdrop := dropMark_suffix_of_tail "]" hafter
          have hbefore := hl.stop_le h (suffix_of_tail hafter)
          have hwithin := hl.le_stop hc
          have hlast := hl.stop_le h hdrop
          have hlength := hdrop.length_le
          exact suffixes_fine hl _ _ (fine_spanning rfl (by omega) (forall_mem_two hnode.marked hindex.marked))
            (by omega) (hdrop.trans hrest)
      split
      -- A member.
      · rename_i htext
        have hop : t.text ∈ spellings .fieldExpression := by simpa [spellings] using htext
        have hmark : AllMarked all (markNode t) := allMarked_markNode (isPlain_of_mem (by decide) hop)
        cases hcase : rest with
        | nil =>
            exact hl.fine_operated ht (.access hop hnode.named rfl) hs (Nat.le_refl _)
              (forall_mem_three hnode.marked hmark (allMarked_missingNode fin))
        | cons f after =>
            have hlength : rest.length = after.length + 1 := congrArg List.length hcase
            rw [hcase] at hrest hnext
            have hf := hrest.subset List.mem_cons_self
            have hfbounds := hl.bounds hf
            have hleaf : Fine all f.start (leaf f) := hl.fine_leafOf hf (hl.leafKind_plain hf)
            have hlast := hl.stop_le hrest List.suffix_rfl
            rw [startOf] at hnext
            exact suffixes_fine hl _ after
              (hl.fine_operated ht (.access hop hnode.named rfl) hs (by omega)
                (forall_mem_three hnode.marked hmark hleaf.marked))
              (by omega) (suffix_all_of_cons hrest)
      split
      -- An increment.
      · rename_i htext
        have hop : t.text ∈ spellings .updateExpression := by simpa [spellings] using htext
        have hmark : AllMarked all (markNode t) := allMarked_markNode (isPlain_of_mem (by decide) hop)
        exact suffixes_fine hl _ rest
          (hl.fine_operated ht (.behind hop hnode.named) hs (Nat.le_refl _) (forall_mem_two hnode.marked hmark))
          (by omega) hrest
      · exact hnode
termination_by 10 * ts.length + 1
decreasing_by
  all_goals first
    | omega
    | (simp only [List.length_cons]; omega)

theorem arguments_marked (hl : Lexed fin all) (ts : List Token) (h : ts <:+ all) :
    ∀ a ∈ (arguments fin ts).value, AllMarked all a := by
  match ts with
  | [] =>
      rw [arguments]
      exact List.forall_mem_nil _
  | t :: rest =>
      have hrest := suffix_all_of_cons h
      rw [arguments]
      dsimp only
      split
      · exact List.forall_mem_nil _
      · have harg := assignment_fine hl (t :: rest) h
        have hdrop : dropMark "," (assignment fin (t :: rest)).rest <:+ rest :=
          (dropMark_suffix "," _).trans (assignment fin (t :: rest)).suffix
        have hlength := hdrop.length_le
        exact List.forall_mem_cons.mpr ⟨harg.marked, arguments_marked hl _ (hdrop.trans hrest)⟩
termination_by 10 * ts.length + 7
decreasing_by
  all_goals first
    | omega
    | (simp only [List.length_cons]; omega)

theorem unary_fine (hl : Lexed fin all) (ts : List Token) (h : ts <:+ all) :
    Fine all (startOf fin ts) (unary fin ts).value := by
  match ts with
  | [] =>
      rw [unary]
      exact postfixed_fine hl [] h
  | t :: rest =>
      rw [unary]
      split
      · rename_i k hk
        exact hl.fine_before hk (h.subset List.mem_cons_self) (unary_fine hl rest (suffix_all_of_cons h))
          (hl.stop_le h List.suffix_rfl)
      · exact postfixed_fine hl (t :: rest) h
termination_by 10 * ts.length + 3
decreasing_by
  all_goals first
    | omega
    | (simp only [List.length_cons]; omega)

theorem binary_fine (hl : Lexed fin all) (least : Nat) (ts : List Token) (h : ts <:+ all) :
    Fine all (startOf fin ts) (binary fin least ts).value := by
  have hleft := unary_fine hl ts h
  have hrest := (unary fin ts).suffix
  have hlength := length_le_of_tail hrest
  rw [binary]
  exact operations_fine hl least _ _ hleft (hl.startOf_le h hrest) ((suffix_of_tail hrest).trans h)
termination_by 10 * ts.length + 4
decreasing_by all_goals omega

theorem operations_fine {lo : Nat} (hl : Lexed fin all) (least : Nat) (left : Node) (ts : List Token)
    (hleft : Fine all lo left) (hs : lo ≤ startOf fin ts) (h : ts <:+ all) :
    Fine all lo (operations fin least left ts).value := by
  match ts with
  | [] =>
      rw [operations]
      exact hleft
  | t :: rest =>
      have hrest := suffix_all_of_cons h
      have hwithin := hl.le_stop h
      rw [operations]
      split
      · exact hleft
      · rename_i l hlevel
        split
        · have hright := binary_fine hl (l + 1) rest hrest
          have hafter := suffix_of_tail (binary fin (l + 1) rest).suffix
          have hlength := hafter.length_le
          have hnext := hl.stop_le h List.suffix_rfl
          have hlast := hl.stop_le h hafter
          exact operations_fine hl least _ _
            (hleft.between rfl (isPlain_of_level hlevel) hright (by omega)) (by omega) (hafter.trans hrest)
        · exact hleft
termination_by 10 * ts.length
decreasing_by
  all_goals first
    | omega
    | (simp only [List.length_cons]; omega)

theorem conditional_fine (hl : Lexed fin all) (ts : List Token) (h : ts <:+ all) :
    Fine all (startOf fin ts) (conditional fin ts).value := by
  have hcond := binary_fine hl 1 ts h
  rw [conditional]
  split
  · rename_i cond _ heq
    rwa [heq] at hcond
  · rename_i cond t rest hrest heq
    rw [heq] at hcond
    have hlength := length_lt_of_tail hrest
    have ht := (suffix_of_tail hrest).trans h
    have hinside := suffix_all_of_cons ht
    dsimp only
    split
    · rename_i htext
      have hyes := assignment_fine hl rest hinside
      have hdrop := dropMark_suffix_of_tail ":" (assignment fin rest).suffix
      have hshorter := hdrop.length_le
      have hno := assignment_fine hl (dropMark ":" (assignment fin rest).rest) (hdrop.trans hinside)
      have hmark : AllMarked all (markNode t) := allMarked_markNode (isPlain_of_beq (by decide) htext)
      have hfirst := hl.startOf_le h hrest
      have hwithin := hl.le_stop ht
      have hlast := hl.stop_le ht hdrop
      have hstop := hno.le_stop
      rw [hcond.start_eq]
      exact fine_spanning rfl (by omega)
        (List.forall_mem_cons.mpr ⟨hcond.marked, forall_mem_three hmark hyes.marked hno.marked⟩)
    · exact hcond
termination_by 10 * ts.length + 5
decreasing_by all_goals omega

theorem assignment_fine (hl : Lexed fin all) (ts : List Token) (h : ts <:+ all) :
    Fine all (startOf fin ts) (assignment fin ts).value := by
  have hleft := conditional_fine hl ts h
  rw [assignment]
  split
  · rename_i left _ heq
    rwa [heq] at hleft
  · rename_i left t rest hrest heq
    rw [heq] at hleft
    have hlength := length_lt_of_tail hrest
    have ht := (suffix_of_tail hrest).trans h
    dsimp only
    split
    · rename_i htext
      have hop : t.text ∈ spellings .assignmentExpression := List.contains_iff_mem.mp htext
      have hright := assignment_fine hl rest (suffix_all_of_cons ht)
      have hmark : AllMarked all (markNode t) := allMarked_markNode (isPlain_of_mem (by decide) hop)
      have hfirst := hl.startOf_le h hrest
      have hlast := hl.stop_le ht List.suffix_rfl
      have hstop := hright.le_stop
      rw [between, hleft.start_eq]
      exact hl.fine_operated (ht.subset List.mem_cons_self) (.assignment hop hleft.named hright.named) hfirst
        (by omega) (forall_mem_three hleft.marked hmark hright.marked)
    · exact hleft
termination_by 10 * ts.length + 6
decreasing_by all_goals omega

theorem expression_fine (hl : Lexed fin all) (ts : List Token) (h : ts <:+ all) :
    Fine all (startOf fin ts) (expression fin ts).value := by
  have hleft := assignment_fine hl ts h
  have hrest := (assignment fin ts).suffix
  have hlength := length_le_of_tail hrest
  rw [expression]
  exact commas_fine hl _ _ hleft (hl.startOf_le h hrest) ((suffix_of_tail hrest).trans h)
termination_by 10 * ts.length + 8
decreasing_by all_goals omega

theorem commas_fine {lo : Nat} (hl : Lexed fin all) (left : Node) (ts : List Token) (hleft : Fine all lo left)
    (hs : lo ≤ startOf fin ts) (h : ts <:+ all) : Fine all lo (commas fin left ts).value := by
  match ts with
  | [] =>
      rw [commas]
      exact hleft
  | t :: rest =>
      have hrest := suffix_all_of_cons h
      have hwithin := hl.le_stop h
      rw [commas]
      dsimp only
      split
      · rename_i htext
        have hright := assignment_fine hl rest hrest
        have hafter := suffix_of_tail (assignment fin rest).suffix
        have hlength := hafter.length_le
        have hnext := hl.stop_le h List.suffix_rfl
        have hlast := hl.stop_le h hafter
        exact commas_fine hl _ _
          (hleft.between rfl (isPlain_of_beq (by decide) htext) hright (by omega)) (by omega)
          (hafter.trans hrest)
      · exact hleft
termination_by 10 * ts.length
decreasing_by
  all_goals first
    | omega
    | (simp only [List.length_cons]; omega)

end

end EsqlAudit.Grammar
