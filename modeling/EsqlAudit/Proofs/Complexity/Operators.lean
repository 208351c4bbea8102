import EsqlAudit.Complexity.Vocabulary
import EsqlAudit.Proofs.Grammar.MarkedTrees
import EsqlAudit.Proofs.Grammar.RoundTrip
import EsqlAudit.Proofs.Syntax.Decoding

/-!
# Operators as they are written

The operator that an assignment, an increment or a member access stands for is looked for in texts that hold more than
the operator: in the left operand of an assignment, in all of an increment or an access. It is the one that is written
unless something in these texts is taken for it.
-/

namespace EsqlAudit.Text

theorem contains_iff {part s : List Char} : contains part s = true ↔ part <:+: s := by
  induction s with
  | nil => simp [contains]
  | cons c rest ih => rw [contains, Bool.or_eq_true, List.isPrefixOf_iff_prefix, ih, List.infix_cons_iff]

end EsqlAudit.Text

namespace EsqlAudit.Grammar
open Syntax Text Utf8

theorem byteOf_ofNat (b : UInt8) : byteOf (Char.ofNat b.toNat) = b := by
  have hvalid : b.toNat.isValidChar := .inl (Nat.lt_trans b.toNat_lt (by decide))
  have hback : (Char.ofNat b.toNat).toNat = b.toNat := by
    rw [Char.ofNat, dif_pos hvalid]
    rfl
  rw [byteOf, hback, UInt8.ofNat_toNat]

/-- The bytes under a token of ASCII characters are those of its text. -/
theorem spelled_of_mem_tokenize {text : List Char} {t : Token} (ht : t ∈ tokenize (encode text))
    (hascii : Ascii t.text.toList) (root : Option Node) :
    (Program.load text root).Spelled t.start t.stop t.text.toList := by
  have hslice := Structured.tokensFrom_slice [] 0 _ t ht
  obtain ⟨-, hlt, hfin⟩ := (tokenize_spaced (encode text)).mem ht
  rw [List.nil_append, slice] at hslice
  refine ⟨hascii, ?_, ?_⟩
  · rw [← hslice]
    simp [Program.load, List.map_take, List.map_drop, Function.comp_def, byteOf_ofNat]
  · have hlength := congrArg List.length hslice
    rw [List.length_take, List.length_drop, List.length_map] at hlength
    omega

end EsqlAudit.Grammar

namespace EsqlAudit.Complexity
open Syntax Grammar Utf8

variable {p : Program} {n : Node}

theorem mentions_iff {text part : String} : mentions text part = true ↔ part.toList <:+: text.toList :=
  Text.contains_iff

/-! ## The operator that is found -/

/-- Nothing that the operands are written with is taken for the operator `op`. The texts that are searched can be read;
the left operand of an assignment has no `=` in it, and where the second of two operators is written, the first does
not occur. -/
def Undisturbed (p : Program) (n : Node) (op : String) : Prop :=
  match n.kind with
  | .assignmentExpression =>
    ∃ left ∈ n.children.head?, ∃ text, p.nodeText left = .ok text ∧ (text = op ∨ ¬ "=".toList <:+: text.toList)
  | .updateExpression => ∃ text, p.nodeText n = .ok text ∧ (op = "++" ∨ ¬ "++".toList <:+: text.toList)
  | .fieldExpression => ∃ text, p.nodeText n = .ok text ∧ (op = "." ∨ ¬ ".".toList <:+: text.toList)
  | _ => False

/-- Of two operators the first is found if it occurs in the text of the node, and the second otherwise. -/
theorem choice_iff {first second op : String} (hne : first ≠ second) (hop : op ∈ [first, second])
    (hcovers : ∀ text, p.nodeText n = .ok text → op.toList <:+: text.toList) :
    (p.nodeText n).map (fun t => some (if mentions t first then first else second)) = .ok (some op) ↔
      ∃ text, p.nodeText n = .ok text ∧ (op = first ∨ ¬ first.toList <:+: text.toList) := by
  cases htext : p.nodeText n with
  | error e => simp [Except.map]
  | ok text =>
      have hcover := hcovers text htext
      by_cases hfirst : first.toList <:+: text.toList
      · have hfound : mentions text first = true := mentions_iff.mpr hfirst
        simp [Except.map, hfound, hfirst, eq_comm]
      · have hmissed : mentions text first = false := Bool.eq_false_iff.mpr (mt mentions_iff.mp hfirst)
        have hsecond : op = second := by
          rcases List.mem_cons.mp hop with rfl | hop
          · exact absurd hcover hfirst
          · exact List.mem_singleton.mp hop
        simp [Except.map, hmissed, hfirst, hsecond]

/-- The first of two texts is taken for the second if it fits as well. -/
theorem firstText_second_iff {part op : String} {left mark : Node} {rest : List Node}
    (hmark : p.nodeText mark = .ok op) (hop : mentions op part = true) :
    firstText p (mentions · part) (left :: mark :: rest) = .ok (some op) ↔
      ∃ text, p.nodeText left = .ok text ∧ (text = op ∨ ¬ part.toList <:+: text.toList) := by
  rw [firstText]
  cases htext : p.nodeText left with
  | error e => simp
  | ok text =>
      by_cases hleft : part.toList <:+: text.toList
      · have hfound : mentions text part = true := mentions_iff.mpr hleft
        simp [hfound, hleft]
      · have hmissed : mentions text part = false := Bool.eq_false_iff.mpr (mt mentions_iff.mp hleft)
        simp [hmissed, firstText, hmark, hop, hleft]

/-- All operators of assignments, increments and member accesses. -/
def allSpellings : List String :=
  [Kind.assignmentExpression, .updateExpression, .fieldExpression].flatMap spellings

theorem mem_allSpellings {k : Kind} {op : String} (h : op ∈ spellings k) : op ∈ allSpellings := by
  cases k with
  | assignmentExpression => exact List.mem_flatMap.mpr ⟨.assignmentExpression, by simp, h⟩
  | updateExpression => exact List.mem_flatMap.mpr ⟨.updateExpression, by simp, h⟩
  | fieldExpression => exact List.mem_flatMap.mpr ⟨.fieldExpression, by simp, h⟩
  | _ => cases h

theorem allSpellings_ascii : ∀ op ∈ allSpellings, ∀ c ∈ op.toList, c.toNat < 128 := by decide

theorem allSpellings_ne_nil : ∀ op ∈ allSpellings, op.toList ≠ [] := by decide

theorem assignmentOperators_mention : ∀ op ∈ assignmentOperators, mentions op "=" = true := by decide

section Tokens

variable {text : List Char} {root : Option Node} {op : Token}

theorem spelled_operator {k : Kind} (hmem : op ∈ tokenize (encode text)) (hop : op.text ∈ spellings k) :
    (Program.load text root).Spelled op.start op.stop op.text.toList :=
  spelled_of_mem_tokenize hmem (allSpellings_ascii op.text (mem_allSpellings hop)) root

theorem nodeText_markNode {k : Kind} (hmem : op ∈ tokenize (encode text)) (hop : op.text ∈ spellings k) :
    (Program.load text root).nodeText (markNode op) = .ok op.text := by
  have hspelled : (Program.load text root).Spelled (markNode op).start (markNode op).stop op.text.toList :=
    spelled_operator hmem hop
  rw [hspelled.nodeText, String.ofList_toList]

/-- A node that covers its operator has it in its text. -/
theorem operator_in_text {k : Kind} (hmem : op ∈ tokenize (encode text)) (hop : op.text ∈ spellings k)
    (hstart : n.start ≤ op.start) (hstop : op.stop ≤ n.stop) :
    ∀ t, (Program.load text root).nodeText n = .ok t → op.text.toList <:+: t.toList := by
  intro t ht
  exact (spelled_operator hmem hop).infix_nodeText (allSpellings_ne_nil op.text (mem_allSpellings hop)) hstart hstop ht

theorem operatorOf_marked_iff (h : Marked (tokenize (encode text)) n) (hk : isOperated n.kind = true) :
    ∃ c op, n.children.filter (fun d => !d.isNamed) = [c] ∧ (Program.load text root).nodeText c = .ok op ∧
      op ∈ spellings n.kind ∧
      (operatorOf (Program.load text root) n = .ok (some op) ↔ Undisturbed (Program.load text root) n op) := by
  obtain ⟨op, hmem, hoperates, hstart, hstop⟩ := h hk
  obtain ⟨kind, start, stop, children, named, missing⟩ := n
  rw [Node.kind, Node.children] at hoperates
  have hunnamed : (markNode op).isNamed = false := rfl
  refine ⟨markNode op, op.text, ?_⟩
  cases hoperates with
  | @assignment left right hop hleft hright =>
      have hmark : (Program.load text root).nodeText (markNode op) = .ok op.text := nodeText_markNode hmem hop
      refine ⟨by simp [Node.children, hleft, hright, hunnamed], hmark, hop, ?_⟩
      refine (firstText_second_iff hmark (assignmentOperators_mention op.text hop)).trans ⟨fun h => ⟨left, rfl, h⟩, ?_⟩
      rintro ⟨_, ⟨⟩, h⟩
      exact h
  | ahead hop hoperand =>
      refine ⟨by simp [Node.children, hoperand, hunnamed], nodeText_markNode hmem hop, hop, ?_⟩
      exact choice_iff (by decide) hop (operator_in_text hmem hop hstart hstop)
  | behind hop hoperand =>
      refine ⟨by simp [Node.children, hoperand, hunnamed], nodeText_markNode hmem hop, hop, ?_⟩
      exact choice_iff (by decide) hop (operator_in_text hmem hop hstart hstop)
  | access hop hwhole hfield =>
      refine ⟨by simp [Node.children, hwhole, hfield, hunnamed], nodeText_markNode hmem hop, hop, ?_⟩
      exact choice_iff (by decide) hop (operator_in_text hmem hop hstart hstop)

end Tokens

/-- In the tree of any text, an assignment, an increment and a member access have one mark among their children. The
operator that they stand for is that mark exactly if nothing in their operands is taken for an operator. -/
theorem operator_written_iff (text : List Char) :
    ∃ root, tree? text = some root ∧ ∀ n ∈ root.walk, isOperated n.kind = true →
      ∃ c op, n.children.filter (fun d => !d.isNamed) = [c] ∧
        (Program.load text (some root)).nodeText c = .ok op ∧ op ∈ spellings n.kind ∧
        (operatorOf (Program.load text (some root)) n = .ok (some op) ↔
          Undisturbed (Program.load text (some root)) n op) := by
  obtain ⟨root, hparse, hmarked⟩ := parse_marked (encode text)
  refine ⟨root, by rw [tree?, hparse]; rfl, fun n hn hk => ?_⟩
  exact operatorOf_marked_iff (hmarked n hn) hk

/-! ## An operand that is taken for the operator -/

section Nested
open Structured

/-- A token of a class from byte `start` on. -/
def tokenAt (cls : TokenClass) (text : String) (start : Nat) : Token :=
  ⟨cls, text, start, start + text.length⟩

/-- An assignment in the subscript on the left of another one. -/
def nestedSource : List Char := "int f()\x7ba[i=1]=2;\x7d".toList

/-- The tokens of the statement from byte 8 on. -/
def nestedTokens : List Token :=
  [tokenAt .word "a" 8, tokenAt .mark "[" 9, tokenAt .word "i" 10, tokenAt .mark "=" 11, tokenAt .number "1" 12,
    tokenAt .mark "]" 13, tokenAt .mark "=" 14, tokenAt .number "2" 15, tokenAt .mark ";" 16, tokenAt .mark "\x7d" 17]

/-- The assignment in the subscript. -/
def innerAssignment : Node :=
  between .assignmentExpression (leafOf .identifier (tokenAt .word "i" 10)) (tokenAt .mark "=" 11)
    (leafOf .numberLiteral (tokenAt .number "1" 12))

/-- The assignment to the element. -/
def outerAssignment : Node :=
  between .assignmentExpression
    (spanning .subscriptExpression 8 14 [leafOf .identifier (tokenAt .word "a" 8), innerAssignment])
    (tokenAt .mark "=" 14) (leafOf .numberLiteral (tokenAt .number "2" 15))

/-- A name or a number before tokens that do not go on with it. -/
theorem nested_operand {fin : Nat} {t : Token} {k : Kind} {rest : List Token} (hkind : leafKind t = k)
    (hmarks : t.text ∉ "(" :: (unaryMarks ++ typeWords)) (hrest : ∀ u ∈ rest.head?, u.text ∉ suffixMarks)
    (hlevel : ∀ u ∈ rest.head?, ∀ l ∈ level? u, l < 1) : (binary fin 1 (t :: rest)).Gives (leafOf k t) rest :=
  binary_gives (unary_token hkind hmarks hrest) (operations_stop hlevel)

theorem innerAssignment_read : (expression 18 (nestedTokens.drop 2)).Gives innerAssignment (nestedTokens.drop 5) := by
  have hend : IsEnd (tokenAt .mark "]" 13) := isEnd_of_text rfl (by decide)
  have hleft : (binary 18 1 (nestedTokens.drop 2)).Gives (leafOf .identifier (tokenAt .word "i" 10))
      (nestedTokens.drop 3) := nested_operand rfl (by decide) (by decide) (by decide)
  have hright : (binary 18 1 (nestedTokens.drop 4)).Gives (leafOf .numberLiteral (tokenAt .number "1" 12))
      (nestedTokens.drop 5) := nested_operand rfl (by decide) (by decide) (by decide)
  exact hend.expression (assignment_gives (conditional_gives hleft (by decide)) (by decide) (hend.assignment hright))

theorem outerAssignment_read : (expression 18 nestedTokens).Gives outerAssignment (nestedTokens.drop 8) := by
  have hend : IsEnd (tokenAt .mark ";" 16) := isEnd_of_text rfl (by decide)
  have hname : (primary 18 nestedTokens).Gives (leafOf .identifier (tokenAt .word "a" 8)) (nestedTokens.drop 1) :=
    primary_operand (by decide)
  have helement := postfixed_suffixes hname
    (suffixes_subscript rfl rfl innerAssignment_read (suffixes_stop (by decide)))
  have hleft : (binary 18 1 nestedTokens).Gives _ (nestedTokens.drop 6) :=
    binary_gives (unary_gives (by decide) helement) (operations_stop (by decide))
  have hright : (binary 18 1 (nestedTokens.drop 7)).Gives (leafOf .numberLiteral (tokenAt .number "2" 15))
      (nestedTokens.drop 8) := nested_operand rfl (by decide) (by decide) (by decide)
  exact hend.expression (assignment_gives (conditional_gives hleft (by decide)) (by decide) (hend.assignment hright))

/-- The statement that the function consists of. -/
theorem nestedBlock_read : (compound 18 (tokenAt .mark "\x7b" 7) nestedTokens).Gives
    (spanning .compoundStatement 7 18 [spanning .expressionStatement 8 17 [outerAssignment]]) [] := by
  have hstatement := statement_expression (by decide) (by decide) (expressionStatement_gives outerAssignment_read rfl)
  exact compound_gives (statements_gives (by decide) hstatement (statements_stop rfl))

theorem nestedSource_ascii : Ascii nestedSource := by
  rw [Ascii]
  decide

theorem operatorOf_outerAssignment (root : Option Node) :
    operatorOf (Program.load nestedSource root) outerAssignment = .ok (some "a[i=1]") := by
  have hleft : mentions "a[i=1]" "=" = true := by decide
  have htext : (Program.load nestedSource root).nodeText (spanning .subscriptExpression 8 14
      [leafOf .identifier (tokenAt .word "a" 8), innerAssignment]) = .ok "a[i=1]" := by
    rw [Program.nodeText_ascii nestedSource_ascii]
    decide
  rw [operatorOf, outerAssignment, between, spanning]
  simp only [Node.kind, Node.children, firstText, htext, hleft, if_true]

/-- The operator that is written in `a[i=1]=2` is `=`; the one that is found is the whole left operand. -/
theorem operand_taken_for_operator :
    ∃ root n c, tree? nestedSource = some root ∧ n ∈ root.walk ∧ n.kind = .assignmentExpression ∧
      n.children.filter (fun d => !d.isNamed) = [c] ∧
      (Program.load nestedSource (some root)).nodeText c = .ok "=" ∧
      operatorOf (Program.load nestedSource (some root)) n = .ok (some "a[i=1]") := by
  have htokens : tokenize (encode nestedSource) = tokenAt .word "int" 0 :: tokenAt .word "f" 4 :: tokenAt .mark "(" 5 ::
      tokenAt .mark ")" 6 :: tokenAt .mark "\x7b" 7 :: nestedTokens := by decide +kernel
  have hlength : (encode nestedSource).length = 18 := by decide
  have hparse := parse_definition htokens rfl rfl rfl rfl (by decide) rfl (by rw [hlength]; exact nestedBlock_read)
  refine ⟨_, outerAssignment, markNode (tokenAt .mark "=" 14), by rw [tree?, hparse]; rfl, ?_, rfl, rfl, ?_,
    operatorOf_outerAssignment _⟩
  · simp [spanning, definitionNode, Node.walk, Node.walkAll, Node.mem_walk_self]
  · rw [Program.nodeText_ascii nestedSource_ascii]
    decide

end Nested

end EsqlAudit.Complexity
