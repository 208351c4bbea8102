import EsqlAudit.Proofs.Grammar.Lexemes
import EsqlAudit.Proofs.Grammar.Rules
import EsqlAudit.Proofs.Grammar.Shapes
import EsqlAudit.Proofs.Syntax.Ascii

/-!
# Expressions are read back

The rule for binary operators makes of the tokens of a written expression a tree that shows the expression: levels,
the side on which operators group and parentheses are all respected.
-/

namespace EsqlAudit.Grammar.Structured
open Syntax Text Utf8

/-! ## Tokens over a text -/

def lexemeOf (t : Token) : Lexeme := ⟨t.cls, t.text⟩

theorem map_lexemeOf_between {ts : List Token} {opening closing : String} {ls : List Lexeme}
    (h : ts.map lexemeOf = mark opening :: (ls ++ [mark closing])) :
    ∃ t us c, ts = t :: (us ++ [c]) ∧ t.text = opening ∧ us.map lexemeOf = ls ∧ c.text = closing := by
  obtain ⟨t, vs, rfl, ht, hvs⟩ := List.map_eq_cons_iff.mp h
  obtain ⟨us, ws, rfl, hus, hws⟩ := List.map_eq_append_iff.mp hvs
  obtain ⟨c, rfl, hc⟩ := List.map_eq_singleton_iff.mp hws
  exact ⟨t, us, c, rfl, congrArg Lexeme.text ht, hus, congrArg Lexeme.text hc⟩

/-- The tokens stand in the text one after the other, each over its own characters. -/
structure Placed (s : List Char) (ts : List Token) : Prop where
  apart : ts.Pairwise fun a b => a.stop ≤ b.start
  covers : ∀ t ∈ ts, t.start < t.stop ∧ slice s t.start t.stop = t.text.toList

variable {s : List Char} {t c : Token} {ts us rest : List Token}

theorem Placed.sublist (h : Placed s ts) (hsub : us.Sublist ts) : Placed s us :=
  ⟨h.apart.sublist hsub, fun t ht => h.covers t (hsub.subset ht)⟩

theorem Placed.left (h : Placed s (ts ++ us)) : Placed s ts :=
  h.sublist (List.sublist_append_left ts us)

theorem Placed.right (h : Placed s (ts ++ us)) : Placed s us :=
  h.sublist (List.sublist_append_right ts us)

theorem Placed.tail (h : Placed s (t :: ts)) : Placed s ts :=
  h.sublist (List.sublist_cons_self t ts)

/-- The text under a node that covers a token. -/
theorem Placed.nodeText (hs : Ascii s) (h : Placed s (t :: ts)) (root : Option Node) {n : Node}
    (hstart : n.start = t.start) (hstop : n.stop = t.stop) : (Program.load s root).nodeText n = .ok t.text := by
  rw [Program.nodeText_ascii hs, hstart, hstop, (h.covers t List.mem_cons_self).2, String.ofList_toList]

/-- The text under a node that starts with an opening parenthesis and goes on beyond it. -/
theorem Placed.nodeText_parenthesis (hs : Ascii s) (h : Placed s (t :: ts)) (ht : t.text = "(") (root : Option Node)
    {n : Node} (hstart : n.start = t.start) (hstop : t.stop ≤ n.stop) :
    ∃ rest, (Program.load s root).nodeText n = .ok (String.ofList ('(' :: rest)) := by
  obtain ⟨hlt, hslice⟩ := h.covers t List.mem_cons_self
  have hfirst : ((s.drop t.start).take (t.stop - t.start)).head? = some '(' := by
    rw [slice] at hslice
    rw [hslice, ht]
    rfl
  rw [Program.nodeText_ascii hs, hstart, slice]
  cases hdrop : s.drop t.start with
  | nil => simp [hdrop] at hfirst
  | cons a more =>
      obtain ⟨m, hm⟩ : ∃ m, n.stop - t.start = m + 1 := ⟨n.stop - t.start - 1, by omega⟩
      obtain ⟨k, hk⟩ : ∃ k, t.stop - t.start = k + 1 := ⟨t.stop - t.start - 1, by omega⟩
      rw [hdrop, hk, List.take_succ_cons, List.head?_cons] at hfirst
      cases hfirst
      exact ⟨more.take m, by rw [hm, List.take_succ_cons]⟩

/-! ## Names and numerals are no marks -/

theorem Name.first (x : Name) : ∃ c cs, x.text.toList = c :: cs ∧ startsWord c = true ∧
    (∀ d ∈ cs, isNameChar d = true) ∧ x.text ∉ reserved := by
  have hvalid := x.valid
  simp only [isName] at hvalid
  split at hvalid
  · simp at hvalid
  · rename_i c cs htext
    simp only [Bool.and_eq_true, List.all_eq_true, Bool.not_eq_true', List.contains_eq_mem,
      decide_eq_false_iff_not] at hvalid
    exact ⟨c, cs, htext, hvalid.1.1, hvalid.1.2, hvalid.2⟩

/-- A name is none of some texts that are reserved or do not start like a word. -/
theorem Name.not_mem (x : Name) (texts : List String)
    (h : ∀ m ∈ texts, m ∈ reserved ∨ m.toList.head?.any startsWord = false) : x.text ∉ texts := by
  intro hmem
  obtain ⟨c, cs, htext, hc, _, hreserved⟩ := x.first
  rcases h _ hmem with hr | hr
  · exact hreserved hr
  · simp [htext, hc] at hr

/-- A numeral is none of some texts that do not start with a digit. -/
theorem Numeral.not_mem (n : Numeral) (texts : List String)
    (h : ∀ m ∈ texts, m.toList.head?.any Char.isDigit = false) : n.text ∉ texts := by
  intro hmem
  have hvalid := n.valid
  have hfirst := h _ hmem
  simp only [isNumeral, Bool.and_eq_true, Bool.not_eq_true', List.isEmpty_eq_false_iff, List.all_eq_true] at hvalid
  obtain ⟨c, cs, htext⟩ := List.exists_cons_of_ne_nil hvalid.1
  simp [htext, hvalid.2 c (by simp [htext])] at hfirst

/-- Marks and words before an operand. -/
def unaryMarks : List String := ["++", "--", "!", "~", "-", "+", "&", "*", "sizeof"]

theorem unaryKind_eq_none (h : t.text ∉ unaryMarks) : unaryKind t = none := by
  simp only [unaryMarks, List.mem_cons, List.not_mem_nil, or_false, not_or] at h
  simp [unaryKind, h]

theorem operators_lookup : ∀ a ∈ binaryOperators, binaryOperators.lookup a.1 = some a.2 := by decide

theorem operators_level : ∀ a ∈ binaryOperators, 1 ≤ a.2 ∧ a.2 ≤ 10 := by decide

theorem operators_not_mem : ∀ a ∈ binaryOperators, a.1 ∉ ")" :: suffixMarks := by decide

theorem operators_kind : ∀ a ∈ binaryOperators, Kind.ofName a.1 = .other a.1 := by decide

theorem Operator.level?_eq {o : Operator} (ht : t.text = o.text) : level? t = some o.level := by
  rw [level?, ht]
  exact operators_lookup _ o.valid

theorem markNode_eq {text : String} (ht : t.text = text) (hkind : Kind.ofName text = .other text) :
    markNode t = signNode text t.start t.stop := by
  rw [markNode, ht, hkind]
  rfl

/-! ## Expressions -/

/-- What stands behind an expression of a level and does not go on with it. -/
def Ends (level : Nat) (rest : List Token) : Prop :=
  ∀ t ∈ rest.head?, t.text ∉ suffixMarks ∧ ∀ l ∈ level? t, l ≤ level

theorem Ends.mono {k k' : Nat} (h : Ends k rest) (hk : k ≤ k') : Ends k' rest :=
  fun t ht => ⟨(h t ht).1, fun l hl => Nat.le_trans ((h t ht).2 l hl) hk⟩

/-- Marks that go on with an expression. -/
def furtherMarks : List String :=
  suffixMarks ++ "?" :: "," :: (assignmentOperators ++ binaryOperators.map (·.1))

/-- A token that ends every expression. -/
def IsEnd (c : Token) : Prop := c.text ∉ furtherMarks

theorem isEnd_of_text {text : String} (hc : c.text = text) (h : text ∉ furtherMarks) : IsEnd c := by
  rwa [IsEnd, hc]

theorem IsEnd.level?_eq (h : IsEnd c) : level? c = none := by
  rw [level?, List.lookup_eq_none_iff]
  intro o ho
  rw [bne_iff_ne]
  intro heq
  exact h (List.mem_append_right _ (by simp [heq, List.mem_map_of_mem ho]))

theorem IsEnd.ends (h : IsEnd c) (level : Nat) : Ends level (c :: rest) := by
  rintro t ⟨⟩
  rw [h.level?_eq]
  exact ⟨fun hmem => h (List.mem_append_left _ hmem), by simp⟩

theorem IsEnd.assignment (hc : IsEnd c) {fin : Nat} {node : Node} (h : (binary fin 1 ts).Gives node (c :: rest)) :
    (Grammar.assignment fin ts).Gives node (c :: rest) := by
  refine assignment_plain (conditional_gives h ?_) ?_
  · intro heq
    exact hc (by rw [heq]; decide)
  · intro hmem
    exact hc (List.mem_append_right _ (by simp [hmem]))

theorem IsEnd.expression (hc : IsEnd c) {fin : Nat} {node : Node}
    (h : (Grammar.assignment fin ts).Gives node (c :: rest)) : (Grammar.expression fin ts).Gives node (c :: rest) := by
  refine expression_gives h fun heq => ?_
  exact hc (by rw [heq]; decide)

theorem IsEnd.assignment_of_unary (hc : IsEnd c) {fin : Nat} {node : Node}
    (h : (unary fin ts).Gives node (c :: rest)) : (Grammar.assignment fin ts).Gives node (c :: rest) :=
  hc.assignment (binary_gives h (operations_stop (by simp [hc.level?_eq])))

/-- Lexemes of an expression are read back by the rule for binary operators. Whatever operations the rule finds
behind the expression, it makes them of the tree of the expression. -/
def ReadBack (s : List Char) (root : Option Node) (e : Expr) (ls : List Lexeme) (level : Nat) : Prop :=
  ∀ (fin : Nat) (ts rest : List Token) (least : Nat), ts.map lexemeOf = ls → Placed s ts → least ≤ level →
    Ends level rest → ∃ node, Shows (Program.load s root) e node ∧
      ∀ whole more, (operations fin least node rest).Gives whole more →
        (binary fin least (ts ++ rest)).Gives whole more

variable {root : Option Node} {e l r : Expr} {o : Operator} {ls : List Lexeme} {level level' : Nat}

theorem ReadBack.mono (h : ReadBack s root e ls level) (hle : level' ≤ level) : ReadBack s root e ls level' :=
  fun fin ts rest least hts hp hleast hrest => h fin ts rest least hts hp (Nat.le_trans hleast hle) (hrest.mono hle)

theorem unary_token {fin : Nat} {k : Kind} (hkind : leafKind t = k)
    (hmarks : t.text ∉ "(" :: (unaryMarks ++ typeWords)) (hrest : ∀ u ∈ rest.head?, u.text ∉ suffixMarks) :
    (unary fin (t :: rest)).Gives (spanning k t.start t.stop []) rest := by
  simp only [List.mem_cons, List.mem_append, not_or] at hmarks
  have hnode : operand t = spanning k t.start t.stop [] := by
    simp [operand, Token.isTypeWord, hmarks.2.2, leaf, hkind, leafOf, spanning]
  exact unary_gives (unaryKind_eq_none hmarks.2.1) (postfixed_gives (hnode ▸ primary_operand hmarks.1) hrest)

/-- A token that is an expression by itself. -/
theorem readBack_token (hs : Ascii s) {k : Kind} {lexeme : Lexeme}
    (hkind : ∀ t, lexemeOf t = lexeme → leafKind t = k)
    (hmarks : lexeme.text ∉ "(" :: (unaryMarks ++ typeWords))
    (hshows : ∀ a b, (Program.load s root).nodeText (spanning k a b []) = .ok lexeme.text →
      Shows (Program.load s root) e (spanning k a b [])) :
    ReadBack s root e [lexeme] level := by
  intro fin ts rest least hts hp _ hrest
  obtain ⟨t, rfl, ht⟩ := List.map_eq_singleton_iff.mp hts
  have htext : t.text = lexeme.text := congrArg Lexeme.text ht
  rw [← htext] at hmarks
  refine ⟨spanning k t.start t.stop [], hshows _ _ (htext ▸ hp.nodeText hs root rfl rfl), ?_⟩
  intro whole more h
  exact binary_gives (unary_token (hkind t ht) hmarks fun u hu => (hrest u hu).1) h

/-- Behind an expression stands a mark that ends it. -/
theorem ReadBack.assignment (h : ReadBack s root e ls level) (hlevel : 1 ≤ level) (hts : ts.map lexemeOf = ls)
    (hp : Placed s ts) (hc : IsEnd c) (fin : Nat) (rest : List Token) :
    ∃ node, Shows (Program.load s root) e node ∧
      (Grammar.assignment fin (ts ++ c :: rest)).Gives node (c :: rest) := by
  obtain ⟨node, hnode, hread⟩ := h fin ts (c :: rest) 1 hts hp hlevel (hc.ends level)
  exact ⟨node, hnode, hc.assignment (hread node (c :: rest) (operations_stop (by simp [hc.level?_eq])))⟩

theorem ReadBack.expression (h : ReadBack s root e ls level) (hlevel : 1 ≤ level) (hts : ts.map lexemeOf = ls)
    (hp : Placed s ts) (hc : IsEnd c) (fin : Nat) (rest : List Token) :
    ∃ node, Shows (Program.load s root) e node ∧
      (Grammar.expression fin (ts ++ c :: rest)).Gives node (c :: rest) := by
  obtain ⟨node, hnode, hassign⟩ := h.assignment hlevel hts hp hc fin rest
  exact ⟨node, hnode, hc.expression hassign⟩

theorem Shows.op_kind {p : Program} {n : Node} (h : Shows p (.op o l r) n) : n.kind ≠ .identifier := by
  cases h with
  | op => exact by simp [spanning, Node.kind]
  | parentheses => exact by simp [spanning, Node.kind]

/-- An operation in parentheses is read back wherever it stands. -/
theorem ReadBack.parentheses (hs : Ascii s) (h : ReadBack s root (.op o l r) ls level) (hlevel : 1 ≤ level) :
    ReadBack s root (.op o l r) (parenthesized ls) level' := by
  intro fin ts rest least hts hp _ hrest
  obtain ⟨t, vs, c, rfl, htext, hvs, hctext⟩ := map_lexemeOf_between hts
  obtain ⟨inner, hinner, hread⟩ := h.expression hlevel hvs hp.tail.left (isEnd_of_text hctext (by decide)) fin rest
  have hprimary := primary_parentheses htext hctext hread hinner.op_kind
  have hstop : t.stop ≤ c.stop := by
    have hapart := List.rel_of_pairwise_cons hp.apart (show c ∈ vs ++ [c] by simp)
    have hlt := (hp.covers c (by simp)).1
    omega
  obtain ⟨text, hnode⟩ := hp.nodeText_parenthesis hs htext root
    (n := spanning .parenthesizedExpression t.start c.stop [inner]) rfl hstop
  refine ⟨_, .parentheses hinner hnode, ?_⟩
  intro whole more hops
  rw [List.cons_append, List.append_assoc, List.singleton_append]
  have hunary : unaryKind t = none := unaryKind_eq_none (by rw [htext]; decide)
  exact binary_gives (unary_gives hunary (postfixed_gives hprimary fun u hu => (hrest u hu).1)) hops

/-- An operand, in parentheses if its level is below the one that is wanted. -/
theorem ReadBack.enclosed (hs : Ascii s) (h : ReadBack s root e e.lexemes e.level) (hlevel : level ≤ 11) :
    ReadBack s root e (enclosed (e.level < level) e.lexemes) level := by
  by_cases hlt : e.level < level
  · cases e with
    | name x => simp [Expr.level] at hlt; omega
    | number n => simp [Expr.level] at hlt; omega
    | op o l r =>
        simp only [Structured.enclosed, hlt, decide_true, if_true]
        exact h.parentheses hs (operators_level _ o.valid).1
  · simp only [Structured.enclosed, hlt, decide_false, Bool.false_eq_true, if_false]
    exact h.mono (Nat.not_lt.mp hlt)

theorem ReadBack.op (hs : Ascii s) (hl : ReadBack s root l l.lexemes l.level)
    (hr : ReadBack s root r r.lexemes r.level) :
    ReadBack s root (.op o l r) (Expr.op o l r).lexemes o.level := by
  intro fin ts rest least hts hp hleast hrest
  have hbounds := operators_level _ o.valid
  -- The right operand is read one level up, where an operator of this level ends it: equal levels group to the left.
  have hleft : ReadBack s root l (Structured.enclosed (l.level < o.level) l.lexemes) o.level :=
    hl.enclosed hs (by omega)
  have hright : ReadBack s root r (Structured.enclosed (r.level < o.level + 1) r.lexemes) (o.level + 1) :=
    hr.enclosed hs (by omega)
  simp only [Expr.lexemes, ← Nat.lt_succ_iff (m := r.level)] at hts
  obtain ⟨us, vs, rfl, hus, hvs⟩ := List.map_eq_append_iff.mp hts
  obtain ⟨t, ws, rfl, ht, hws⟩ := List.map_eq_cons_iff.mp hvs
  have htext : t.text = o.text := congrArg Lexeme.text ht
  have hafter : Ends o.level (t :: (ws ++ rest)) := by
    rintro u ⟨⟩
    rw [Operator.level?_eq htext, htext]
    exact ⟨fun h => operators_not_mem _ o.valid (List.mem_cons_of_mem _ h), by simp⟩
  obtain ⟨left, hleft, hreadl⟩ := hleft fin us (t :: (ws ++ rest)) least hus hp.left hleast hafter
  obtain ⟨right, hright, hreadr⟩ :=
    hright fin ws rest (o.level + 1) hws hp.right.tail (Nat.le_refl _) (hrest.mono (Nat.le_succ _))
  have hstop : (operations fin (o.level + 1) right rest).Gives right rest :=
    operations_stop fun u hu k hk => Nat.lt_succ_of_le ((hrest u hu).2 k hk)
  refine ⟨between .binaryExpression left t right, ?_, ?_⟩
  · rw [between, markNode_eq htext (operators_kind _ o.valid)]
    exact .op hleft (htext ▸ hp.right.nodeText hs root rfl rfl) hright
  · intro whole more hops
    rw [List.append_assoc, List.cons_append]
    exact hreadl whole more (operations_step (Operator.level?_eq htext) hleast (hreadr right rest hstop) hops)

theorem Expr.readBack (hs : Ascii s) (root : Option Node) (e : Expr) : ReadBack s root e e.lexemes e.level := by
  induction e with
  | name x =>
      exact readBack_token hs (fun t ht => by simp [leafKind, show t.cls = .word from congrArg Lexeme.cls ht])
        (x.not_mem _ (by decide)) fun _ _ h => .name h
  | number n =>
      exact readBack_token hs (fun t ht => by simp [leafKind, show t.cls = .number from congrArg Lexeme.cls ht])
        (n.not_mem _ (by decide)) fun _ _ h => .number h
  | op o l r ihl ihr => exact .op hs ihl ihr

/-! ## Matching parentheses -/

/-- A search for a closing parenthesis goes over the lexemes. -/
def Balanced (ls : List Lexeme) : Prop :=
  ∀ (depth : Nat) (ts rest : List Token), ts.map lexemeOf = ls →
    afterClosing (depth + 1) (ts ++ rest) = afterClosing (depth + 1) rest

theorem balanced_token {lexeme : Lexeme} (h : lexeme.text ∉ ["(", ")"]) : Balanced [lexeme] := by
  intro depth ts rest hts
  obtain ⟨t, rfl, ht⟩ := List.map_eq_singleton_iff.mp hts
  have htext : t.text = lexeme.text := congrArg Lexeme.text ht
  rw [← htext] at h
  simp only [List.mem_cons, List.not_mem_nil, or_false, not_or] at h
  simp [afterClosing, h.1, h.2]

theorem Balanced.append {ls ls' : List Lexeme} (h : Balanced ls) (h' : Balanced ls') : Balanced (ls ++ ls') := by
  intro depth ts rest hts
  obtain ⟨us, vs, rfl, hus, hvs⟩ := List.map_eq_append_iff.mp hts
  rw [List.append_assoc, h depth us _ hus, h' depth vs _ hvs]

theorem Balanced.parentheses {ls : List Lexeme} (h : Balanced ls) : Balanced (parenthesized ls) := by
  intro depth ts rest hts
  obtain ⟨t, vs, c, rfl, htext, hvs, hctext⟩ := map_lexemeOf_between hts
  have hopen : ∀ more, afterClosing (depth + 1) (t :: more) = afterClosing (depth + 2) more := by
    simp [afterClosing, htext]
  have hclose : ∀ more, afterClosing (depth + 2) (c :: more) = afterClosing (depth + 1) more := by
    simp [afterClosing, hctext]
  rw [List.cons_append, hopen, List.append_assoc, h (depth + 1) vs _ hvs, List.singleton_append, hclose]

theorem Balanced.enclosed {ls : List Lexeme} (h : Balanced ls) (needed : Bool) : Balanced (enclosed needed ls) := by
  cases needed with
  | true => exact h.parentheses
  | false => exact h

theorem Expr.balanced (e : Expr) : Balanced e.lexemes := by
  induction e with
  | name x => exact balanced_token (x.not_mem _ (by decide))
  | number n => exact balanced_token (n.not_mem _ (by decide))
  | op o l r ihl ihr =>
      have hmark : Balanced [mark o.text] := by
        refine balanced_token fun h => operators_not_mem _ o.valid ?_
        have hall : ∀ m ∈ ["(", ")"], m ∈ ")" :: suffixMarks := by decide
        exact hall _ h
      exact (ihl.enclosed _).append (hmark.append (ihr.enclosed _))

end EsqlAudit.Grammar.Structured
