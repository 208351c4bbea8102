import EsqlAudit.Proofs.Grammar.Expressions

/-!
# Statements are read back

The rule for statements makes of the tokens of a written statement a tree that shows the statement, whatever follows it
but an `else`.
-/

namespace EsqlAudit.Grammar.Structured
open Syntax Text Utf8

variable {s : List Char} {root : Option Node} {fin : Nat} {t c : Token} {ts us rest : List Token} {e : Expr}

/-! ## How expressions and statements start -/

theorem enclosed_first {ls : List Lexeme} (needed : Bool) (h : ∃ l more, ls = l :: more ∧ l.text ≠ ";") :
    ∃ l more, enclosed needed ls = l :: more ∧ l.text ≠ ";" := by
  cases needed with
  | true => exact ⟨mark "(", _, rfl, by decide⟩
  | false => exact h

theorem Expr.first (e : Expr) : ∃ l more, e.lexemes = l :: more ∧ l.text ≠ ";" := by
  induction e with
  | name x => exact ⟨_, [], rfl, by simpa [word] using x.not_mem [";"] (by decide)⟩
  | number n => exact ⟨_, [], rfl, by simpa using n.not_mem [";"] (by decide)⟩
  | op o l r ihl _ =>
      obtain ⟨l', more, hl, hne⟩ := enclosed_first (l.level < o.level) ihl
      exact ⟨l', more ++ _, by rw [Expr.lexemes, hl, List.cons_append], hne⟩

theorem Expr.level_pos (e : Expr) : 1 ≤ e.level := by
  cases e with
  | name x => simp [Expr.level]
  | number n => simp [Expr.level]
  | op o l r => exact (operators_level _ o.valid).1

theorem Stmt.first (st : Stmt) : ∃ l more, st.lexemes = l :: more ∧ l.text ∉ ["\x7d", "else"] := by
  cases st with
  | assign x e => exact ⟨_, _, rfl, x.not_mem _ (by decide)⟩
  | ret e => exact ⟨_, _, rfl, by decide⟩
  | empty => exact ⟨_, _, rfl, by decide⟩
  | block body => exact ⟨_, _, rfl, by decide⟩
  | ifThen cond body => exact ⟨_, _, rfl, by decide⟩
  | ifElse cond body other => exact ⟨_, _, rfl, by decide⟩
  | whileLoop cond body => exact ⟨_, _, rfl, by decide⟩
  | doLoop body cond => exact ⟨_, _, rfl, by decide⟩

/-- What follows is no `else`. -/
def NoElse (rest : List Token) : Prop := ∀ t ∈ rest.head?, t.text ≠ "else"

/-! ## Conditions -/

/-- A condition in parentheses is read back, and what follows is read from the closing parenthesis on. -/
theorem condition_readBack (hs : Ascii s) (root : Option Node) (hts : ts.map lexemeOf = parenthesized e.lexemes)
    (hp : Placed s ts) (fin : Nat) (rest : List Token) :
    ∃ node, Shows (Program.load s root) e node ∧ (condition fin (ts ++ rest)).Gives (some node) rest := by
  obtain ⟨t, vs, c, rfl, htext, hvs, hctext⟩ := map_lexemeOf_between hts
  obtain ⟨node, hnode, hread⟩ :=
    (e.readBack hs root).expression e.level_pos hvs hp.tail.left (isEnd_of_text hctext (by decide)) fin rest
  -- What follows a condition is found by a search of its own, not from where the expression ended.
  have hafter : afterClosing 1 (vs ++ c :: rest) = rest := by
    rw [e.balanced 0 vs _ hvs]
    simp [afterClosing, hctext]
  have hcond := condition_gives htext hread
  rw [hafter] at hcond
  refine ⟨node, hnode, ?_⟩
  rw [List.cons_append, List.append_assoc, List.singleton_append]
  exact hcond

/-! ## Statements -/

theorem assignmentOperators_marks : ∀ s ∈ assignmentOperators,
    binaryOperators.lookup s = none ∧ s ∉ "*" :: "?" :: suffixMarks ∧ Kind.ofName s = .other s := by decide

/-- Lexemes of a statement are read back, whatever follows them but an `else`. -/
def ReadBackStmt (s : List Char) (root : Option Node) (st : Stmt) : Prop :=
  ∀ (fin : Nat) (t : Token) (ts rest : List Token), (t :: ts).map lexemeOf = st.lexemes → Placed s (t :: ts) →
    NoElse rest → ∃ node, ShowsStmt (Program.load s root) st node ∧
      (statement fin t (ts ++ rest)).Gives node rest

/-- Lexemes of statements are read back up to the closing brace. -/
def ReadBackEach (s : List Char) (root : Option Node) (body : List Stmt) : Prop :=
  ∀ (fin : Nat) (ts : List Token) (c : Token) (rest : List Token), ts.map lexemeOf = Stmt.lexemesAll body →
    Placed s ts → c.text = "\x7d" → ∃ nodes, ShowsEach (Program.load s root) body nodes ∧
      (statements fin (ts ++ c :: rest)).Gives nodes (c :: rest)

/-- An assignment by any of the operators. -/
theorem readBack_assignment (hs : Ascii s) (root : Option Node) (x : Name) (e : Expr) {op : String}
    (hop : op ∈ assignmentOperators)
    (hts : (t :: ts).map lexemeOf = word x.text :: mark op :: (e.lexemes ++ [mark ";"])) (hp : Placed s (t :: ts))
    (fin : Nat) (rest : List Token) :
    ∃ target value a b c d a' b', Shows (Program.load s root) (.name x) target ∧ Shows (Program.load s root) e value ∧
      (statement fin t (ts ++ rest)).Gives (spanning .expressionStatement a b
        [spanning .assignmentExpression c d [target, signNode op a' b', value]]) rest := by
  simp only [List.map_cons, List.cons.injEq] at hts
  obtain ⟨ht, hts⟩ := hts
  obtain ⟨u, us, rfl, hu, hus⟩ := List.map_eq_cons_iff.mp hts
  obtain ⟨vs, ws, rfl, hvs, hws⟩ := List.map_eq_append_iff.mp hus
  obtain ⟨c, rfl, hc⟩ := List.map_eq_singleton_iff.mp hws
  have htext : t.text = x.text := congrArg Lexeme.text ht
  have hutext : u.text = op := congrArg Lexeme.text hu
  have hucls : u.cls = .mark := congrArg Lexeme.cls hu
  have hctext : c.text = ";" := congrArg Lexeme.text hc
  obtain ⟨hlookup, hmarks, hkind⟩ := assignmentOperators_marks op hop
  have hlevel : level? u = none := by rw [level?, hutext, hlookup]
  rw [← hutext] at hmarks
  simp only [List.mem_cons, not_or] at hmarks
  obtain ⟨hstar, hquestion, hsuffix⟩ := hmarks
  have hends : Ends 11 (u :: (vs ++ c :: rest)) := by
    rintro v ⟨⟩
    rw [hlevel]
    exact ⟨hsuffix, by simp⟩
  have hlone : Placed s [t] := hp.sublist (by simp)
  obtain ⟨left, hleft, hread⟩ := (Expr.name x).readBack hs root fin [t] (u :: (vs ++ c :: rest)) 1
    (by simp [Expr.lexemes, ht]) hlone (by simp [Expr.level]) hends
  obtain ⟨value, hvalue, hassign⟩ :=
    (e.readBack hs root).assignment e.level_pos hvs hp.tail.tail.left (isEnd_of_text hctext (by decide)) fin rest
  have hcond := conditional_gives (hread left _ (operations_stop (by simp [hlevel]))) hquestion
  have hwhole := expression_gives (assignment_gives hcond (hutext ▸ hop) hassign) (by rw [hctext]; decide)
  have hdecl : startsDeclaration t (u :: (vs ++ c :: rest)) = false := by
    have htype := x.not_mem typeWords (by decide)
    simp [startsDeclaration, Token.isTypeWord, Token.isWord, htext, htype, hstar, hucls]
  have hstart : t.text ∉ statementStarts := htext ▸ x.not_mem _ (by decide)
  have hstmt := statement_expression hstart hdecl (expressionStatement_gives hwhole hctext)
  rw [between, markNode_eq hutext hkind] at hstmt
  rw [List.cons_append, List.append_assoc, List.singleton_append]
  exact ⟨left, value, _, _, _, _, _, _, hleft, hvalue, hstmt⟩

theorem readBack_assign (hs : Ascii s) (x : Name) (e : Expr) : ReadBackStmt s root (.assign x e) := by
  intro fin t ts rest hts hp _
  obtain ⟨target, value, a, b, c, d, a', b', htarget, hvalue, hread⟩ :=
    readBack_assignment hs root x e (show "=" ∈ assignmentOperators by decide) hts hp fin rest
  cases htarget with
  | name hname => exact ⟨_, .assign hname hvalue, hread⟩

theorem readBack_ret (hs : Ascii s) (e : Expr) : ReadBackStmt s root (.ret e) := by
  intro fin t ts rest hts hp _
  simp only [List.map_cons, Stmt.lexemes, List.cons.injEq] at hts
  obtain ⟨ht, hts⟩ := hts
  obtain ⟨vs, ws, rfl, hvs, hws⟩ := List.map_eq_append_iff.mp hts
  obtain ⟨c, rfl, hc⟩ := List.map_eq_singleton_iff.mp hws
  have htext : t.text = "return" := congrArg Lexeme.text ht
  have hctext : c.text = ";" := congrArg Lexeme.text hc
  obtain ⟨value, hvalue, hread⟩ :=
    (e.readBack hs root).expression e.level_pos hvs hp.tail.left (isEnd_of_text hctext (by decide)) fin rest
  obtain ⟨l, more, hfirst, hne⟩ := e.first
  rw [hfirst] at hvs
  obtain ⟨v, vs, rfl, hv, -⟩ := List.map_eq_cons_iff.mp hvs
  have hvtext : v.text ≠ ";" := by rwa [show v.text = l.text from congrArg Lexeme.text hv]
  have hstmt := statement_return htext (returnStatement_gives hvtext hread hctext)
  rw [markNode_eq htext (by decide)] at hstmt
  rw [List.append_assoc, List.singleton_append]
  exact ⟨_, .ret hvalue, hstmt⟩

theorem readBack_empty : ReadBackStmt s root .empty := by
  intro fin t ts rest hts _ _
  simp only [List.map_cons, Stmt.lexemes, List.cons.injEq, List.map_eq_nil_iff] at hts
  obtain ⟨ht, rfl⟩ := hts
  exact ⟨_, .empty, statement_empty (congrArg Lexeme.text ht)⟩

/-- Statements that are read back up to a closing brace are read back in braces. -/
theorem compound_readBack {P : List Node → Prop} {ls : List Lexeme}
    (h : ∀ (ts : List Token) (c : Token) (rest : List Token), ts.map lexemeOf = ls → Placed s ts → c.text = "\x7d" →
      ∃ nodes, P nodes ∧ (statements fin (ts ++ c :: rest)).Gives nodes (c :: rest))
    (hts : (t :: ts).map lexemeOf = braced ls) (hp : Placed s (t :: ts)) (rest : List Token) :
    ∃ nodes a b, P nodes ∧ t.text = "\x7b" ∧
      (compound fin t (ts ++ rest)).Gives (spanning .compoundStatement a b nodes) rest := by
  obtain ⟨_, vs, c, ⟨⟩, htext, hvs, hctext⟩ := map_lexemeOf_between hts
  obtain ⟨nodes, hnodes, hread⟩ := h vs c rest hvs hp.tail.left hctext
  rw [List.append_assoc, List.singleton_append]
  exact ⟨nodes, _, _, hnodes, htext, compound_gives hread⟩

/-- A block in braces. -/
theorem ReadBackEach.compound {body : List Stmt} (h : ReadBackEach s root body)
    (hts : (t :: ts).map lexemeOf = braced (Stmt.lexemesAll body)) (hp : Placed s (t :: ts)) (fin : Nat)
    (rest : List Token) :
    ∃ node, ShowsBlock (Program.load s root) body node ∧ t.text = "\x7b" ∧
      (Grammar.compound fin t (ts ++ rest)).Gives node rest := by
  obtain ⟨nodes, a, b, hnodes, htext, hread⟩ := compound_readBack (h fin) hts hp rest
  exact ⟨_, .mk hnodes, htext, hread⟩

theorem ReadBackEach.block {body : List Stmt} (h : ReadBackEach s root body) : ReadBackStmt s root (.block body) := by
  intro fin t ts rest hts hp _
  obtain ⟨node, hnode, htext, hread⟩ := h.compound hts hp fin rest
  exact ⟨node, .block hnode, statement_compound htext hread⟩

/-- A block in braces as the body of a statement. -/
theorem ReadBackEach.body {body : List Stmt} (h : ReadBackEach s root body)
    (hts : ts.map lexemeOf = braced (Stmt.lexemesAll body)) (hp : Placed s ts) (fin : Nat) (rest : List Token) :
    ∃ node, ShowsBlock (Program.load s root) body node ∧ (Grammar.body fin (ts ++ rest)).Gives (some node) rest := by
  obtain ⟨t, us, rfl, -, -⟩ := List.map_eq_cons_iff.mp hts
  obtain ⟨node, hnode, htext, hread⟩ := h.compound hts hp fin rest
  exact ⟨node, hnode, body_gives (by rw [htext]; decide) (statement_compound htext hread)⟩

theorem keyworded_eq {k : Kind} {text : String} {parts : List Node} (ht : t.text = text)
    (hkind : Kind.ofName text = .other text) :
    keyworded k t parts =
      spanning k t.start (lastStop t.stop parts) (signNode text t.start t.stop :: parts) := by
  rw [keyworded, markNode_eq ht hkind]

/-- A condition and a block after a word of a statement, whatever clause follows. -/
theorem ReadBackEach.conditioned {body : List Stmt} {k : Kind} {clause : Option Node} {more : List Token}
    (hs : Ascii s) (h : ReadBackEach s root body)
    (hts : ts.map lexemeOf = parenthesized e.lexemes ++ braced (Stmt.lexemesAll body)) (hp : Placed s ts)
    (hkind : conditionedKind t = some k) (hclause : (elseClause fin k rest).Gives clause more) :
    ∃ cond inner, Shows (Program.load s root) e cond ∧ ShowsBlock (Program.load s root) body inner ∧
      (statement fin t (ts ++ rest)).Gives (keyworded k t ([cond, inner] ++ clause.toList)) more := by
  obtain ⟨us, vs, rfl, hus, hvs⟩ := List.map_eq_append_iff.mp hts
  obtain ⟨cond, hcond, hreadc⟩ := condition_readBack hs root hus hp.left fin (vs ++ rest)
  obtain ⟨inner, hinner, hreadb⟩ := h.body hvs hp.right fin rest
  rw [List.append_assoc]
  exact ⟨cond, inner, hcond, hinner, statement_conditioned hkind (conditioned_gives hreadc hreadb hclause)⟩

theorem ReadBackEach.ifThen {body : List Stmt} (hs : Ascii s) (h : ReadBackEach s root body) (e : Expr) :
    ReadBackStmt s root (.ifThen e body) := by
  intro fin t ts rest hts hp hrest
  simp only [List.map_cons, Stmt.lexemes, List.cons.injEq] at hts
  have htext : t.text = "if" := congrArg Lexeme.text hts.1
  have hkind : conditionedKind t = some .ifStatement := by simp [conditionedKind, htext]
  obtain ⟨cond, inner, hcond, hinner, hstmt⟩ :=
    h.conditioned hs hts.2 hp.tail hkind (elseClause_none fun _ => hrest)
  rw [keyworded_eq htext (by decide)] at hstmt
  exact ⟨_, .ifThen hcond hinner, hstmt⟩

theorem ReadBackEach.whileLoop {body : List Stmt} (hs : Ascii s) (h : ReadBackEach s root body) (e : Expr) :
    ReadBackStmt s root (.whileLoop e body) := by
  intro fin t ts rest hts hp _
  simp only [List.map_cons, Stmt.lexemes, List.cons.injEq] at hts
  have htext : t.text = "while" := congrArg Lexeme.text hts.1
  have hkind : conditionedKind t = some .whileStatement := by simp [conditionedKind, htext]
  obtain ⟨cond, inner, hcond, hinner, hstmt⟩ :=
    h.conditioned hs hts.2 hp.tail hkind (elseClause_none (by simp))
  rw [keyworded_eq htext (by decide)] at hstmt
  exact ⟨_, .whileLoop hcond hinner, hstmt⟩

theorem ReadBackEach.ifElse {body other : List Stmt} (hs : Ascii s) (h : ReadBackEach s root body)
    (h' : ReadBackEach s root other) (e : Expr) : ReadBackStmt s root (.ifElse e body other) := by
  intro fin t ts rest hts hp _
  simp only [List.map_cons, Stmt.lexemes, List.cons.injEq] at hts
  obtain ⟨ht, hts⟩ := hts
  obtain ⟨us, ws, rfl, hus, hws⟩ := List.map_eq_append_iff.mp hts
  obtain ⟨w, ws, rfl, hw, hws⟩ := List.map_eq_cons_iff.mp hws
  have htext : t.text = "if" := congrArg Lexeme.text ht
  have hwtext : w.text = "else" := congrArg Lexeme.text hw
  obtain ⟨inner', hinner', hreado⟩ := h'.body hws hp.tail.right.tail fin rest
  have hkind : conditionedKind t = some .ifStatement := by simp [conditionedKind, htext]
  obtain ⟨cond, inner, hcond, hinner, hstmt⟩ :=
    h.conditioned hs hus hp.tail.left hkind (elseClause_gives hwtext hreado)
  rw [keyworded_eq htext (by decide), keyworded_eq hwtext (by decide)] at hstmt
  rw [List.append_assoc, List.cons_append]
  exact ⟨_, .ifElse hcond hinner hinner', hstmt⟩

theorem ReadBackEach.doLoop {body : List Stmt} (hs : Ascii s) (h : ReadBackEach s root body) (e : Expr) :
    ReadBackStmt s root (.doLoop body e) := by
  intro fin t ts rest hts hp _
  simp only [List.map_cons, Stmt.lexemes, List.cons.injEq] at hts
  obtain ⟨ht, hts⟩ := hts
  obtain ⟨us, ws, rfl, hus, hws⟩ := List.map_eq_append_iff.mp hts
  obtain ⟨w, ws, rfl, hw, hws⟩ := List.map_eq_cons_iff.mp hws
  obtain ⟨vs, xs, rfl, hvs, hxs⟩ := List.map_eq_append_iff.mp hws
  obtain ⟨c, rfl, hc⟩ := List.map_eq_singleton_iff.mp hxs
  have htext : t.text = "do" := congrArg Lexeme.text ht
  have hwtext : w.text = "while" := congrArg Lexeme.text hw
  obtain ⟨inner, hinner, hreadb⟩ := h.body hus hp.tail.left fin (w :: (vs ++ c :: rest))
  obtain ⟨cond, hcond, hreadc⟩ := condition_readBack hs root hvs hp.tail.right.tail.left fin (c :: rest)
  have hstmt := statement_do htext (doStatement_gives hreadb hwtext hreadc (congrArg Lexeme.text hc))
  rw [keyworded_eq htext (by decide)] at hstmt
  rw [List.append_assoc, List.cons_append, List.append_assoc, List.singleton_append]
  exact ⟨_, .doLoop hinner hcond, hstmt⟩

theorem readBack_nil : ReadBackEach s root [] := by
  intro fin ts c rest hts _ hc
  obtain rfl := List.map_eq_nil_iff.mp hts
  exact ⟨[], .nil, statements_stop hc⟩

theorem ReadBackStmt.cons {st : Stmt} {body : List Stmt} (h : ReadBackStmt s root st)
    (hbody : ReadBackEach s root body) : ReadBackEach s root (st :: body) := by
  intro fin ts c rest hts hp hc
  obtain ⟨us, vs, rfl, hus, hvs⟩ := List.map_eq_append_iff.mp hts
  obtain ⟨l, more, hfirst, hne⟩ := st.first
  obtain ⟨t, us, rfl, ht, -⟩ := List.map_eq_cons_iff.mp (hus.trans hfirst)
  have hbrace : t.text ≠ "\x7d" := by
    rw [show t.text = l.text from congrArg Lexeme.text ht]
    simpa using fun heq => hne (by simp [heq])
  -- An `if` at the end of `st` must not take the next statement for its clause: none starts with `else`.
  have hnoElse : NoElse (vs ++ c :: rest) := by
    cases body with
    | nil =>
        obtain rfl := List.map_eq_nil_iff.mp hvs
        rintro u ⟨⟩
        rw [hc]
        decide
    | cons st' body =>
        obtain ⟨l', more', hfirst', hne'⟩ := st'.first
        rw [Stmt.lexemesAll, hfirst', List.cons_append] at hvs
        obtain ⟨u, vs, rfl, hu, -⟩ := List.map_eq_cons_iff.mp hvs
        rintro v ⟨⟩
        rw [show u.text = l'.text from congrArg Lexeme.text hu]
        simpa using fun heq => hne' (by simp [heq])
  obtain ⟨node, hnode, hread⟩ := h fin t us (vs ++ c :: rest) hus hp.left hnoElse
  obtain ⟨nodes, hnodes, hreads⟩ := hbody fin vs c rest hvs hp.right hc
  refine ⟨node :: nodes, .cons hnode hnodes, ?_⟩
  rw [List.append_assoc, List.cons_append]
  exact statements_gives hbrace hread hreads

mutual
theorem Stmt.readBack (hs : Ascii s) (root : Option Node) : (st : Stmt) → ReadBackStmt s root st
  | .assign x e => readBack_assign hs x e
  | .ret e => readBack_ret hs e
  | .empty => readBack_empty
  | .block body => (Stmt.readBackEach hs root body).block
  | .ifThen e body => (Stmt.readBackEach hs root body).ifThen hs e
  | .ifElse e body other => (Stmt.readBackEach hs root body).ifElse hs (Stmt.readBackEach hs root other) e
  | .whileLoop e body => (Stmt.readBackEach hs root body).whileLoop hs e
  | .doLoop body e => (Stmt.readBackEach hs root body).doLoop hs e
theorem Stmt.readBackEach (hs : Ascii s) (root : Option Node) : (body : List Stmt) → ReadBackEach s root body
  | [] => readBack_nil
  | st :: body => (Stmt.readBack hs root st).cons (Stmt.readBackEach hs root body)
end

end EsqlAudit.Grammar.Structured
