import EsqlAudit.Grammar.Statement

/-!
# The rules of the grammar

What each rule makes of tokens, as inference rules: from what its parts give follows what the whole gives.
-/

namespace EsqlAudit.Grammar
open Syntax

/-- The rule makes `a` and leaves `rest`. -/
def Parsed.Gives {α : Type} {ts : List Token} (p : Parsed α ts) (a : α) (rest : List Token) : Prop :=
  p.value = a ∧ p.rest = rest

variable {fin least l stop : Nat} {k : Kind} {t c w : Token} {ts rest more after : List Token}
  {node inner left right cond : Node} {other : Option Node} {nodes : List Node}

/-! ## Expressions -/

theorem primary_operand (ht : t.text ≠ "(") : (primary fin (t :: rest)).Gives (operand t) rest := by
  rw [primary]
  simp [ht, Parsed.Gives]

theorem primary_parentheses (ht : t.text = "(") (hc : c.text = ")")
    (h : (expression fin rest).Gives inner (c :: after)) (hinner : inner.kind ≠ .identifier) :
    (primary fin (t :: rest)).Gives (spanning .parenthesizedExpression t.start c.stop [inner]) after := by
  obtain ⟨rfl, hrest⟩ := h
  have hdrop : dropMark ")" (expression fin rest).rest = after := by simp [hrest, dropMark, hc]
  have hstop : markStop ")" (expression fin rest).value.stop (expression fin rest).rest = c.stop := by
    simp [hrest, markStop, hc]
  have hcast : startsCast (expression fin rest).value after = false := by
    cases after <;> simp [startsCast, hinner]
  rw [primary]
  simp [ht, hdrop, hstop, hcast, Parsed.Gives]

/-- Marks that go on with the expression before them. -/
def suffixMarks : List String := ["(", "[", ".", "->", "++", "--"]

theorem suffixes_stop (h : ∀ t ∈ ts.head?, t.text ∉ suffixMarks) : (suffixes fin node ts).Gives node ts := by
  cases ts with
  | nil => rw [suffixes]; exact ⟨rfl, rfl⟩
  | cons t rest =>
      rw [suffixes.eq_def]
      have ht := h t rfl
      simp only [suffixMarks, List.mem_cons, List.not_mem_nil, or_false, not_or] at ht
      obtain ⟨h₁, h₂, h₃, h₄, h₅, h₆⟩ := ht
      simp [h₁, h₂, h₃, h₄, h₅, h₆, Parsed.Gives, Parsed.stay]

theorem suffixes_subscript (ht : t.text = "[") (hc : c.text = "]") (h : (expression fin rest).Gives inner (c :: after))
    (hmore : (suffixes fin (spanning .subscriptExpression node.start c.stop [node, inner]) after).Gives left more) :
    (suffixes fin node (t :: rest)).Gives left more := by
  obtain ⟨rfl, hrest⟩ := h
  have hdrop : dropMark "]" (c :: after) = after := by simp [dropMark, hc]
  rw [suffixes.eq_def]
  simp only [ht]
  rw [if_neg (by decide), if_pos (by decide)]
  split
  · simp_all
  · rename_i index c' after' _ hparsed
    simp only [hparsed] at hrest hmore
    cases hrest
    rw [← hdrop] at hmore
    exact hmore

theorem postfixed_suffixes (h : (primary fin ts).Gives inner rest) (hmore : (suffixes fin inner rest).Gives node more) :
    (postfixed fin ts).Gives node more := by
  obtain ⟨rfl, rfl⟩ := h
  rw [postfixed]
  exact hmore

theorem postfixed_gives (h : (primary fin ts).Gives node rest)
    (hrest : ∀ t ∈ rest.head?, t.text ∉ suffixMarks) : (postfixed fin ts).Gives node rest :=
  postfixed_suffixes h (suffixes_stop hrest)

theorem unary_gives (ht : unaryKind t = none) (h : (postfixed fin (t :: rest)).Gives node more) :
    (unary fin (t :: rest)).Gives node more := by
  rw [unary, ht]
  exact h

theorem unary_operator (ht : unaryKind t = some k) (h : (unary fin rest).Gives node more) :
    (unary fin (t :: rest)).Gives (before k t node) more := by
  obtain ⟨rfl, rfl⟩ := h
  rw [unary, ht]
  exact ⟨rfl, rfl⟩

theorem binary_gives (h : (unary fin ts).Gives left rest)
    (hops : (operations fin least left rest).Gives node more) : (binary fin least ts).Gives node more := by
  obtain ⟨rfl, rfl⟩ := h
  rw [binary]
  exact hops

theorem operations_stop (h : ∀ t ∈ ts.head?, ∀ l ∈ level? t, l < least) :
    (operations fin least left ts).Gives left ts := by
  cases ts with
  | nil => rw [operations]; exact ⟨rfl, rfl⟩
  | cons t rest =>
      rw [operations]
      cases hl : level? t with
      | none => exact ⟨rfl, rfl⟩
      | some l =>
          have hlt := h t rfl l hl
          simp only [Nat.not_le.mpr hlt, if_false]
          exact ⟨rfl, rfl⟩

theorem operations_step (ht : level? t = some l) (hl : least ≤ l)
    (hright : (binary fin (l + 1) rest).Gives right after)
    (h : (operations fin least (between .binaryExpression left t right) after).Gives node more) :
    (operations fin least left (t :: rest)).Gives node more := by
  obtain ⟨rfl, rfl⟩ := hright
  rw [operations, ht]
  simp only [hl, if_true]
  exact h

theorem conditional_gives (h : (binary fin 1 ts).Gives node (t :: rest)) (ht : t.text ≠ "?") :
    (conditional fin ts).Gives node (t :: rest) := by
  obtain ⟨rfl, hrest⟩ := h
  rw [conditional]
  split
  · simp_all
  · rename_i cond t' rest' _ hbinary
    simp only [hbinary] at hrest ⊢
    cases hrest
    simp [ht, Parsed.Gives]

theorem assignment_plain (h : (conditional fin ts).Gives node (t :: rest)) (ht : t.text ∉ assignmentOperators) :
    (assignment fin ts).Gives node (t :: rest) := by
  obtain ⟨rfl, hrest⟩ := h
  rw [assignment]
  split
  · simp_all
  · rename_i left t' rest' _ hcond
    simp only [hcond] at hrest ⊢
    cases hrest
    simp [ht, Parsed.Gives]

theorem assignment_gives (h : (conditional fin ts).Gives left (t :: rest)) (ht : t.text ∈ assignmentOperators)
    (hright : (assignment fin rest).Gives right more) :
    (assignment fin ts).Gives (between .assignmentExpression left t right) more := by
  obtain ⟨rfl, hrest⟩ := h
  obtain ⟨rfl, rfl⟩ := hright
  rw [assignment]
  split
  · simp_all
  · rename_i left t' rest' _ hcond
    simp only [hcond] at hrest ⊢
    cases hrest
    simp [ht, Parsed.Gives]

theorem commas_stop (ht : t.text ≠ ",") : (commas fin left (t :: rest)).Gives left (t :: rest) := by
  rw [commas]
  simp [ht, Parsed.Gives, Parsed.stay]

theorem expression_gives (h : (assignment fin ts).Gives node (t :: rest)) (ht : t.text ≠ ",") :
    (expression fin ts).Gives node (t :: rest) := by
  obtain ⟨rfl, hrest⟩ := h
  rw [expression]
  have hstop : (commas fin (assignment fin ts).value (t :: rest)).Gives _ _ := commas_stop ht
  rw [← hrest] at hstop ⊢
  exact hstop

/-! ## Statements -/

theorem semicolon_gives (hc : c.text = ";") : (semicolon stop (c :: rest)).Gives c.stop rest := by
  simp [semicolon, hc, Parsed.Gives, Parsed.step]

theorem semicolon_stay (hc : c.text ≠ ";") : (semicolon stop (c :: rest)).Gives stop (c :: rest) := by
  simp [semicolon, hc, Parsed.Gives, Parsed.stay]

theorem condition_gives (ht : t.text = "(") (h : (expression fin rest).Gives node more) :
    (condition fin (t :: rest)).Gives (some node) (afterClosing 1 rest) := by
  obtain ⟨rfl, rfl⟩ := h
  simp [condition, ht, Parsed.Gives]

theorem statement_empty (ht : t.text = ";") :
    (statement fin t rest).Gives (leafOf .expressionStatement t) rest := by
  rw [statement]
  simp [ht, Parsed.Gives, Parsed.stay]

theorem statement_compound (ht : t.text = "\x7b") (h : (compound fin t rest).Gives node more) :
    (statement fin t rest).Gives node more := by
  rw [statement]
  simpa [ht] using h

theorem statement_conditioned (ht : conditionedKind t = some k)
    (h : (conditioned fin k t rest).Gives node more) : (statement fin t rest).Gives node more := by
  have hbrace : t.text ≠ "\x7b" := fun hb => by simp [conditionedKind, hb] at ht
  have hsemi : t.text ≠ ";" := fun hs => by simp [conditionedKind, hs] at ht
  rw [statement, ht]
  simpa [hbrace, hsemi] using h

theorem statement_do (ht : t.text = "do") (h : (doStatement fin t rest).Gives node more) :
    (statement fin t rest).Gives node more := by
  have hkind : conditionedKind t = none := by simp [conditionedKind, ht]
  rw [statement, hkind]
  simpa [ht] using h

theorem returnStatement_gives (hfirst : w.text ≠ ";") (h : (expression fin (w :: rest)).Gives node (c :: more))
    (hc : c.text = ";") :
    (returnStatement fin t (w :: rest)).Gives (spanning .returnStatement t.start c.stop [markNode t, node]) more := by
  obtain ⟨rfl, hrest⟩ := h
  have hvalue : (returnValue fin (w :: rest)).Gives [(expression fin (w :: rest)).value] (c :: more) := by
    simp [returnValue, hfirst, hrest, Parsed.Gives]
  obtain ⟨hnode, hleft⟩ := hvalue
  have hsemi : (semicolon (lastStop t.stop (returnValue fin (w :: rest)).value) (c :: more)).Gives _ _ :=
    semicolon_gives hc
  rw [← hleft] at hsemi
  rw [returnStatement, ← hsemi.1, ← hnode]
  exact ⟨rfl, hsemi.2⟩

theorem statement_return (ht : t.text = "return") (h : (returnStatement fin t rest).Gives node more) :
    (statement fin t rest).Gives node more := by
  have hkind : conditionedKind t = none := by simp [conditionedKind, ht]
  rw [statement, hkind]
  simpa [ht] using h

theorem jumpStatement_gives (hc : c.text = ";") (hcls : c.cls = .mark) :
    (jumpStatement k t (c :: rest)).Gives (spanning k t.start c.stop [markNode t]) rest := by
  have hlabel : (jumpLabel (c :: rest)).Gives [] (c :: rest) := by
    simp [jumpLabel, Token.isWord, hcls, Parsed.Gives, Parsed.stay]
  have hsemi : (semicolon t.stop (c :: rest)).Gives c.stop rest := semicolon_gives hc
  rw [← hlabel.2] at hsemi
  rw [jumpStatement, ← hsemi.1, ← hlabel.1]
  exact ⟨rfl, hsemi.2⟩

theorem statement_break (ht : t.text = "break") (h : (jumpStatement .breakStatement t rest).Gives node more) :
    (statement fin t rest).Gives node more := by
  have hkind : conditionedKind t = none := by simp [conditionedKind, ht]
  rw [statement, hkind]
  simpa [ht] using h

/-- An expression without a semicolon behind it is a statement, too. -/
theorem expressionStatement_open (h : (expression fin (t :: rest)).Gives node (c :: more)) (hc : c.text ≠ ";") :
    (expressionStatement fin t rest).Gives (spanning .expressionStatement node.start node.stop [node]) (c :: more) := by
  obtain ⟨rfl, hrest⟩ := h
  have hsemi : (semicolon (expression fin (t :: rest)).value.stop (c :: more)).Gives _ _ := semicolon_stay hc
  rw [← hrest] at hsemi ⊢
  exact ⟨congrArg (spanning _ _ · _) hsemi.1, hsemi.2⟩

theorem expressionStatement_gives (h : (expression fin (t :: rest)).Gives node (c :: more)) (hc : c.text = ";") :
    (expressionStatement fin t rest).Gives (spanning .expressionStatement node.start c.stop [node]) more := by
  obtain ⟨rfl, hrest⟩ := h
  have hsemi : (semicolon (expression fin (t :: rest)).value.stop (c :: more)).Gives _ _ := semicolon_gives hc
  rw [← hrest] at hsemi
  rw [expressionStatement, ← hsemi.1]
  exact ⟨rfl, hsemi.2⟩

/-- Words and marks that statements other than declarations and expressions start with. -/
def statementStarts : List String :=
  ["\x7b", ";", "if", "while", "for", "switch", "do", "case", "default", "goto", "break", "continue", "return"]

theorem statement_expression (ht : t.text ∉ statementStarts) (hdecl : startsDeclaration t rest = false)
    (h : (expressionStatement fin t rest).Gives node more) : (statement fin t rest).Gives node more := by
  simp only [statementStarts, List.mem_cons, List.not_mem_nil, or_false, not_or] at ht
  obtain ⟨h₁, h₂, h₃, h₄, h₅, h₆, h₇, h₈, h₉, h₁₀, h₁₁, h₁₂, h₁₃⟩ := ht
  have hkind : conditionedKind t = none := by simp [conditionedKind, h₃, h₄, h₅, h₆]
  rw [statement, hkind]
  simpa [h₁, h₂, h₇, h₈, h₉, h₁₀, h₁₁, h₁₂, h₁₃, hdecl] using h

theorem body_gives (ht : t.text ≠ "\x7d") (h : (statement fin t rest).Gives node more) :
    (body fin (t :: rest)).Gives (some node) more := by
  obtain ⟨rfl, rfl⟩ := h
  rw [body]
  simp [ht, Parsed.Gives]

theorem elseClause_none (h : k = .ifStatement → ∀ t ∈ ts.head?, t.text ≠ "else") :
    (elseClause fin k ts).Gives none ts := by
  cases ts with
  | nil => rw [elseClause]; exact ⟨rfl, rfl⟩
  | cons t rest =>
      have ht : ¬ (k = .ifStatement ∧ t.text = "else") := fun hboth => h hboth.1 t rfl hboth.2
      rw [elseClause]
      simp [ht, Parsed.Gives, Parsed.stay]

theorem elseClause_gives (ht : t.text = "else") (h : (body fin rest).Gives (some inner) more) :
    (elseClause fin .ifStatement (t :: rest)).Gives (some (keyworded .elseClause t [inner])) more := by
  obtain ⟨hinner, rfl⟩ := h
  rw [elseClause]
  simp [ht, Parsed.Gives, hinner]

theorem conditioned_gives (hcond : (condition fin rest).Gives (some cond) ts)
    (hbody : (body fin ts).Gives (some inner) after) (helse : (elseClause fin k after).Gives other more) :
    (conditioned fin k t rest).Gives (keyworded k t (cond :: inner :: other.toList)) more := by
  obtain ⟨hvalue, rfl⟩ := hcond
  obtain ⟨hinner, rfl⟩ := hbody
  obtain ⟨rfl, rfl⟩ := helse
  rw [conditioned]
  simp [Parsed.Gives, hvalue, hinner]

theorem repeatCondition_gives (ht : t.text = "while") (h : (condition fin rest).Gives other more) :
    (repeatCondition fin (t :: rest)).Gives other more := by
  obtain ⟨rfl, rfl⟩ := h
  simp [repeatCondition, ht, Parsed.Gives]

theorem doStatement_gives (hbody : (body fin rest).Gives (some inner) (w :: after)) (hw : w.text = "while")
    (hcond : (condition fin after).Gives (some cond) (c :: more)) (hc : c.text = ";") :
    (doStatement fin t rest).Gives (keyworded .doStatement t [inner, cond]) more := by
  obtain ⟨hinner, hrest⟩ := hbody
  have hrepeat := repeatCondition_gives hw hcond
  rw [← hrest] at hrepeat
  obtain ⟨hvalue, hmore⟩ := hrepeat
  rw [doStatement]
  simp [Parsed.Gives, hinner, hvalue, hmore, dropMark, hc]

theorem compound_gives (h : (statements fin rest).Gives nodes (c :: more)) :
    (compound fin t rest).Gives (spanning .compoundStatement t.start c.stop nodes) more := by
  obtain ⟨rfl, hrest⟩ := h
  rw [compound]
  split
  · simp_all
  · rename_i nodes' c' more' _ hparsed
    simp only [hparsed] at hrest ⊢
    cases hrest
    exact ⟨rfl, rfl⟩

theorem statements_stop (ht : t.text = "\x7d") : (statements fin (t :: rest)).Gives [] (t :: rest) := by
  rw [statements]
  simp [ht, Parsed.Gives, Parsed.stay]

theorem statements_gives (ht : t.text ≠ "\x7d") (h : (statement fin t rest).Gives node after)
    (hrest : (statements fin after).Gives nodes more) :
    (statements fin (t :: rest)).Gives (node :: nodes) more := by
  obtain ⟨rfl, rfl⟩ := h
  obtain ⟨rfl, rfl⟩ := hrest
  rw [statements]
  simp [ht, Parsed.Gives]

/-! ## Labels -/

/-- What the statements behind a label end at. -/
def branchEnds : List String := ["case", "default", "\x7d"]

theorem caseLabel_value (ht : t.text = "case") (h : (assignment fin rest).Gives node (c :: more)) (hc : c.text = ":") :
    (caseLabel fin t rest).Gives [node] more := by
  obtain ⟨rfl, hrest⟩ := h
  simp [caseLabel, ht, Parsed.Gives, hrest, dropMark, hc]

theorem caseLabel_open (ht : t.text = "case") (h : (assignment fin rest).Gives node (c :: more)) (hc : c.text ≠ ":") :
    (caseLabel fin t rest).Gives [node] (c :: more) := by
  obtain ⟨rfl, hrest⟩ := h
  simp [caseLabel, ht, Parsed.Gives, hrest, dropMark, hc]

theorem caseLabel_default (ht : t.text = "default") (hc : c.text = ":") :
    (caseLabel fin t (c :: more)).Gives [] more := by
  simp [caseLabel, ht, Parsed.Gives, dropMark, hc]

theorem caseBody_stop (ht : t.text ∈ branchEnds) : (caseBody fin (t :: rest)).Gives [] (t :: rest) := by
  rw [caseBody]
  simp only [branchEnds, ← List.contains_iff_mem] at ht
  simp only [ht, if_true]
  exact ⟨rfl, rfl⟩

theorem caseBody_gives (ht : t.text ∉ branchEnds) (h : (statement fin t rest).Gives node after)
    (hrest : (caseBody fin after).Gives nodes more) : (caseBody fin (t :: rest)).Gives (node :: nodes) more := by
  obtain ⟨rfl, rfl⟩ := h
  obtain ⟨rfl, rfl⟩ := hrest
  rw [caseBody]
  simp only [branchEnds, ← List.contains_iff_mem] at ht
  simp only [ht]
  exact ⟨rfl, rfl⟩

theorem statement_case {label : List Node} (ht : t.text = "case" ∨ t.text = "default")
    (hlabel : (caseLabel fin t rest).Gives label after) (h : (caseBody fin after).Gives nodes more) :
    (statement fin t rest).Gives (keyworded .caseStatement t (label ++ nodes)) more := by
  obtain ⟨rfl, rfl⟩ := hlabel
  obtain ⟨rfl, rfl⟩ := h
  have hkind : conditionedKind t = none := by rcases ht with ht | ht <;> simp [conditionedKind, ht]
  rw [statement, hkind]
  rcases ht with ht | ht <;> simp [ht, Parsed.Gives]

end EsqlAudit.Grammar
