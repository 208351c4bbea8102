import EsqlAudit.Grammar.Expression

/-!
Statements of C, from tokens to syntax trees. A statement is told by its first word or mark; whatever is
not one of these is a declaration if it looks like one, and an expression otherwise.
-/
namespace EsqlAudit.Grammar
open Syntax

/-- The tokens after the parenthesis that closes `depth` open ones; none if it is not there. -/
def afterClosing : Nat → List Token → List Token
  | _, [] => []
  | depth, t :: rest =>
    if t.text == "(" then afterClosing (depth + 1) rest
    else if t.text == ")" then
      match depth with
      | 0 | 1 => rest
      | d + 2 => afterClosing (d + 1) rest
    else afterClosing depth rest

theorem afterClosing_suffix (depth : Nat) (ts : List Token) : afterClosing depth ts <:+ ts := by
  induction ts generalizing depth with
  | nil => exact List.suffix_refl []
  | cons t rest ih =>
    simp only [afterClosing]
    split
    · exact suffix_of_rest t (ih _)
    · split
      · split
        · exact List.suffix_cons t rest
        · exact List.suffix_cons t rest
        · exact suffix_of_rest t (ih _)
      · exact suffix_of_rest t (ih _)

/-- The expression of a parenthesized condition. What follows is read from the matching parenthesis on,
wherever the expression ended. -/
def condition (fin : Nat) (ts : List Token) : Parsed (Option Node) ts :=
  match ts with
  | [] => .atEnd none _
  | t :: rest =>
    if t.text == "(" then
      ⟨some (expression fin rest).value, afterClosing 1 rest,
        suffix_of_rest t (afterClosing_suffix 1 rest)⟩
    else .stay none (t :: rest)

/-- A type, then a name that some variable is called by, or a word before a star. -/
def startsDeclaration (t : Token) (rest : List Token) : Bool :=
  t.isWord &&
    (t.isTypeWord ||
      match rest with
      | [] => false
      | n :: more =>
        n.text == "*" ||
          (n.isWord && (more.head?.map fun e => [";", "=", ",", "["].contains e.text).getD false))

/-- The kind of node of a word that stands for a type. -/
def typeKind (t : Token) : Kind :=
  if t.isTypeWord then .primitiveType else .typeIdentifier

/-- The names and initial values of a declaration, up to and including the semicolon. All else, the
dimensions of an array for instance, is passed over. -/
def declarators (fin : Nat) (ts : List Token) : Parsed (List Node) ts :=
  match ts with
  | [] => .atEnd [] _
  | t :: rest =>
    if t.text == ";" then .step [] t rest
    else if t.text == "=" then
      match assignment fin rest with
      | ⟨value, after, hafter⟩ =>
        have := (suffix_of_tail hafter).length_le
        match declarators fin after with
        | ⟨nodes, more, hmore⟩ =>
          ⟨value :: nodes, more, suffix_of_rest t (hmore.trans (suffix_of_tail hafter))⟩
    else
      match declarators fin rest with
      | ⟨nodes, more, hmore⟩ =>
        ⟨if t.isWord then leafOf .identifier t :: nodes else nodes, more, suffix_of_rest t hmore⟩
termination_by ts.length
decreasing_by
  all_goals simp only [List.length_cons]
  all_goals omega

/-- Where the last of the nodes stops, or `stop` if there is none. -/
def lastStop (stop : Nat) (nodes : List Node) : Nat :=
  (nodes.getLast?.map Node.stop).getD stop

/-- A statement that a keyword starts, from the keyword to the last of its parts. -/
def keyworded (k : Kind) (t : Token) (parts : List Node) : Node :=
  spanning k t.start (lastStop t.stop parts) (markNode t :: parts)

/-- Takes a semicolon if one stands there, and tells where the statement then stops. -/
def semicolon (stop : Nat) (ts : List Token) : Parsed Nat ts :=
  match ts with
  | [] => .atEnd stop _
  | t :: rest => if t.text == ";" then .step t.stop t rest else .stay stop (t :: rest)

/-- A jump to a label. -/
def gotoStatement (t : Token) (rest : List Token) : Parsed Node rest :=
  match rest with
  | [] => .atEnd (keyworded .gotoStatement t []) _
  | label :: after =>
    match semicolon label.stop after with
    | ⟨_, more, hmore⟩ =>
      ⟨keyworded .gotoStatement t [leafOf .statementIdentifier label], more,
        suffix_of_rest label hmore⟩

/-- The label after `break` or `continue`, if there is one. -/
def jumpLabel (ts : List Token) : Parsed (List Node) ts :=
  match ts with
  | [] => .atEnd [] _
  | t :: rest =>
    if t.isWord then .step [leafOf .identifier t] t rest else .stay [] (t :: rest)

/-- A jump out of or to the head of a loop. -/
def jumpStatement (k : Kind) (t : Token) (rest : List Token) : Parsed Node rest :=
  match jumpLabel rest with
  | ⟨label, after, hafter⟩ =>
    match semicolon t.stop after with
    | ⟨stop, more, hmore⟩ =>
      ⟨spanning k t.start stop (markNode t :: label), more, hmore.trans hafter⟩

/-- The value of a `return` statement, if there is one. -/
def returnValue (fin : Nat) (ts : List Token) : Parsed (List Node) ts :=
  match ts with
  | [] => .atEnd [] _
  | t :: rest =>
    if t.text == ";" then .stay [] (t :: rest)
    else
      match expression fin (t :: rest) with
      | ⟨value, more, hmore⟩ => ⟨[value], more, suffix_of_rest t hmore⟩

def returnStatement (fin : Nat) (t : Token) (rest : List Token) : Parsed Node rest :=
  match returnValue fin rest with
  | ⟨value, after, hafter⟩ =>
    match semicolon (lastStop t.stop value) after with
    | ⟨stop, more, hmore⟩ =>
      ⟨spanning .returnStatement t.start stop (markNode t :: value), more, hmore.trans hafter⟩

/-- An expression and the semicolon after it. -/
def expressionStatement (fin : Nat) (t : Token) (rest : List Token) : Parsed Node rest :=
  match expression fin (t :: rest) with
  | ⟨node, after, hafter⟩ =>
    match semicolon node.stop after with
    | ⟨stop, more, hmore⟩ =>
      ⟨spanning .expressionStatement node.start stop [node], more, hmore.trans hafter⟩

/-- A type, the names declared and their initial values. -/
def declarationStatement (fin : Nat) (t : Token) (rest : List Token) : Parsed Node rest :=
  match declarators fin rest with
  | ⟨nodes, more, hmore⟩ =>
    ⟨spanning .declaration t.start (lastStop t.stop nodes) (leafOf (typeKind t) t :: nodes), more, hmore⟩

/-- What follows `case` up to the colon, or the colon alone after `default`. -/
def caseLabel (fin : Nat) (t : Token) (rest : List Token) : Parsed (List Node) rest :=
  if t.text == "case" then
    match assignment fin rest with
    | ⟨value, after, hafter⟩ =>
      ⟨[value], dropMark ":" after, dropMark_suffix_of_tail ":" hafter⟩
  else ⟨[], dropMark ":" rest, dropMark_suffix ":" rest⟩

/-- The condition to repeat the body of a `do` statement, if `while` stands there. -/
def repeatCondition (fin : Nat) (ts : List Token) : Parsed (Option Node) ts :=
  match ts with
  | [] => .atEnd none _
  | t :: rest =>
    if t.text == "while" then
      match condition fin rest with
      | ⟨cond, more, hmore⟩ => ⟨cond, more, suffix_of_rest t hmore⟩
    else .stay none (t :: rest)

/-- The kind of statement that a word with a condition starts. -/
def conditionedKind (t : Token) : Option Kind :=
  if t.text == "if" then some .ifStatement
  else if t.text == "while" then some .whileStatement
  else if t.text == "for" then some .forStatement
  else if t.text == "switch" then some .switchStatement
  else none

mutual

/-- The statement that starts with the token `t`. -/
def statement (fin : Nat) (t : Token) (rest : List Token) : Parsed Node rest :=
  if t.text == "\x7b" then compound fin t rest
  else if t.text == ";" then .stay (leafOf .expressionStatement t) rest
  else
    match conditionedKind t with
    | some k => conditioned fin k t rest
    | none =>
      if t.text == "do" then doStatement fin t rest
      else if t.text == "case" || t.text == "default" then
        match caseLabel fin t rest with
        | ⟨label, after, hafter⟩ =>
          have := hafter.length_le
          match caseBody fin after with
          | ⟨nodes, more, hmore⟩ =>
            ⟨keyworded .caseStatement t (label ++ nodes), more, hmore.trans hafter⟩
      else if t.text == "goto" then gotoStatement t rest
      else if t.text == "break" then jumpStatement .breakStatement t rest
      else if t.text == "continue" then jumpStatement .continueStatement t rest
      else if t.text == "return" then returnStatement fin t rest
      else if startsDeclaration t rest then declarationStatement fin t rest
      else expressionStatement fin t rest
termination_by 10 * rest.length + 10

/-- The statement at the front of the tokens, none before a closing brace or at the end. -/
def body (fin : Nat) (ts : List Token) : Parsed (Option Node) ts :=
  match ts with
  | [] => .atEnd none _
  | t :: rest =>
    if t.text == "\x7d" then .stay none (t :: rest)
    else
      match statement fin t rest with
      | ⟨node, more, hmore⟩ => ⟨some node, more, suffix_of_rest t hmore⟩
termination_by 10 * ts.length + 1

/-- A word, its condition and its body; after an `if`, also an `else`. -/
def conditioned (fin : Nat) (k : Kind) (t : Token) (rest : List Token) : Parsed Node rest :=
  match condition fin rest with
  | ⟨cond, afterCond, hcond⟩ =>
    have := hcond.length_le
    match body fin afterCond with
    | ⟨inner, afterBody, hbody⟩ =>
      have := hbody.length_le
      match elseClause fin k afterBody with
      | ⟨other, more, hmore⟩ =>
        ⟨keyworded k t (cond.toList ++ inner.toList ++ other.toList), more,
          hmore.trans (hbody.trans hcond)⟩
termination_by 10 * rest.length + 5

/-- The `else` after an `if` statement, if there is one. -/
def elseClause (fin : Nat) (k : Kind) (ts : List Token) : Parsed (Option Node) ts :=
  match ts with
  | [] => .atEnd none _
  | t :: rest =>
    if k == .ifStatement && t.text == "else" then
      match body fin rest with
      | ⟨inner, more, hmore⟩ =>
        ⟨some (keyworded .elseClause t inner.toList), more, suffix_of_rest t hmore⟩
    else .stay none (t :: rest)
termination_by 10 * ts.length + 1

/-- A body, the condition to repeat it, and a semicolon; all of them may be missing. -/
def doStatement (fin : Nat) (t : Token) (rest : List Token) : Parsed Node rest :=
  match body fin rest with
  | ⟨inner, after, hafter⟩ =>
    match repeatCondition fin after with
    | ⟨cond, more, hmore⟩ =>
      ⟨keyworded .doStatement t (inner.toList ++ cond.toList), dropMark ";" more,
        (dropMark_suffix ";" more).trans (hmore.trans hafter)⟩
termination_by 10 * rest.length + 5

/-- The statements between braces; `t` is taken for the opening one. Without a closing brace the block is one
byte long. -/
def compound (fin : Nat) (t : Token) (rest : List Token) : Parsed Node rest :=
  match statements fin rest with
  | ⟨nodes, [], _⟩ => .atEnd (spanning .compoundStatement t.start (t.start + 1) nodes) _
  | ⟨nodes, c :: more, hmore⟩ =>
    ⟨spanning .compoundStatement t.start c.stop nodes, more, (List.suffix_cons c more).trans hmore⟩
termination_by 10 * rest.length + 5

/-- The statements up to a closing brace. -/
def statements (fin : Nat) (ts : List Token) : Parsed (List Node) ts :=
  match ts with
  | [] => .atEnd [] _
  | t :: rest =>
    if t.text == "\x7d" then .stay [] (t :: rest)
    else
      match statement fin t rest with
      | ⟨node, after, hafter⟩ =>
        have := hafter.length_le
        match statements fin after with
        | ⟨nodes, more, hmore⟩ => ⟨node :: nodes, more, suffix_of_rest t (hmore.trans hafter)⟩
termination_by 10 * ts.length + 2

/-- The statements up to the next label or a closing brace. -/
def caseBody (fin : Nat) (ts : List Token) : Parsed (List Node) ts :=
  match ts with
  | [] => .atEnd [] _
  | t :: rest =>
    if ["case", "default", "\x7d"].contains t.text then .stay [] (t :: rest)
    else
      match statement fin t rest with
      | ⟨node, after, hafter⟩ =>
        have := hafter.length_le
        match caseBody fin after with
        | ⟨nodes, more, hmore⟩ => ⟨node :: nodes, more, suffix_of_rest t (hmore.trans hafter)⟩
termination_by 10 * ts.length + 2

end

end EsqlAudit.Grammar
