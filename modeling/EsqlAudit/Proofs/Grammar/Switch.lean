import Mathlib.Data.List.Forall2
import EsqlAudit.Proofs.Grammar.Layout

/-!
# Switches are read back

A function that is one `switch` over its parameter, with assignments and `break` behind its labels. Each label is
read back as one node with the statements behind it, and a `default` makes the same kind of node as a `case`. Of a
constant only the first digits are read as the value: what goes on with a letter, as in `0x1F` and `7UL`, is taken
for a statement of its own, and so is the colon then.
-/

namespace EsqlAudit.Grammar.Structured
open Syntax Text Utf8

/-! ## Switches -/

/-- A whole number with or without a sign before it. Its ending is what follows the first digits, for instance `x1F` in
`0x1F` and `UL` in `7UL`. -/
structure Constant where
  negative : Bool
  digits : Numeral
  ending : Option Name

structure Assignment where
  text : String
  valid : text ∈ assignmentOperators

/-- A statement that has no other in it. -/
inductive Simple where
  | assign (x : Name) (o : Assignment) (e : Expr)
  | leave

/-- `case` with its value, or `default`. -/
inductive Label where
  | value (c : Constant)
  | other

/-- A label and the statements up to the next one. -/
structure Branch where
  label : Label
  body : List Simple

/-! ## Writing -/

/-- The sign and the first digits of a constant. -/
def Constant.front (c : Constant) : List Piece :=
  if c.negative then [spaced (mark "-"), tight ⟨.number, c.digits.text⟩] else [spaced ⟨.number, c.digits.text⟩]

def Constant.pieces (c : Constant) : List Piece :=
  c.front ++ (c.ending.map fun x => tight (word x.text)).toList

def Simple.pieces : Simple → List Piece
  | assign x o e => spaced (word x.text) :: spaced (mark o.text) :: (e.lexemes.map spaced ++ [tight (mark ";")])
  | leave => [spaced (word "break"), tight (mark ";")]

def Label.keyword : Label → String
  | value _ => "case"
  | other => "default"

/-- What stands between the word of a label and the colon. -/
def Label.constant : Label → List Piece
  | value c => c.pieces
  | other => []

def Branch.pieces (b : Branch) : List Piece :=
  spaced (word b.label.keyword) :: (b.label.constant ++ tight (mark ":") :: b.body.flatMap Simple.pieces)

/-- A function that switches on its parameter. -/
def switchPieces (branches : List Branch) : List Piece :=
  [tight (word "int"), spaced (word "f"), tight (mark "("), tight (word "int"), spaced (word "x"), tight (mark ")"),
    spaced (mark "\x7b"), spaced (word "switch"), spaced (mark "("), tight (word "x"), tight (mark ")"),
    spaced (mark "\x7b")] ++
    (branches.flatMap Branch.pieces ++ [spaced (mark "\x7d"), spaced (mark "\x7d")])

/-- The text of a function that switches on its parameter. -/
def switchSource (branches : List Branch) : List Char :=
  laid (switchPieces branches)

example :
    let y : Name := ⟨"y", by decide⟩
    let two : Expr := .number ⟨"2", by decide⟩
    let mask : Constant := ⟨true, ⟨"0", by decide⟩, some ⟨"x1F", by decide⟩⟩
    switchSource [⟨.value mask, [.assign y ⟨"=", by decide⟩ two, .leave]⟩,
      ⟨.other, [.assign y ⟨"+=", by decide⟩ two]⟩] =
      "int f(int x) \x7b switch (x) \x7b case -0x1F: y = 2; break; default: y += 2; \x7d \x7d".toList := by decide

/-! ## The tokens of a written switch -/

/-- The marks that switches are written with. -/
def switchMarks : List String := marks ++ ":" :: assignmentOperators

theorem switchMarks_clear : ∀ s ∈ switchMarks,
    isLoneMark s = true ∧ ∀ c ∈ s.toList, 32 ≤ c.toNat ∧ c.toNat < 128 := by decide

theorem clear_mark {s : String} (h : s ∈ switchMarks) : (mark s).Clear :=
  ⟨fun _ hrest => scan_mark (switchMarks_clear s h).1 hrest, (switchMarks_clear s h).2⟩

/-- The words that switches are written with. -/
def switchWords : List String := ["int", "f", "x", "switch", "case", "default", "break"]

theorem clear_word {s : String} (h : s ∈ switchWords) : (word s).Clear := by
  have hall : ∀ s ∈ switchWords, s.toList.head?.any startsWord = true ∧ s.toList.tail.all isNameChar = true := by decide
  exact (plain_keyword (hall s h).1 (hall s h).2).clear

/-- A word right behind a mark is not a part of it. -/
theorem word_follows {s : String} (h : s ∈ switchWords) : (tight (word s)).Follows .mark := by
  have hall : ∀ s ∈ switchWords, (s.toList.head?.all fun c => !goesOn .mark c) = true := by decide
  exact follows_of_all (hall s h)

theorem Numeral.clear (n : Numeral) : Lexeme.Clear ⟨.number, n.text⟩ :=
  (Lexeme.Plain.number n.valid).clear

/-- A sign does not go on with a digit. -/
theorem Numeral.follows (n : Numeral) : (tight ⟨.number, n.text⟩).Follows .mark := by
  refine .inr fun c hc => ?_
  have hdigits := n.valid
  simp only [isNumeral, Bool.and_eq_true, List.all_eq_true] at hdigits
  have hbounds := isDigit_bounds (hdigits.2 c (List.mem_of_mem_head? hc))
  have hmarks : ∀ d ∈ markChars, d.toNat < 48 ∨ 57 < d.toNat := by decide
  simp only [goesOn, List.contains_eq_mem, decide_eq_false_iff_not]
  intro hmem
  have := hmarks c hmem
  omega

/-- A number does not go on with a letter. -/
theorem Name.follows (x : Name) : (tight (word x.text)).Follows .number := by
  obtain ⟨c, cs, htext, hc, -⟩ := x.first
  refine .inr fun d hd => ?_
  obtain rfl : c = d := by simpa [tight, word, htext] using hd
  have hbounds := startsWord_bounds hc
  have hdigit : c.isDigit = false := by
    rw [Bool.eq_false_iff]
    intro h
    have := isDigit_bounds h
    omega
  have hpoint : c ≠ '.' := by
    rintro rfl
    exact absurd hbounds (by decide)
  simp [goesOn, hdigit, hpoint]

theorem Constant.gap (c : Constant) (ps : List Piece) : Gap (c.pieces ++ ps) := by
  obtain ⟨_ | _, n, ending⟩ := c <;> exact gap_spaced _ _

theorem Constant.legible (c : Constant) : Legible c.pieces := by
  obtain ⟨negative, n, ending⟩ := c
  have hdigits : ∀ gap, Legible (⟨gap, .number, n.text⟩ :: (ending.map fun x => tight (word x.text)).toList) := by
    intro gap
    cases ending with
    | none => exact legible_singleton n.clear
    | some x => exact .step n.clear x.follows (legible_singleton x.plain.clear)
  cases negative with
  | false => exact hdigits true
  | true => exact .step (clear_mark (by decide)) n.follows (hdigits false)

theorem Simple.gap (st : Simple) : Gap st.pieces := by
  cases st <;> exact gap_spaced _ _

theorem Simple.legible (st : Simple) : Legible st.pieces := by
  have hend : Legible [tight (mark ";")] := legible_singleton (clear_mark (by decide))
  cases st with
  | assign x o e =>
      have hvalue : Legible (e.lexemes.map spaced ++ [tight (mark ";")]) := by
        refine (legible_spaced fun l hl => (e.plain l hl).clear).append hend ?_
        rintro q ⟨⟩
        exact closing_follows (by decide)
      obtain ⟨l, more, hfirst, -⟩ := e.first
      rw [hfirst] at hvalue
      rw [Simple.pieces, hfirst]
      have ho : (mark o.text).Clear :=
        clear_mark (List.mem_append_right _ (List.mem_cons_of_mem _ o.valid))
      exact .step x.plain.clear (spaced_follows _ _) (.step ho (spaced_follows _ _) hvalue)
  | leave => exact .step (clear_word (by decide)) (closing_follows (by decide) _) hend

theorem Label.clear (label : Label) : (word label.keyword).Clear := by
  cases label with
  | value c => exact clear_word (s := "case") (by decide)
  | other => exact clear_word (by decide)

theorem Branch.gap (b : Branch) : Gap b.pieces := gap_spaced _ _

theorem Branch.legible (b : Branch) : Legible b.pieces := by
  obtain ⟨label, body⟩ := b
  have hcolon : Legible (tight (mark ":") :: body.flatMap Simple.pieces) :=
    .cons_gap (clear_mark (by decide)) (.flatMap Simple.legible Simple.gap body) (.flatMap Simple.gap body)
  cases label with
  | value c =>
      have hconstant : Legible (c.pieces ++ tight (mark ":") :: body.flatMap Simple.pieces) := by
        refine c.legible.append hcolon ?_
        rintro q ⟨⟩
        exact closing_follows (by decide)
      exact .cons_gap (Label.value c).clear hconstant (c.gap _)
  | other => exact .step Label.other.clear (closing_follows (by decide) _) hcolon

theorem switch_legible (branches : List Branch) : Legible (switchPieces branches) := by
  have hend : Legible [spaced (mark "\x7d"), spaced (mark "\x7d")] :=
    .cons_gap (clear_mark (by decide)) (legible_singleton (clear_mark (by decide))) (gap_spaced _ _)
  have hbranches : Legible (branches.flatMap Branch.pieces ++ [spaced (mark "\x7d"), spaced (mark "\x7d")]) :=
    (Legible.flatMap Branch.legible Branch.gap branches).append_gap hend (gap_spaced _ _)
  have hgap : Gap (branches.flatMap Branch.pieces ++ [spaced (mark "\x7d"), spaced (mark "\x7d")]) :=
    (Gap.flatMap Branch.gap branches).append (gap_spaced _ _)
  -- From here on back to the start of the text, piece by piece.
  have hbody : Legible (tight (mark ")") :: spaced (mark "\x7b") :: (branches.flatMap Branch.pieces ++ _)) :=
    .cons_gap (clear_mark (by decide)) (.cons_gap (clear_mark (by decide)) hbranches hgap) (gap_spaced _ _)
  have hsubject : Legible (spaced (mark "(") :: tight (word "x") :: tight (mark ")") :: _) :=
    .step (clear_mark (by decide)) (word_follows (by decide))
      (.step (clear_word (by decide)) (closing_follows (by decide) _) hbody)
  have hswitch : Legible (spaced (mark "\x7b") :: spaced (word "switch") :: spaced (mark "(") :: _) :=
    .cons_gap (clear_mark (by decide)) (.cons_gap (clear_word (by decide)) hsubject (gap_spaced _ _)) (gap_spaced _ _)
  have hparameter : Legible (tight (word "int") :: spaced (word "x") :: tight (mark ")") :: _) :=
    .step (clear_word (by decide)) (spaced_follows _ _) (.step (clear_word (by decide)) (closing_follows (by decide) _)
      (.cons_gap (clear_mark (by decide)) hswitch (gap_spaced _ _)))
  exact .step (clear_word (by decide)) (spaced_follows _ _) (.step (clear_word (by decide))
    (closing_follows (by decide) _) (.step (clear_mark (by decide)) (word_follows (by decide)) hparameter))

/-! ## Trees that show a switch -/

/-- The tree shows the sign and the first digits of the constant. -/
inductive ShowsFront (p : Program) (c : Constant) : Node → Prop
  | plain {node : Node} : Shows p (.number c.digits) node → ShowsFront p c node
  | negative {node : Node} {a b a' b' : Nat} : Shows p (.number c.digits) node →
      ShowsFront p c (spanning .unaryExpression a b [signNode "-" a' b', node])

/-- The tree shows the statement. -/
inductive ShowsSimple (p : Program) : Simple → Node → Prop
  | assign {x : Name} {o : Assignment} {e : Expr} {target value : Node} {a b c d a' b' : Nat} :
      Shows p (.name x) target → Shows p e value →
      ShowsSimple p (.assign x o e) (spanning .expressionStatement a b
        [spanning .assignmentExpression c d [target, signNode o.text a' b', value]])
  | leave {a b c d : Nat} : ShowsSimple p .leave (spanning .breakStatement a b [signNode "break" c d])

/-- The trees show what a label has behind its word. The ending of a constant and the colon after it are statements. -/
inductive ShowsLabel (p : Program) : Label → List Node → Prop
  | value {c : Constant} {node : Node} : c.ending = none → ShowsFront p c node → ShowsLabel p (.value c) [node]
  | ending {c : Constant} {x : Name} {node node' : Node} {a b a' b' a'' b'' : Nat} : c.ending = some x →
      ShowsFront p c node → Shows p (.name x) node' →
      ShowsLabel p (.value c) [node, spanning .expressionStatement a b [node'],
        spanning .expressionStatement a' b' [spanning (.other ":") a'' b'' []]]
  | other : ShowsLabel p .other []

/-- The tree shows the label and the statements behind it. Its kind is the same for both labels. -/
inductive ShowsBranch (p : Program) : Branch → Node → Prop
  | mk {label : Label} {body : List Simple} {nodes nodes' : List Node} {a b c d : Nat} : ShowsLabel p label nodes →
      List.Forall₂ (ShowsSimple p) body nodes' →
      ShowsBranch p ⟨label, body⟩
        (spanning .caseStatement a b (signNode label.keyword c d :: (nodes ++ nodes')))

/-- The parameter as an expression. -/
def subject : Expr := .name ⟨"x", by decide⟩

/-- The tree is a block with nothing but the switch. -/
inductive ShowsSwitch (p : Program) (branches : List Branch) : Node → Prop
  | mk {cond : Node} {nodes : List Node} {a b c d a' b' c' d' : Nat} : Shows p subject cond →
      List.Forall₂ (ShowsBranch p) branches nodes →
      ShowsSwitch p branches (spanning .compoundStatement a b [spanning .switchStatement c d
        [signNode "switch" a' b', cond, spanning .compoundStatement c' d' nodes]])

/-! ## Reading -/

variable {s : List Char} {fin : Nat} {t u e : Token} {ts us rest : List Token}

theorem Constant.readBack (hs : Ascii s) (root : Option Node) (c : Constant)
    (hts : ts.map lexemeOf = c.front.map Piece.lexeme) (hp : Placed s ts) (he : IsEnd e) (fin : Nat)
    (rest : List Token) :
    ∃ node, ShowsFront (Program.load s root) c node ∧ (assignment fin (ts ++ e :: rest)).Gives node (e :: rest) := by
  obtain ⟨negative, n, ending⟩ := c
  cases negative with
  | false =>
      have hnumber := (Expr.number n).readBack hs root
      obtain ⟨node, hnode, hread⟩ := hnumber.assignment (Expr.number n).level_pos hts hp he fin rest
      exact ⟨node, .plain hnode, hread⟩
  | true =>
      obtain ⟨m, us, rfl, hm, hus⟩ := List.map_eq_cons_iff.mp hts
      obtain ⟨t, rfl, ht⟩ := List.map_eq_singleton_iff.mp hus
      have hmtext : m.text = "-" := congrArg Lexeme.text hm
      have htext : t.text = n.text := congrArg Lexeme.text ht
      have hkind : leafKind t = .numberLiteral := by
        simp [leafKind, show t.cls = .number from congrArg Lexeme.cls ht]
      have hsign : unaryKind m = some .unaryExpression := by simp [unaryKind, hmtext]
      have hdigits : (unary fin (t :: e :: rest)).Gives (spanning .numberLiteral t.start t.stop []) (e :: rest) :=
        unary_token hkind (htext ▸ n.not_mem _ (by decide)) fun v hv => (he.ends 0 v hv).1
      have hwhole := he.assignment_of_unary (unary_operator hsign hdigits)
      have hshows : Shows (Program.load s root) (.number n) (spanning .numberLiteral t.start t.stop []) :=
        .number (htext ▸ hp.tail.nodeText hs root rfl rfl)
      rw [before, markNode_eq hmtext (by decide)] at hwhole
      exact ⟨_, .negative hshows, hwhole⟩

theorem Simple.readBack (hs : Ascii s) (root : Option Node) (st : Simple)
    (hts : (t :: ts).map lexemeOf = st.pieces.map Piece.lexeme) (hp : Placed s (t :: ts)) (fin : Nat)
    (rest : List Token) :
    ∃ node, ShowsSimple (Program.load s root) st node ∧ (statement fin t (ts ++ rest)).Gives node rest := by
  cases st with
  | assign x o e =>
      have hlexemes : (Simple.assign x o e).pieces.map Piece.lexeme =
          word x.text :: mark o.text :: (e.lexemes ++ [mark ";"]) := by
        rw [Simple.pieces, List.map_cons, List.map_cons, List.map_append, map_lexeme_spaced]
        rfl
      obtain ⟨target, value, a, b, c, d, a', b', htarget, hvalue, hread⟩ :=
        readBack_assignment hs root x e o.valid (hts.trans hlexemes) hp fin rest
      exact ⟨_, .assign htarget hvalue, hread⟩
  | leave =>
      obtain ⟨_, us, ⟨⟩, ht, hus⟩ := List.map_eq_cons_iff.mp hts
      obtain ⟨c, rfl, hc⟩ := List.map_eq_singleton_iff.mp hus
      have htext : t.text = "break" := congrArg Lexeme.text ht
      have hstmt : (statement fin t ([c] ++ rest)).Gives _ rest :=
        statement_break htext (jumpStatement_gives (congrArg Lexeme.text hc) (congrArg Lexeme.cls hc))
      rw [markNode_eq htext (by decide)] at hstmt
      exact ⟨_, .leave, hstmt⟩

/-- What stands behind the colon of a label does not go on with an expression before it. -/
def Starts (w : Token) : Prop := IsEnd w ∧ w.text ≠ ";"

theorem starts_of_branchEnds (hu : u.text ∈ branchEnds) : Starts u := by
  have hall : ∀ text ∈ branchEnds, text ∉ furtherMarks ∧ text ≠ ";" := by decide
  exact hall _ hu

theorem Simple.first (st : Simple) : ∃ p more, st.pieces = p :: more ∧ p.lexeme.text ∉ branchEnds ∧
    p.lexeme.text ∉ furtherMarks ∧ p.lexeme.text ≠ ";" := by
  cases st with
  | assign x o e =>
      have hsemi : x.text ≠ ";" := by simpa using x.not_mem [";"] (by decide)
      exact ⟨_, _, rfl, x.not_mem _ (by decide), x.not_mem _ (by decide), hsemi⟩
  | leave => exact ⟨_, _, rfl, by decide⟩

/-- A statement, a label or the brace starts what stands behind the colon of a label. -/
theorem starts_body {body : List Simple} (hts : ts.map lexemeOf = (body.flatMap Simple.pieces).map Piece.lexeme)
    (hu : u.text ∈ branchEnds) (rest : List Token) : ∃ w more, ts ++ u :: rest = w :: more ∧ Starts w := by
  cases body with
  | nil =>
      obtain rfl := List.map_eq_nil_iff.mp hts
      exact ⟨u, rest, rfl, starts_of_branchEnds hu⟩
  | cons st body =>
      obtain ⟨p, more, hfirst, -, hstart⟩ := st.first
      rw [List.flatMap_cons, hfirst] at hts
      obtain ⟨w, us, rfl, hw, -⟩ := List.map_eq_cons_iff.mp hts
      have hwtext : w.text = p.lexeme.text := congrArg Lexeme.text hw
      exact ⟨w, _, rfl, by rwa [Starts, IsEnd, hwtext]⟩

/-- The statements behind a label are read back up to the next label or the closing brace. -/
theorem caseBody_readBack (hs : Ascii s) (root : Option Node) (body : List Simple)
    (hts : ts.map lexemeOf = (body.flatMap Simple.pieces).map Piece.lexeme) (hp : Placed s ts)
    (hu : u.text ∈ branchEnds) (fin : Nat) (rest : List Token) :
    ∃ nodes, List.Forall₂ (ShowsSimple (Program.load s root)) body nodes ∧
      (caseBody fin (ts ++ u :: rest)).Gives nodes (u :: rest) := by
  induction body generalizing ts with
  | nil =>
      obtain rfl := List.map_eq_nil_iff.mp hts
      exact ⟨[], .nil, caseBody_stop hu⟩
  | cons st body ih =>
      rw [List.flatMap_cons, List.map_append] at hts
      obtain ⟨us, vs, rfl, hus, hvs⟩ := List.map_eq_append_iff.mp hts
      obtain ⟨p, more, hfirst, hnot, -⟩ := st.first
      rw [hfirst] at hus
      obtain ⟨t, us, rfl, ht, -⟩ := List.map_eq_cons_iff.mp hus
      rw [← hfirst] at hus
      have htext : t.text = p.lexeme.text := congrArg Lexeme.text ht
      obtain ⟨node, hnode, hread⟩ := st.readBack hs root hus hp.left fin (vs ++ u :: rest)
      obtain ⟨nodes, hnodes, hreads⟩ := ih hvs hp.right
      rw [List.append_assoc, List.cons_append]
      exact ⟨_, .cons hnode hnodes, caseBody_gives (htext ▸ hnot) hread hreads⟩

/-- A token by itself before another that starts something new is a statement. -/
theorem statement_token {k : Kind} (hkind : leafKind t = k) (hmarks : t.text ∉ "(" :: (unaryMarks ++ typeWords))
    (hstart : t.text ∉ statementStarts) (hdecl : startsDeclaration t (u :: rest) = false) (hu : Starts u) :
    (statement fin t (u :: rest)).Gives (spanning .expressionStatement t.start t.stop
      [spanning k t.start t.stop []]) (u :: rest) := by
  have hunary : (unary fin (t :: u :: rest)).Gives (spanning k t.start t.stop []) (u :: rest) :=
    unary_token hkind hmarks fun v hv => (hu.1.ends 0 v hv).1
  have hwhole := hu.1.expression (hu.1.assignment_of_unary hunary)
  exact statement_expression hstart hdecl (expressionStatement_open hwhole hu.2)

/-- The ending of a constant and the colon behind it are read as two statements of the branch. -/
theorem ending_readBack (hs : Ascii s) (root : Option Node) (x : Name) {y w : Token} {nodes : List Node}
    {more : List Token} (hy : lexemeOf y = word x.text) (hp : Placed s [y]) (hu : lexemeOf u = mark ":") (hw : Starts w)
    (hbody : (caseBody fin (w :: rest)).Gives nodes more) :
    ∃ node a b a' b' a'' b'', Shows (Program.load s root) (.name x) node ∧
      (caseBody fin (y :: u :: w :: rest)).Gives (spanning .expressionStatement a b [node] ::
        spanning .expressionStatement a' b' [spanning (.other ":") a'' b'' []] :: nodes) more := by
  have hytext : y.text = x.text := congrArg Lexeme.text hy
  have hykind : leafKind y = .identifier := by
    simp [leafKind, show y.cls = .word from congrArg Lexeme.cls hy]
  have hutext : u.text = ":" := congrArg Lexeme.text hu
  have hucls : u.cls = .mark := congrArg Lexeme.cls hu
  have hukind : leafKind u = .other ":" := by
    rw [leafKind, hucls, hutext]
    decide
  have hydecl : startsDeclaration y (u :: w :: rest) = false := by
    have htype := x.not_mem typeWords (by decide)
    simp [startsDeclaration, Token.isTypeWord, Token.isWord, hytext, htype, hutext, hucls]
  have hudecl : startsDeclaration u (w :: rest) = false := by simp [startsDeclaration, Token.isWord, hucls]
  have hyread : (statement fin y (u :: w :: rest)).Gives _ (u :: w :: rest) :=
    statement_token hykind (hytext ▸ x.not_mem _ (by decide)) (hytext ▸ x.not_mem _ (by decide)) hydecl
      ⟨isEnd_of_text hutext (by decide), by rw [hutext]; decide⟩
  have huread : (statement fin u (w :: rest)).Gives _ (w :: rest) :=
    statement_token hukind (by rw [hutext]; decide) (by rw [hutext]; decide) hudecl hw
  exact ⟨_, _, _, _, _, _, _, .name (hytext ▸ hp.nodeText hs root rfl rfl),
    caseBody_gives (hytext ▸ x.not_mem _ (by decide)) hyread (caseBody_gives (by rw [hutext]; decide) huread hbody)⟩

theorem Label.readBack (hs : Ascii s) (root : Option Node) (label : Label)
    (hts : ts.map lexemeOf = label.constant.map Piece.lexeme) (hp : Placed s ts) (ht : t.text = label.keyword)
    (hu : lexemeOf u = mark ":") {w : Token} (hw : Starts w) {nodes : List Node} {more : List Token}
    (hbody : (caseBody fin (w :: rest)).Gives nodes more) :
    ∃ nodes', ShowsLabel (Program.load s root) label nodes' ∧
      (statement fin t (ts ++ u :: w :: rest)).Gives (keyworded .caseStatement t (nodes' ++ nodes)) more := by
  have hutext : u.text = ":" := congrArg Lexeme.text hu
  cases label with
  | other =>
      obtain rfl := List.map_eq_nil_iff.mp hts
      exact ⟨[], .other, statement_case (.inr ht) (caseLabel_default ht hutext) hbody⟩
  | value c =>
      rw [Label.constant, Constant.pieces, List.map_append] at hts
      obtain ⟨us, vs, rfl, hus, hvs⟩ := List.map_eq_append_iff.mp hts
      cases hending : c.ending with
      | none =>
          rw [hending] at hvs
          obtain rfl := List.map_eq_nil_iff.mp hvs
          obtain ⟨node, hnode, hread⟩ :=
            c.readBack hs root hus hp.left (isEnd_of_text hutext (by decide)) fin (w :: rest)
          rw [List.append_nil]
          exact ⟨_, .value hending hnode, statement_case (.inl ht) (caseLabel_value ht hread hutext) hbody⟩
      | some x =>
          rw [hending] at hvs
          obtain ⟨y, rfl, hy⟩ := List.map_eq_singleton_iff.mp hvs
          have hytext : y.text = x.text := congrArg Lexeme.text hy
          have hcolon : y.text ≠ ":" := by simpa [hytext] using x.not_mem [":"] (by decide)
          -- The value ends at the letter, and no colon stands there to be dropped.
          obtain ⟨node, hnode, hread⟩ :=
            c.readBack hs root hus hp.left (isEnd_of_text hytext (x.not_mem _ (by decide))) fin (u :: w :: rest)
          obtain ⟨node', a, b, a', b', a'', b'', hnode', hstray⟩ := ending_readBack hs root x hy hp.right hu hw hbody
          have hstmt := statement_case (.inl ht) (caseLabel_open ht hread hcolon) hstray
          rw [List.append_assoc, List.singleton_append]
          exact ⟨_, .ending hending hnode hnode', hstmt⟩

theorem Label.keyword_mem (label : Label) : label.keyword ∈ branchEnds ∧ label.keyword ≠ "\x7d" := by
  have hall : ∀ w ∈ ["case", "default"], w ∈ branchEnds ∧ w ≠ "\x7d" := by decide
  cases label <;> exact hall _ (by simp [Label.keyword])

theorem Branch.readBack (hs : Ascii s) (root : Option Node) (b : Branch)
    (hts : (t :: ts).map lexemeOf = b.pieces.map Piece.lexeme) (hp : Placed s (t :: ts)) (hu : u.text ∈ branchEnds)
    (fin : Nat) (rest : List Token) :
    ∃ node, ShowsBranch (Program.load s root) b node ∧ (statement fin t (ts ++ u :: rest)).Gives node (u :: rest) := by
  obtain ⟨label, body⟩ := b
  simp only [Branch.pieces, List.map_cons, List.map_append, lexeme_spaced, lexeme_tight, List.cons.injEq] at hts
  obtain ⟨ht, hts⟩ := hts
  obtain ⟨us, vs, rfl, hus, hvs⟩ := List.map_eq_append_iff.mp hts
  obtain ⟨c, vs, rfl, hc, hvs⟩ := List.map_eq_cons_iff.mp hvs
  have htext : t.text = label.keyword := congrArg Lexeme.text ht
  have hkind : Kind.ofName label.keyword = .other label.keyword := by
    cases label <;> rfl
  obtain ⟨nodes, hnodes, hbody⟩ := caseBody_readBack hs root body hvs hp.tail.right.tail hu fin rest
  obtain ⟨w, more, hnext, hw⟩ := starts_body hvs hu rest
  rw [hnext] at hbody
  obtain ⟨nodes', hnodes', hstmt⟩ := label.readBack hs root hus hp.tail.left htext hc hw hbody
  rw [keyworded_eq htext hkind, ← hnext] at hstmt
  rw [List.append_assoc, List.cons_append]
  exact ⟨_, .mk hnodes' hnodes, hstmt⟩

/-- Branches are read back up to the closing brace. -/
theorem branches_readBack (hs : Ascii s) (root : Option Node) (branches : List Branch)
    (hts : ts.map lexemeOf = (branches.flatMap Branch.pieces).map Piece.lexeme) (hp : Placed s ts)
    (hu : u.text = "\x7d") (fin : Nat) (rest : List Token) :
    ∃ nodes, List.Forall₂ (ShowsBranch (Program.load s root)) branches nodes ∧
      (statements fin (ts ++ u :: rest)).Gives nodes (u :: rest) := by
  induction branches generalizing ts with
  | nil =>
      obtain rfl := List.map_eq_nil_iff.mp hts
      exact ⟨[], .nil, statements_stop hu⟩
  | cons b branches ih =>
      rw [List.flatMap_cons, List.map_append] at hts
      obtain ⟨us, vs, rfl, hus, hvs⟩ := List.map_eq_append_iff.mp hts
      obtain ⟨t, us, rfl, ht, -⟩ := List.map_eq_cons_iff.mp hus
      have htext : t.text = b.label.keyword := congrArg Lexeme.text ht
      -- The body of a branch ends at the label of the next one, or at the brace.
      obtain ⟨w, more, hnext, hw⟩ : ∃ w more, vs ++ u :: rest = w :: more ∧ w.text ∈ branchEnds := by
        cases branches with
        | nil =>
            obtain rfl := List.map_eq_nil_iff.mp hvs
            exact ⟨u, rest, rfl, hu ▸ by decide⟩
        | cons b' branches =>
            obtain ⟨w, vs, rfl, hw, -⟩ := List.map_eq_cons_iff.mp hvs
            have hwtext : w.text = b'.label.keyword := congrArg Lexeme.text hw
            exact ⟨w, _, rfl, hwtext ▸ b'.label.keyword_mem.1⟩
      obtain ⟨node, hnode, hread⟩ := b.readBack hs root hus hp.left hw fin more
      obtain ⟨nodes, hnodes, hreads⟩ := ih hvs hp.right
      rw [← hnext] at hread
      rw [List.append_assoc, List.cons_append]
      exact ⟨_, .cons hnode hnodes, statements_gives (htext ▸ b.label.keyword_mem.2) hread hreads⟩

/-- The switch between the braces of the function. -/
theorem switch_readBack (hs : Ascii s) (root : Option Node) (branches : List Branch)
    (hts : (t :: ts).map lexemeOf = braced (word "switch" :: (parenthesized subject.lexemes ++
      braced ((branches.flatMap Branch.pieces).map Piece.lexeme)))) (hp : Placed s (t :: ts)) (fin : Nat) :
    ∃ node, (ShowsSwitch (Program.load s root) branches node ∧ t.text = "\x7b") ∧
      (compound fin t ts).Gives node [] := by
  have hinside : ∀ (vs : List Token) (c : Token) (rest : List Token),
      vs.map lexemeOf = word "switch" :: (parenthesized subject.lexemes ++
        braced ((branches.flatMap Branch.pieces).map Piece.lexeme)) → Placed s vs → c.text = "\x7d" →
      ∃ nodes, (∀ a b, ShowsSwitch (Program.load s root) branches (spanning .compoundStatement a b nodes)) ∧
        (statements fin (vs ++ c :: rest)).Gives nodes (c :: rest) := by
    intro vs c rest hvs hplaced hc
    obtain ⟨w, vs, rfl, hw, hvs⟩ := List.map_eq_cons_iff.mp hvs
    obtain ⟨xs, ys, rfl, hxs, hys⟩ := List.map_eq_append_iff.mp hvs
    obtain ⟨z, ys, rfl, -, -⟩ := List.map_eq_cons_iff.mp hys
    have hwtext : w.text = "switch" := congrArg Lexeme.text hw
    obtain ⟨cond, hcond, hreadc⟩ := condition_readBack hs root hxs hplaced.tail.left fin (z :: (ys ++ c :: rest))
    obtain ⟨nodes, a', b', hnodes, hz, hreadb⟩ := compound_readBack
      (fun ts u more hts hp hu => branches_readBack hs root branches hts hp hu fin more) hys hplaced.tail.right
      (c :: rest)
    have hbody := body_gives (by rw [hz]; decide) (statement_compound hz hreadb)
    have hkind : conditionedKind w = some .switchStatement := by simp [conditionedKind, hwtext]
    have hstmt := statement_conditioned hkind (conditioned_gives hreadc hbody (elseClause_none (by simp)))
    rw [keyworded_eq hwtext (by decide)] at hstmt
    rw [List.cons_append, List.append_assoc, List.cons_append]
    exact ⟨_, fun a b => .mk hcond hnodes, statements_gives (by rw [hwtext]; decide) hstmt (statements_stop hc)⟩
  obtain ⟨nodes, a, b, hnodes, htext, hread⟩ := compound_readBack hinside hts hp []
  rw [List.append_nil] at hread
  exact ⟨_, ⟨hnodes a b, htext⟩, hread⟩

/-- A declaration of a parameter by a word for its type and a name. -/
def parameterNode (type x : Token) : Node :=
  spanning .parameterDeclaration type.start x.stop [leafOf .primitiveType type, leafOf .identifier x]

theorem parameters_gives {type x close : Token} (htype : lexemeOf type = word "int") (hx : lexemeOf x = word "x")
    (hclose : close.text = ")") (rest : List Token) :
    parameters none (type :: x :: close :: rest) = ([parameterNode type x], close :: rest) := by
  have htypeText : type.text = "int" := congrArg Lexeme.text htype
  have htypeWord : type.cls = .word := congrArg Lexeme.cls htype
  have hxText : x.text = "x" := congrArg Lexeme.text hx
  have hxWord : x.cls = .word := congrArg Lexeme.cls hx
  simp [parameters, htypeText, hxText, hclose, Parameter.starting, Parameter.add, Token.isWord, htypeWord, hxWord,
    Token.isTypeWord, typeWords, Parameter.node, parameterNode, lastStop, leafOf, Node.stop]

/-- A written switch has one definition, named `f`, whose block shows the branches. -/
theorem parse_switch (branches : List Branch) :
    ∃ (t name opening type x close : Token) (block : Node),
      parse (encode (switchSource branches)) = .ok (spanning .unit 0 (encode (switchSource branches)).length
        [definitionNode t name opening close [parameterNode type x] block]) ∧
      Placed (switchSource branches) [t, name, opening, type, x, close] ∧ name.text = "f" ∧
      ∀ root, ShowsSwitch (Program.load (switchSource branches) root) branches block := by
  have hlegible := switch_legible branches
  have hascii : Ascii (switchSource branches) := hlegible.ascii
  have hplaced := tokenize_placed hascii
  have hlexemes : (tokenize (encode (switchSource branches))).map lexemeOf =
      word "int" :: word "f" :: mark "(" :: word "int" :: word "x" :: mark ")" ::
        braced (word "switch" :: (parenthesized subject.lexemes ++
          braced ((branches.flatMap Branch.pieces).map Piece.lexeme))) := by
    rw [switchSource, hlegible.map_tokenize]
    simp [switchPieces, braced, parenthesized, subject, Expr.lexemes]
  obtain ⟨t, ts, htokens, ht, hts⟩ := List.map_eq_cons_iff.mp hlexemes
  obtain ⟨name, ts, rfl, hname, hts⟩ := List.map_eq_cons_iff.mp hts
  obtain ⟨opening, ts, rfl, hopening, hts⟩ := List.map_eq_cons_iff.mp hts
  obtain ⟨type, ts, rfl, htype, hts⟩ := List.map_eq_cons_iff.mp hts
  obtain ⟨x, ts, rfl, hx, hts⟩ := List.map_eq_cons_iff.mp hts
  obtain ⟨close, ts, rfl, hclose, hts⟩ := List.map_eq_cons_iff.mp hts
  obtain ⟨brace, inside, rfl, -, -⟩ := List.map_eq_cons_iff.mp hts
  rw [htokens] at hplaced
  have hblock : Placed (switchSource branches) (brace :: inside) := hplaced.tail.tail.tail.tail.tail.tail
  obtain ⟨block, hread, hshows⟩ := gives_forall fun root =>
    switch_readBack hascii root branches hts hblock (encode (switchSource branches)).length
  have hcloseText : close.text = ")" := congrArg Lexeme.text hclose
  have hxText : x.text = "x" := congrArg Lexeme.text hx
  have htypeText : type.text = "int" := congrArg Lexeme.text htype
  have hclosing : afterClosing 1 (type :: x :: close :: brace :: inside) = brace :: inside := by
    simp [afterClosing, htypeText, hxText, hcloseText]
  have hparse := parse_definition htokens ht hname hopening (parameters_gives htype hx hcloseText _) hclosing
    (hshows none).2 hread
  exact ⟨t, name, opening, type, x, close, block, hparse, hplaced.sublist (by simp), congrArg Lexeme.text hname,
    fun root => (hshows root).1⟩

end EsqlAudit.Grammar.Structured
