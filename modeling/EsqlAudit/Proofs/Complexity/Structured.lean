import EsqlAudit.Proofs.Complexity.Cyclomatic
import EsqlAudit.Proofs.Grammar.RoundTrip
import EsqlAudit.Proofs.Text.Lines

/-!
# The complexity of structured programs

A structured program, written and read again, has one more than the number of its ifs, loops and logical operators as
its cyclomatic complexity, however they are nested.
-/

namespace EsqlAudit.Grammar.Structured
open Syntax Complexity Text Utf8

/-! ## Counting in a program -/

/-- The operators of an expression from left to right. -/
def Expr.operators : Expr → List String
  | name _ | number _ => []
  | op o l r => l.operators ++ o.text :: r.operators

mutual
/-- A statement and all statements in it. -/
def Stmt.parts : Stmt → List Stmt
  | assign x e => [.assign x e]
  | ret e => [.ret e]
  | empty => [.empty]
  | block body => .block body :: Stmt.partsAll body
  | ifThen cond body => .ifThen cond body :: Stmt.partsAll body
  | ifElse cond body other => .ifElse cond body other :: (Stmt.partsAll body ++ Stmt.partsAll other)
  | whileLoop cond body => .whileLoop cond body :: Stmt.partsAll body
  | doLoop body cond => .doLoop body cond :: Stmt.partsAll body
def Stmt.partsAll : List Stmt → List Stmt
  | [] => []
  | s :: rest => s.parts ++ Stmt.partsAll rest
end

/-- The operators of the expression in a statement, without those of the statements in it. -/
def Stmt.operators : Stmt → List String
  | assign _ e | ret e | ifThen e _ | ifElse e _ _ | whileLoop e _ | doLoop _ e => e.operators
  | empty | block _ => []

def Stmt.isIf : Stmt → Bool
  | ifThen .. | ifElse .. => true
  | _ => false

def Stmt.isWhile : Stmt → Bool
  | whileLoop .. => true
  | _ => false

def Stmt.isDo : Stmt → Bool
  | doLoop .. => true
  | _ => false

def ifs (body : List Stmt) : Nat := (Stmt.partsAll body).countP Stmt.isIf

def whiles (body : List Stmt) : Nat := (Stmt.partsAll body).countP Stmt.isWhile

def dos (body : List Stmt) : Nat := (Stmt.partsAll body).countP Stmt.isDo

/-- How often an operator is used. -/
def uses (s : String) (body : List Stmt) : Nat := ((Stmt.partsAll body).flatMap Stmt.operators).count s

/-! ## The decisions of a tree that shows a program -/

/-- The logical operators among some operators. -/
def logicals (ops : List String) : Decisions := ⟨0, 0, 0, 0, ops.count "&&", ops.count "||"⟩

/-- The decisions that statements make themselves. -/
def tally (sts : List Stmt) : Decisions :=
  ⟨sts.countP Stmt.isIf, sts.countP Stmt.isWhile + sts.countP Stmt.isDo, 0, 0,
    (sts.flatMap Stmt.operators).count "&&", (sts.flatMap Stmt.operators).count "||"⟩

theorem logicals_nil : logicals [] = .none := rfl

theorem logicals_append (as bs : List String) : logicals (as ++ bs) = logicals as + logicals bs := by
  simp [logicals, Decisions.add_def]

theorem logicals_cons (s : String) (rest : List String) : logicals (s :: rest) = logicals [s] + logicals rest :=
  logicals_append [s] rest

theorem tally_append (as bs : List Stmt) : tally (as ++ bs) = tally as + tally bs := by
  simp only [tally, Decisions.add_def, List.countP_append, List.flatMap_append, List.count_append, Decisions.mk.injEq,
    true_and, and_true]
  omega

/-- What a statement decides besides its expression. -/
def Stmt.own : Stmt → Decisions
  | ifThen .. | ifElse .. => Decisions.none.add .ifStatement none
  | whileLoop .. => Decisions.none.add .whileStatement none
  | doLoop .. => Decisions.none.add .doStatement none
  | assign .. | ret .. | empty | block .. => .none

theorem tally_nil : tally [] = .none := rfl

theorem tally_cons (st : Stmt) (rest : List Stmt) :
    tally (st :: rest) = st.own + (logicals st.operators + tally rest) := by
  have hone : tally [st] = st.own + logicals st.operators := by
    cases st <;> simp [tally, logicals, Decisions.add_def, Decisions.add, Decisions.none, Stmt.own, Stmt.isIf,
      Stmt.isWhile, Stmt.isDo]
  rw [← List.singleton_append, tally_append, hone, Decisions.add_assoc]

/-- The nodes make these decisions, and none of them is a function definition or a catch clause. -/
structure Decides (p : Program) (nodes : List Node) (d : Decisions) : Prop where
  decisions : decisionsIn p nodes = .ok d
  within : ∀ n ∈ nodes, n.kind ≠ .functionDefinition ∧ n.kind ≠ .catchClause

variable {p : Program} {k : Kind} {a b : Nat} {d d' : Decisions}

theorem Decides.congr {nodes : List Node} (h : Decides p nodes d) (heq : d = d') : Decides p nodes d' :=
  heq ▸ h

theorem Decides.nil : Decides p (Node.walkAll []) .none :=
  ⟨rfl, by simp [Node.walkAll]⟩

theorem Decides.cons {n : Node} {nodes : List Node} (h : Decides p n.walk d) (h' : Decides p (Node.walkAll nodes) d') :
    Decides p (Node.walkAll (n :: nodes)) (d + d') := by
  refine ⟨?_, ?_⟩
  · rw [Node.walkAll, decisionsIn_append, h.decisions, h'.decisions]
    rfl
  · rw [Node.walkAll, List.forall_mem_append]
    exact ⟨h.within, h'.within⟩

theorem Decides.mk_node {children : List Node} {named missing : Bool} {op : Option Logical}
    (hk : k ≠ .functionDefinition ∧ k ≠ .catchClause)
    (hop : logicalOperator p (.mk k a b children named missing) = .ok op) (h : Decides p (Node.walkAll children) d) :
    Decides p (Node.walk (.mk k a b children named missing)) (Decisions.none.add k op + d) := by
  refine ⟨?_, ?_⟩
  · rw [Node.walk, decisionsIn_cons, hop, h.decisions]
    rfl
  · rw [Node.walk, List.forall_mem_cons]
    exact ⟨hk, h.within⟩

/-- A node of a kind that is no operation. -/
theorem Decides.parent {children : List Node} (hk : k ∉ [.functionDefinition, .catchClause, .binaryExpression])
    (h : Decides p (Node.walkAll children) d) :
    Decides p (spanning k a b children).walk (Decisions.none.add k none + d) := by
  simp only [List.mem_cons, List.not_mem_nil, or_false, not_or] at hk
  exact .mk_node ⟨hk.1, hk.2.1⟩ (logicalOperator_eq_none hk.2.2) h

/-- A node of a kind that decides nothing. -/
theorem Decides.plain {children : List Node} (hk : k ∉ [.functionDefinition, .catchClause, .binaryExpression])
    (hown : Decisions.none.add k none = .none) (h : Decides p (Node.walkAll children) d) :
    Decides p (spanning k a b children).walk d :=
  (Decides.parent hk h).congr (by rw [hown, Decisions.none_add])

theorem decides_signNode (s : String) : Decides p (signNode s a b).walk .none :=
  .mk_node (by simp) (logicalOperator_eq_none (by simp [Node.kind])) .nil

theorem ofText?_eq_none {s : String} (h : s ∉ ["&&", "||"]) : Logical.ofText? s = none := by
  simp only [List.mem_cons, List.not_mem_nil, or_false, not_or] at h
  simp [Logical.ofText?, h]

theorem operatorAmong_skip {n : Node} {s : String} (hmark : isOperatorMark n.kind = false)
    (htext : p.nodeText n = .ok s) (hs : s ∉ ["&&", "||"]) (rest : List Node) :
    operatorAmong p (n :: rest) = operatorAmong p rest := by
  rw [operatorAmong, if_neg (by simp [hmark]), htext]
  split
  · rfl
  · simp only [ofText?_eq_none hs]

/-- An operand is not taken for the operator. -/
theorem Shows.operand {e : Expr} {n : Node} (h : Shows p e n) (rest : List Node) :
    operatorAmong p (n :: rest) = operatorAmong p rest := by
  cases h with
  | @name x a b htext => exact operatorAmong_skip rfl htext (x.not_mem _ (by decide)) rest
  | @number n a b htext => exact operatorAmong_skip rfl htext (n.not_mem _ (by decide)) rest
  | op hl _ hr => rfl
  | @parentheses o l r inner a b inside _ htext =>
      refine operatorAmong_skip rfl htext ?_ rest
      simp only [List.mem_cons, List.not_mem_nil, or_false, ← String.toList_inj, String.toList_ofList]
      rintro (h | h) <;> cases h

theorem logicalOperator_op {l r : Expr} {left right : Node} {o : Operator} {c e : Nat} (hl : Shows p l left)
    (htext : p.nodeText (signNode o.text c e) = .ok o.text) (hr : Shows p r right) :
    logicalOperator p (spanning .binaryExpression a b [left, signNode o.text c e, right]) =
      .ok (Logical.ofText? o.text) := by
  change operatorAmong p [left, signNode o.text c e, right] = _
  rw [hl.operand]
  by_cases hmark : isOperatorMark (signNode o.text c e).kind = true
  · rw [operatorAmong, if_pos hmark, htext]
    rfl
  · have hno : o.text ∉ ["&&", "||"] := by
      intro hmem
      simp only [List.mem_cons, List.not_mem_nil, or_false] at hmem
      rcases hmem with hmem | hmem <;> simp [isOperatorMark, signNode, Node.kind, hmem] at hmark
    rw [operatorAmong_skip (by simpa using hmark) htext hno, hr.operand, ofText?_eq_none hno]
    rfl

theorem own_operator (s : String) : Decisions.none.add .binaryExpression (Logical.ofText? s) = logicals [s] := by
  by_cases hand : s = "&&"
  · subst hand; rfl
  by_cases hor : s = "||"
  · subst hor; rfl
  rw [ofText?_eq_none (by simp [hand, hor])]
  simp [logicals, Decisions.add, Decisions.none, hand, hor]

theorem Shows.decides {e : Expr} {n : Node} (h : Shows p e n) : Decides p n.walk (logicals e.operators) := by
  induction h with
  | name _ => exact .plain (by decide) rfl .nil
  | number _ => exact .plain (by decide) rfl .nil
  | @op o l r left right a b c d hl htext hr ihl ihr =>
      have hop := logicalOperator_op (a := a) (b := b) hl htext hr
      refine (Decides.mk_node (by simp) hop (.cons ihl (.cons (decides_signNode o.text) (.cons ihr .nil)))).congr ?_
      rw [own_operator, Expr.operators, logicals_append, logicals_cons o.text r.operators]
      simp only [Decisions.add_def, Decisions.none, Decisions.mk.injEq]
      omega
  | parentheses _ _ ih => exact .plain (by decide) rfl (.cons ih .nil)

mutual
theorem ShowsStmt.decides {st : Stmt} {n : Node} (h : ShowsStmt p st n) : Decides p n.walk (tally st.parts) := by
  match h with
  | .assign htext he =>
      refine (Decides.plain (by decide) rfl (.cons (.plain (by decide) rfl (.cons (Shows.name htext).decides
        (.cons (decides_signNode _) (.cons he.decides .nil)))) .nil)).congr ?_
      simp [Stmt.parts, tally_cons, tally_nil, Stmt.own, Stmt.operators, Expr.operators, logicals_nil]
  | .ret he =>
      refine (Decides.plain (by decide) rfl (.cons (decides_signNode _) (.cons he.decides .nil))).congr ?_
      simp [Stmt.parts, tally_cons, tally_nil, Stmt.own, Stmt.operators]
  | .empty => exact .plain (by decide) rfl .nil
  | .block hb =>
      refine (ShowsBlock.decides hb).congr ?_
      simp [Stmt.parts, tally_cons, Stmt.own, Stmt.operators, logicals_nil]
  | .ifThen he hb =>
      refine (Decides.parent (by decide) (.cons (decides_signNode _) (.cons he.decides
        (.cons (ShowsBlock.decides hb) .nil)))).congr ?_
      simp [Stmt.parts, tally_cons, Stmt.own, Stmt.operators]
  | .ifElse he hb ho =>
      refine (Decides.parent (by decide) (.cons (decides_signNode _) (.cons he.decides (.cons (ShowsBlock.decides hb)
        (.cons (.plain (by decide) rfl (.cons (decides_signNode _) (.cons (ShowsBlock.decides ho) .nil)))
          .nil))))).congr ?_
      simp [Stmt.parts, tally_cons, tally_append, Stmt.own, Stmt.operators]
  | .whileLoop he hb =>
      refine (Decides.parent (by decide) (.cons (decides_signNode _) (.cons he.decides
        (.cons (ShowsBlock.decides hb) .nil)))).congr ?_
      simp [Stmt.parts, tally_cons, Stmt.own, Stmt.operators]
  | .doLoop hb he =>
      refine (Decides.parent (by decide) (.cons (decides_signNode _) (.cons (ShowsBlock.decides hb)
        (.cons he.decides .nil)))).congr ?_
      simp [Stmt.parts, tally_cons, Stmt.own, Stmt.operators, Decisions.add_comm (logicals _)]
theorem ShowsBlock.decides {body : List Stmt} {n : Node} (h : ShowsBlock p body n) :
    Decides p n.walk (tally (Stmt.partsAll body)) := by
  match h with
  | .mk hbody => exact .plain (by decide) rfl (ShowsEach.decides hbody)
theorem ShowsEach.decides {body : List Stmt} {nodes : List Node} (h : ShowsEach p body nodes) :
    Decides p (Node.walkAll nodes) (tally (Stmt.partsAll body)) := by
  match h with
  | .nil => exact .nil
  | .cons hs hrest =>
      rw [Stmt.partsAll, tally_append]
      exact .cons (ShowsStmt.decides hs) (ShowsEach.decides hrest)
end

/-! ## The function that is found -/

theorem source_line (body : List Stmt) : '\n' ∉ source body := by
  intro h
  have := written_bounds (function_plain body) _ h
  simp at this

/-- A function between `begin` and `end` takes more than one line. -/
theorem beginEnd_line {s : List Char} (h : '\n' ∉ s) : Function.beginEnd s = [] := by
  have hbody : Function.bodyOffset [s] = none := by
    rw [Function.bodyOffset]
    cases Function.beginOffset [s] with
    | none => rfl
    | some b => simp [Function.matchingEnd?, Function.endOffset]
  rw [Function.beginEnd, lines_eq_singleton h, Function.beginEndFrom]
  split
  · rfl
  · rw [hbody]
    rfl

theorem inTree_singleton {definition : Node} {f : Function} {start stop : Nat}
    (hroot : p.root = some (spanning .unit start stop [definition])) (hkind : definition.kind = .functionDefinition)
    (hwithin : ∀ n ∈ Node.walkAll definition.children, n.kind ≠ .functionDefinition)
    (hf : Function.ofDefinition p definition = .ok (some f)) : Function.inTree p = .ok [f] := by
  have hnodes : p.nodes.filter (·.kind == .functionDefinition) = [definition] := by
    have hrest : (Node.walkAll definition.children).filter (·.kind == .functionDefinition) = [] := by
      simpa [List.filter_eq_nil_iff] using hwithin
    have hwalk : p.nodes = spanning .unit start stop [definition] :: definition ::
        Node.walkAll definition.children := by
      rw [Program.nodes, hroot]
      cases definition with
      | mk k a b children named missing => simp [Node.walk, Node.walkAll, Node.children, spanning]
    rw [hwalk, List.filter_cons_of_neg (by simp [spanning, Node.kind]), List.filter_cons_of_pos (by simp [hkind]),
      hrest]
  rw [Function.inTree, hnodes, List.mapM_cons, hf]
  rfl

theorem ofDefinition_definitionNode {t name : Token} {params : List Node} {type : String} {names : List String}
    (opening close : Token) (block : Node) (htype : p.nodeText (leafOf .primitiveType t) = .ok type)
    (hname : p.nodeText (leafOf .identifier name) = .ok "f") (hparams : Function.parameterTexts p params = .ok names) :
    ∃ f : Function, Function.ofDefinition p (definitionNode t name opening close params block) = .ok (some f) ∧
      f.name = "f" ∧ f.node = some (definitionNode t name opening close params block) := by
  have hdeclarator : Function.declarator? (definitionNode t name opening close params block) =
      some (declarator t name opening false params close.stop) := rfl
  have hidentifier : Function.identifierIn p (declarator t name opening false params close.stop) = .ok (some "f") := by
    change (p.nodeText (leafOf .identifier name)).map some = _
    rw [hname]
    rfl
  have hnames : Function.parametersIn p (declarator t name opening false params close.stop) = .ok names := hparams
  have hreturn : Function.returnTypeIn p (definitionNode t name opening close params block) = .ok type := htype
  refine ⟨⟨"f", p.lineOf t.start, p.lineOf block.stop, some _, names, type⟩, ?_, rfl, rfl⟩
  rw [Function.ofDefinition, hdeclarator]
  simp only [hidentifier, hnames, hreturn]
  rfl

/-- The type and the declarator of the function decide nothing. -/
theorem decides_definitionNode {params : List Node} {block : Node} (t name opening close : Token)
    (hparams : Decides p (Node.walkAll params) .none) (h : Decides p block.walk d) :
    Decides p (Node.walkAll (definitionNode t name opening close params block).children) d := by
  have hdeclarator : Decides p (declarator t name opening false params close.stop).walk .none :=
    .plain (by decide) rfl (.cons (.plain (by decide) rfl .nil) (.cons (.plain (by decide) rfl hparams) .nil))
  exact (Decides.cons (.plain (by decide) rfl .nil) (.cons hdeclarator (.cons h .nil))).congr (by simp)

theorem Decides.definition {n : Node} (hk : n.kind = .functionDefinition) (h : Decides p (Node.walkAll n.children) d) :
    decisionsIn p n.walk = .ok d ∧ cyclomaticOf p n = .ok (1 + d.total) := by
  have hwalk : n.walk = n :: Node.walkAll n.children := by cases n; rfl
  have hdecisions : decisionsIn p n.walk = .ok d := by
    rw [hwalk, decisionsIn_cons, logicalOperator_eq_none (by simp [hk]), h.decisions, hk]
    exact congrArg Except.ok d.none_add
  have hcatch : n.walk.countP (·.kind == .catchClause) = 0 := by
    rw [hwalk, List.countP_eq_zero, List.forall_mem_cons]
    exact ⟨by simp [hk], fun m hm => by simp [(h.within m hm).2]⟩
  refine ⟨hdecisions, ?_⟩
  rw [cyclomaticOf_eq hdecisions, hcatch]
  rfl

/-- The one function of a line with one definition, and what is decided in it. -/
theorem all_definitionNode {s : List Char} (hs : Ascii s) (hline : '\n' ∉ s) {t name opening close : Token}
    {params : List Node} {block root : Node} {names : List String} {start stop : Nat}
    (hroot : root = spanning .unit start stop [definitionNode t name opening close params block])
    (hplaced : Placed s [t, name]) (hname : name.text = "f")
    (hnames : Function.parameterTexts (Program.load s (some root)) params = .ok names)
    (hparams : Decides (Program.load s (some root)) (Node.walkAll params) .none)
    (hblock : Decides (Program.load s (some root)) block.walk d) :
    ∃ f n, Function.all (Program.load s (some root)) = .ok [f] ∧ f.name = "f" ∧ f.node = some n ∧
      n.kind = .functionDefinition ∧ Decides (Program.load s (some root)) (Node.walkAll n.children) d := by
  have htype : (Program.load s (some root)).nodeText (leafOf .primitiveType t) = .ok t.text :=
    hplaced.nodeText hs _ rfl rfl
  have hidentifier : (Program.load s (some root)).nodeText (leafOf .identifier name) = .ok "f" := by
    rw [← hname]
    exact hplaced.tail.nodeText hs _ rfl rfl
  obtain ⟨f, hf, hfname, hfnode⟩ := ofDefinition_definitionNode opening close block htype hidentifier hnames
  have hinside := decides_definitionNode t name opening close hparams hblock
  have htree : Function.inTree (Program.load s (some root)) = .ok [f] :=
    inTree_singleton (congrArg some hroot) rfl (fun n hn => (hinside.within n hn).1) hf
  refine ⟨f, _, ?_, hfname, hfnode, rfl, hinside⟩
  rw [Function.all, htree]
  change Except.ok ([f] ++ (Function.beginEnd s).filter _) = _
  rw [beginEnd_line hline]
  rfl

/-- The one function of a written program and what is decided in it. -/
theorem function_source (body : List Stmt) :
    ∃ root f n, parse (encode (source body)) = .ok root ∧
      Function.all (Program.load (source body) (some root)) = .ok [f] ∧ f.name = "f" ∧ f.node = some n ∧
      n.kind = .functionDefinition ∧
      Decides (Program.load (source body) (some root)) (Node.walkAll n.children) (tally (Stmt.partsAll body)) := by
  obtain ⟨t, name, opening, close, block, hparse, hplaced, hname, hshows⟩ := parse_source body
  have hhead : Placed (source body) [t, name] := hplaced.sublist (by simp)
  obtain ⟨f, n, hfunction⟩ := all_definitionNode (written_ascii (function_plain body)) (source_line body) rfl hhead
    hname rfl .nil (hshows _).decides
  exact ⟨_, f, n, hparse, hfunction⟩

theorem measureCyclomatic_start {f : Function} {c : Nat} (h : cyclomatic p f = .ok c) :
    ((Session.start p).measureCyclomatic f).1 = .ok c := by
  rw [measureCyclomatic_eq, h]

theorem explainCyclomatic_start {f : Function} {c : Nat} (h : cyclomatic p f = .ok c) (hd : decisions p f = .ok d) :
    ((Session.start p).explainCyclomatic f).1 = .ok (d, c) := by
  rw [explainCyclomatic_eq, hd, h]
  rfl

/-- A program is measured as it was written: the function that is read is as complex as the ifs, loops and logical
operators of the program say, and the details list them. -/
theorem measureCyclomatic_source (body : List Stmt) :
    ∃ root f, parse (encode (source body)) = .ok root ∧
      Function.all (Program.load (source body) (some root)) = .ok [f] ∧ f.name = "f" ∧
      ((Session.start (Program.load (source body) (some root))).measureCyclomatic f).1 =
        .ok (1 + ifs body + whiles body + dos body + uses "&&" body + uses "||" body) ∧
      ((Session.start (Program.load (source body) (some root))).explainCyclomatic f).1 =
        .ok (⟨ifs body, whiles body + dos body, 0, 0, uses "&&" body, uses "||" body⟩,
          1 + ifs body + whiles body + dos body + uses "&&" body + uses "||" body) := by
  obtain ⟨root, f, n, hparse, hall, hname, hnode, hkind, hinside⟩ := function_source body
  obtain ⟨hdecisions, hcyclomatic⟩ := hinside.definition hkind
  have htotal : 1 + (tally (Stmt.partsAll body)).total =
      1 + ifs body + whiles body + dos body + uses "&&" body + uses "||" body := by
    simp only [tally, Decisions.total, ifs, whiles, dos, uses]
    omega
  rw [htotal] at hcyclomatic
  rw [← cyclomatic_eq hnode] at hcyclomatic
  rw [← decisions_eq hnode] at hdecisions
  exact ⟨root, f, hparse, hall, hname, measureCyclomatic_start hcyclomatic,
    explainCyclomatic_start hcyclomatic hdecisions⟩

end EsqlAudit.Grammar.Structured
