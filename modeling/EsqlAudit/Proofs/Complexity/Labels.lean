import EsqlAudit.Proofs.Complexity.Structured
import EsqlAudit.Proofs.Grammar.Switch

/-!
# The complexity of switches

A function that switches on its parameter has one more than the number of its labels as its cyclomatic complexity, with
the logical operators behind the labels added. A `default` counts like a `case`.
-/

namespace EsqlAudit.Grammar.Structured
open Syntax Complexity Text Utf8

/-! ## Counting in a switch -/

def Simple.operators : Simple → List String
  | assign _ _ e => e.operators
  | leave => []

def Branch.operators (b : Branch) : List String := b.body.flatMap Simple.operators

def Branch.isCase (b : Branch) : Bool :=
  match b.label with
  | .value _ => true
  | .other => false

/-- The number of labels with a value. -/
def caseLabels (branches : List Branch) : Nat := branches.countP Branch.isCase

/-- The number of `default` labels. -/
def defaultLabels (branches : List Branch) : Nat := branches.countP fun b => !b.isCase

/-- How often an operator is used behind the labels. -/
def usesBehind (s : String) (branches : List Branch) : Nat := (branches.flatMap Branch.operators).count s

/-! ## The decisions of a tree that shows a switch -/

/-- The decisions of some branches, one for each. -/
def branchTally (branches : List Branch) : Decisions :=
  ⟨0, 0, branches.length, 0, usesBehind "&&" branches, usesBehind "||" branches⟩

variable {p : Program} {d : Decisions}

/-- Decisions that add up along a list. -/
theorem Decides.forall₂ {α : Type} {R : α → Node → Prop} {f : List α → Decisions} {as : List α} {nodes : List Node}
    (hnil : f [] = .none) (hcons : ∀ a as, f (a :: as) = f [a] + f as)
    (hR : ∀ a n, R a n → Decides p n.walk (f [a])) (h : List.Forall₂ R as nodes) :
    Decides p (Node.walkAll nodes) (f as) := by
  induction h with
  | nil => exact Decides.nil.congr hnil.symm
  | cons ha _ ih => exact (Decides.cons (hR _ _ ha) ih).congr (hcons _ _).symm

theorem ShowsFront.decides {c : Constant} {n : Node} (h : ShowsFront p c n) : Decides p n.walk .none := by
  cases h with
  | plain hn => exact hn.decides
  | negative hn => exact .plain (by decide) rfl (.cons (decides_signNode _) (.cons hn.decides .nil))

theorem ShowsSimple.decides {st : Simple} {n : Node} (h : ShowsSimple p st n) :
    Decides p n.walk (logicals st.operators) := by
  cases h with
  | assign htarget hvalue =>
      refine (Decides.plain (by decide) rfl (.cons (.plain (by decide) rfl (.cons htarget.decides
        (.cons (decides_signNode _) (.cons hvalue.decides .nil)))) .nil)).congr ?_
      simp [Simple.operators, Expr.operators, logicals_nil]
  | leave => exact .plain (by decide) rfl (.cons (decides_signNode _) .nil)

theorem ShowsLabel.decides {label : Label} {nodes more : List Node} (h : ShowsLabel p label nodes)
    (hmore : Decides p (Node.walkAll more) d) : Decides p (Node.walkAll (nodes ++ more)) d := by
  cases h with
  | value _ hfront => exact (Decides.cons hfront.decides hmore).congr d.none_add
  | ending _ hfront hname =>
      refine (Decides.cons hfront.decides (.cons (.plain (by decide) rfl (.cons hname.decides .nil))
        (.cons (.plain (by decide) rfl (.cons (.plain (by decide) rfl .nil) .nil)) hmore))).congr ?_
      simp [Expr.operators, logicals_nil]
  | other => exact hmore

/-- Whatever its label, a branch is one decision. -/
theorem ShowsBranch.decides {b : Branch} {n : Node} (h : ShowsBranch p b n) : Decides p n.walk (branchTally [b]) := by
  cases h with
  | @mk label body nodes nodes' _ _ _ _ hlabel hbody =>
      have hstatements : Decides p (Node.walkAll nodes') (logicals (body.flatMap Simple.operators)) := by
        refine Decides.forall₂ (f := fun body => logicals (body.flatMap Simple.operators)) logicals_nil ?_ ?_ hbody
        · intro st body
          simp [logicals_append]
        · intro st n hn
          exact hn.decides.congr (by simp)
      refine (Decides.parent (by decide) (.cons (decides_signNode _) (hlabel.decides hstatements))).congr ?_
      simp [branchTally, usesBehind, Branch.operators, logicals, Decisions.add_def, Decisions.add, Decisions.none]

theorem branchTally_cons (b : Branch) (branches : List Branch) :
    branchTally (b :: branches) = branchTally [b] + branchTally branches := by
  simp [branchTally, usesBehind, Decisions.add_def, Nat.add_comm]

theorem ShowsSwitch.decides {branches : List Branch} {n : Node} (h : ShowsSwitch p branches n) :
    Decides p n.walk (branchTally branches) := by
  cases h with
  | mk hcond hbranches =>
      have hlabels := Decides.forall₂ rfl branchTally_cons (fun _ _ => ShowsBranch.decides) hbranches
      refine (Decides.plain (by decide) rfl (.cons (.plain (by decide) rfl (.cons (decides_signNode _)
        (.cons hcond.decides (.cons (.plain (by decide) rfl hlabels) .nil)))) .nil)).congr ?_
      simp [subject, Expr.operators, logicals_nil]

/-! ## The function that is found -/

theorem parameterTexts_singleton {type x : Token} {name : String}
    (h : p.nodeText (leafOf .identifier x) = .ok name) :
    Function.parameterTexts p [parameterNode type x] = .ok [name] := by
  change [leafOf .identifier x].mapM p.nodeText = _
  rw [List.mapM_cons, h]
  rfl

theorem decides_parameterNode (type x : Token) : Decides p (Node.walkAll [parameterNode type x]) .none := by
  have hparts : Decides p (Node.walkAll [leafOf .primitiveType type, leafOf .identifier x]) .none :=
    (Decides.cons (.plain (by decide) rfl .nil) (.cons (.plain (by decide) rfl .nil) .nil)).congr (by simp)
  exact (Decides.cons (.plain (by decide) rfl hparts) .nil).congr (by simp)

/-- The one function of a written switch and what is decided in it. -/
theorem function_switch (branches : List Branch) :
    ∃ root f, parse (encode (switchSource branches)) = .ok root ∧
      Function.all (Program.load (switchSource branches) (some root)) = .ok [f] ∧ f.name = "f" ∧
      cyclomatic (Program.load (switchSource branches) (some root)) f = .ok (1 + (branchTally branches).total) ∧
      decisions (Program.load (switchSource branches) (some root)) f = .ok (branchTally branches) := by
  obtain ⟨t, name, opening, type, x, close, block, hparse, hplaced, hname, hshows⟩ := parse_switch branches
  have hascii : Ascii (switchSource branches) := (switch_legible branches).ascii
  have hhead : Placed (switchSource branches) [t, name] := hplaced.sublist (by simp)
  have hparameter : Placed (switchSource branches) [x] := hplaced.sublist (by simp)
  obtain ⟨f, n, hall, hfname, hnode, hkind, hinside⟩ :=
    all_definitionNode hascii (switch_legible branches).line rfl hhead
    hname (parameterTexts_singleton (hparameter.nodeText hascii _ rfl rfl)) (decides_parameterNode type x)
    (hshows _).decides
  obtain ⟨hdecisions, hcyclomatic⟩ := hinside.definition hkind
  exact ⟨_, f, hparse, hall, hfname, (cyclomatic_eq hnode).trans hcyclomatic, (decisions_eq hnode).trans hdecisions⟩

theorem length_eq_labels (branches : List Branch) : branches.length = caseLabels branches + defaultLabels branches := by
  rw [caseLabels, defaultLabels, List.length_eq_countP_add_countP Branch.isCase]
  simp

/-- Every label is a decision, `default` as well as `case`: the complexity is one more than the number of both with the
logical operators behind them. So it is one more than the number of cases only where nothing else decides. -/
theorem measureCyclomatic_switch (branches : List Branch) :
    ∃ root f total, parse (encode (switchSource branches)) = .ok root ∧
      Function.all (Program.load (switchSource branches) (some root)) = .ok [f] ∧ f.name = "f" ∧
      ((Session.start (Program.load (switchSource branches) (some root))).measureCyclomatic f).1 = .ok total ∧
      ((Session.start (Program.load (switchSource branches) (some root))).explainCyclomatic f).1 =
        .ok (⟨0, 0, caseLabels branches + defaultLabels branches, 0, usesBehind "&&" branches,
          usesBehind "||" branches⟩, total) ∧
      total = 1 + caseLabels branches + defaultLabels branches + usesBehind "&&" branches + usesBehind "||" branches ∧
      (total = caseLabels branches + 1 ↔
        defaultLabels branches = 0 ∧ usesBehind "&&" branches = 0 ∧ usesBehind "||" branches = 0) := by
  obtain ⟨root, f, hparse, hall, hname, hcyclomatic, hdecisions⟩ := function_switch branches
  have hexplain := explainCyclomatic_start hcyclomatic hdecisions
  simp only [branchTally, Decisions.total, length_eq_labels] at hcyclomatic hexplain
  refine ⟨root, f, _, hparse, hall, hname, measureCyclomatic_start hcyclomatic, hexplain, ?_, ?_⟩ <;> omega

/-- One branch with a value and one without. -/
def caseAndDefault : List Branch :=
  let set (digits : Numeral) : Simple := .assign ⟨"y", by decide⟩ ⟨"=", by decide⟩ (.number digits)
  [⟨.value ⟨false, ⟨"1", by decide⟩, none⟩, [set ⟨"2", by decide⟩]⟩, ⟨.other, [set ⟨"3", by decide⟩]⟩]

/-- A `default` beside one case makes a complexity of three. -/
theorem default_counted :
    ∃ s root f, s = "int f(int x) \x7b switch (x) \x7b case 1: y = 2; default: y = 3; \x7d \x7d".toList ∧
      parse (encode s) = .ok root ∧ Function.all (Program.load s (some root)) = .ok [f] ∧ f.name = "f" ∧
      ((Session.start (Program.load s (some root))).measureCyclomatic f).1 = .ok 3 := by
  obtain ⟨root, f, hparse, hall, hname, hcyclomatic, -⟩ := function_switch caseAndDefault
  have htotal : 1 + (branchTally caseAndDefault).total = 3 := by decide
  rw [htotal] at hcyclomatic
  exact ⟨switchSource caseAndDefault, root, f, by decide, hparse, hall, hname, measureCyclomatic_start hcyclomatic⟩

end EsqlAudit.Grammar.Structured
