import EsqlAudit.Proofs.Grammar.Definitions
import EsqlAudit.Proofs.Grammar.Marks

/-!
# Trees with their operators

Statements, parameters and definitions are made of marks, names and expressions, so every node of the tree of a text has
its operator.
-/

namespace EsqlAudit.Grammar
open Syntax

variable {fin : Nat} {all ts rest : List Token} {t : Token} {k : Kind} {nodes : List Node}

theorem forall_mem_none {α : Type} {P : α → Prop} : ∀ a ∈ (none : Option α), P a := by
  intro a ha
  cases ha

theorem forall_mem_toList {P : Node → Prop} {o : Option Node} (h : ∀ n ∈ o, P n) : ∀ n ∈ o.toList, P n :=
  fun n hn => h n (Option.mem_toList.mp hn)

/-! ## Parts of statements -/

theorem allMarked_keyworded (hk : isOperated k = false) (ht : t.IsPlain) (h : ∀ n ∈ nodes, AllMarked all n) :
    AllMarked all (keyworded k t nodes) :=
  allMarked_spanning hk (List.forall_mem_cons.mpr ⟨allMarked_markNode ht, h⟩)

theorem condition_marked (hl : Lexed fin all) (h : ts <:+ all) : ∀ n ∈ (condition fin ts).value, AllMarked all n := by
  cases ts with
  | nil => exact forall_mem_none
  | cons t rest =>
      rw [condition]
      split
      · rintro n ⟨⟩
        exact (expression_fine hl rest (suffix_all_of_cons h)).marked
      · exact forall_mem_none

theorem repeatCondition_marked (hl : Lexed fin all) (h : ts <:+ all) :
    ∀ n ∈ (repeatCondition fin ts).value, AllMarked all n := by
  cases ts with
  | nil => exact forall_mem_none
  | cons t rest =>
      rw [repeatCondition]
      split
      · exact condition_marked hl (suffix_all_of_cons h)
      · exact forall_mem_none

theorem declarators_marked (hl : Lexed fin all) (ts : List Token) (h : ts <:+ all) :
    ∀ n ∈ (declarators fin ts).value, AllMarked all n := by
  fun_induction declarators fin ts with
  | case1 => exact List.forall_mem_nil _
  | case2 => exact List.forall_mem_nil _
  | case3 t rest _ _ value after hafter hvalue _ nodes more _ hnodes ih =>
      have hrest := suffix_all_of_cons h
      have hassigned := (assignment_fine hl rest hrest).marked
      have hmore := ih ((suffix_of_tail hafter).trans hrest)
      rw [hvalue] at hassigned
      rw [hnodes] at hmore
      exact List.forall_mem_cons.mpr ⟨hassigned, hmore⟩
  | case4 t rest _ _ nodes more _ hnodes ih =>
      have hmore := ih (suffix_all_of_cons h)
      rw [hnodes] at hmore
      dsimp only
      split
      · exact List.forall_mem_cons.mpr ⟨allMarked_leafOf rfl, hmore⟩
      · exact hmore

theorem gotoStatement_marked (ht : t.IsPlain) : AllMarked all (gotoStatement t rest).value := by
  cases rest with
  | nil => exact allMarked_keyworded rfl ht (List.forall_mem_nil _)
  | cons label after => exact allMarked_keyworded rfl ht (List.forall_mem_singleton.mpr (allMarked_leafOf rfl))

theorem jumpLabel_marked : ∀ n ∈ (jumpLabel ts).value, AllMarked all n := by
  cases ts with
  | nil => exact List.forall_mem_nil _
  | cons t rest =>
      rw [jumpLabel]
      split
      · exact List.forall_mem_singleton.mpr (allMarked_leafOf rfl)
      · exact List.forall_mem_nil _

theorem jumpStatement_marked (hk : isOperated k = false) (ht : t.IsPlain) :
    AllMarked all (jumpStatement k t rest).value :=
  allMarked_spanning hk (List.forall_mem_cons.mpr ⟨allMarked_markNode ht, jumpLabel_marked⟩)

theorem returnValue_marked (hl : Lexed fin all) (h : ts <:+ all) :
    ∀ n ∈ (returnValue fin ts).value, AllMarked all n := by
  cases ts with
  | nil => exact List.forall_mem_nil _
  | cons t rest =>
      rw [returnValue]
      split
      · exact List.forall_mem_nil _
      · exact List.forall_mem_singleton.mpr (expression_fine hl (t :: rest) h).marked

theorem returnStatement_marked (hl : Lexed fin all) (ht : t.IsPlain) (h : rest <:+ all) :
    AllMarked all (returnStatement fin t rest).value :=
  allMarked_spanning rfl (List.forall_mem_cons.mpr ⟨allMarked_markNode ht, returnValue_marked hl h⟩)

theorem expressionStatement_marked (hl : Lexed fin all) (h : t :: rest <:+ all) :
    AllMarked all (expressionStatement fin t rest).value :=
  allMarked_spanning rfl (List.forall_mem_singleton.mpr (expression_fine hl (t :: rest) h).marked)

theorem typeKind_plain (t : Token) : isOperated (typeKind t) = false := by
  rcases typeKind_cases t with h | h <;> rw [h] <;> rfl

theorem declarationStatement_marked (hl : Lexed fin all) (h : rest <:+ all) :
    AllMarked all (declarationStatement fin t rest).value :=
  allMarked_spanning rfl
    (List.forall_mem_cons.mpr ⟨allMarked_leafOf (typeKind_plain t), declarators_marked hl rest h⟩)

theorem caseLabel_marked (hl : Lexed fin all) (h : rest <:+ all) :
    ∀ n ∈ (caseLabel fin t rest).value, AllMarked all n := by
  rw [caseLabel]
  split
  · exact List.forall_mem_singleton.mpr (assignment_fine hl rest h).marked
  · exact List.forall_mem_nil _

theorem conditionedKind_plain (h : conditionedKind t = some k) : isOperated k = false ∧ t.IsPlain := by
  rw [conditionedKind] at h
  split at h
  · rename_i htext
    cases h
    exact ⟨rfl, isPlain_of_beq (by decide) htext⟩
  split at h
  · rename_i htext
    cases h
    exact ⟨rfl, isPlain_of_beq (by decide) htext⟩
  split at h
  · rename_i htext
    cases h
    exact ⟨rfl, isPlain_of_beq (by decide) htext⟩
  split at h
  · rename_i htext
    cases h
    exact ⟨rfl, isPlain_of_beq (by decide) htext⟩
  · cases h

/-! ## Statements -/

mutual

theorem statement_marked (hl : Lexed fin all) (t : Token) (rest : List Token) (h : t :: rest <:+ all) :
    AllMarked all (statement fin t rest).value := by
  have hrest := suffix_all_of_cons h
  rw [statement]
  split
  · exact compound_marked hl t rest hrest
  split
  · exact allMarked_leafOf rfl
  split
  · rename_i k hk
    obtain ⟨hkind, ht⟩ := conditionedKind_plain hk
    exact conditioned_marked hl k t rest hkind ht hrest
  split
  · rename_i htext
    exact doStatement_marked hl t rest (isPlain_of_beq (by decide) htext) hrest
  split
  · rename_i htext
    have ht : t.text ∈ ["case", "default"] := by simpa using htext
    have hafter := (caseLabel fin t rest).suffix
    have hlength := hafter.length_le
    have hbody := caseBody_marked hl _ (hafter.trans hrest)
    exact allMarked_keyworded rfl (isPlain_of_mem (by decide) ht)
      (List.forall_mem_append.mpr ⟨caseLabel_marked hl hrest, hbody⟩)
  split
  · rename_i htext
    exact gotoStatement_marked (isPlain_of_beq (by decide) htext)
  split
  · rename_i htext
    exact jumpStatement_marked rfl (isPlain_of_beq (by decide) htext)
  split
  · rename_i htext
    exact jumpStatement_marked rfl (isPlain_of_beq (by decide) htext)
  split
  · rename_i htext
    exact returnStatement_marked hl (isPlain_of_beq (by decide) htext) hrest
  split
  · exact declarationStatement_marked hl hrest
  · exact expressionStatement_marked hl h
termination_by 10 * rest.length + 10

theorem body_marked (hl : Lexed fin all) (ts : List Token) (h : ts <:+ all) :
    ∀ n ∈ (body fin ts).value, AllMarked all n := by
  match ts with
  | [] =>
      rw [body]
      exact forall_mem_none
  | t :: rest =>
      rw [body]
      dsimp only
      split
      · exact forall_mem_none
      · rintro n ⟨⟩
        exact statement_marked hl t rest h
termination_by 10 * ts.length + 1

theorem conditioned_marked (hl : Lexed fin all) (k : Kind) (t : Token) (rest : List Token)
    (hk : isOperated k = false) (ht : t.IsPlain) (h : rest <:+ all) :
    AllMarked all (conditioned fin k t rest).value := by
  have hcond := condition_marked hl h
  have hafterCond := (condition fin rest).suffix
  have hcondLength := hafterCond.length_le
  have hinner := body_marked hl _ (hafterCond.trans h)
  have hafterBody := (body fin (condition fin rest).rest).suffix
  have hbodyLength := hafterBody.length_le
  have hother := elseClause_marked hl k _ (hafterBody.trans (hafterCond.trans h))
  rw [conditioned]
  refine allMarked_keyworded hk ht (List.forall_mem_append.mpr ⟨?_, forall_mem_toList hother⟩)
  exact List.forall_mem_append.mpr ⟨forall_mem_toList hcond, forall_mem_toList hinner⟩
termination_by 10 * rest.length + 5

theorem elseClause_marked (hl : Lexed fin all) (k : Kind) (ts : List Token) (h : ts <:+ all) :
    ∀ n ∈ (elseClause fin k ts).value, AllMarked all n := by
  match ts with
  | [] =>
      rw [elseClause]
      exact forall_mem_none
  | t :: rest =>
      have hinner := body_marked hl rest (suffix_all_of_cons h)
      rw [elseClause]
      dsimp only
      split
      · rename_i htext
        rintro n ⟨⟩
        have ht := ((Bool.and_eq_true _ _).mp htext).2
        exact allMarked_keyworded rfl (isPlain_of_beq (by decide) ht) (forall_mem_toList hinner)
      · exact forall_mem_none
termination_by 10 * ts.length + 1

theorem doStatement_marked (hl : Lexed fin all) (t : Token) (rest : List Token) (ht : t.IsPlain) (h : rest <:+ all) :
    AllMarked all (doStatement fin t rest).value := by
  have hinner := body_marked hl rest h
  have hcond := repeatCondition_marked hl ((body fin rest).suffix.trans h)
  rw [doStatement]
  exact allMarked_keyworded rfl ht
    (List.forall_mem_append.mpr ⟨forall_mem_toList hinner, forall_mem_toList hcond⟩)
termination_by 10 * rest.length + 5

theorem compound_marked (hl : Lexed fin all) (t : Token) (rest : List Token) (h : rest <:+ all) :
    AllMarked all (compound fin t rest).value := by
  have hnodes := statements_marked hl rest h
  rw [compound]
  split
  · rename_i nodes _ heq
    rw [heq] at hnodes
    exact allMarked_spanning rfl hnodes
  · rename_i nodes c more _ heq
    rw [heq] at hnodes
    exact allMarked_spanning rfl hnodes
termination_by 10 * rest.length + 5

theorem statements_marked (hl : Lexed fin all) (ts : List Token) (h : ts <:+ all) :
    ∀ n ∈ (statements fin ts).value, AllMarked all n := by
  match ts with
  | [] =>
      rw [statements]
      exact List.forall_mem_nil _
  | t :: rest =>
      rw [statements]
      dsimp only
      split
      · exact List.forall_mem_nil _
      · have hafter := (statement fin t rest).suffix
        have hlength := hafter.length_le
        have hmore := statements_marked hl _ (hafter.trans (suffix_all_of_cons h))
        exact List.forall_mem_cons.mpr ⟨statement_marked hl t rest h, hmore⟩
termination_by 10 * ts.length + 2

theorem caseBody_marked (hl : Lexed fin all) (ts : List Token) (h : ts <:+ all) :
    ∀ n ∈ (caseBody fin ts).value, AllMarked all n := by
  match ts with
  | [] =>
      rw [caseBody]
      exact List.forall_mem_nil _
  | t :: rest =>
      rw [caseBody]
      dsimp only
      split
      · exact List.forall_mem_nil _
      · have hafter := (statement fin t rest).suffix
        have hlength := hafter.length_le
        have hmore := caseBody_marked hl _ (hafter.trans (suffix_all_of_cons h))
        exact List.forall_mem_cons.mpr ⟨statement_marked hl t rest h, hmore⟩
termination_by 10 * ts.length + 2

end

/-! ## Definitions -/

theorem Parameter.add_marked {p : Parameter} (t : Token) (h : ∀ n ∈ p.parts, AllMarked all n) :
    ∀ n ∈ (p.add t).parts, AllMarked all n := by
  have hname : AllMarked all (leafOf .identifier t) := allMarked_leafOf rfl
  rw [Parameter.add]
  split
  · exact h
  refine List.forall_mem_append.mpr ⟨forall_mem_toList ?_, h⟩
  split
  · exact forall_mem_none
  split
  · rintro n ⟨⟩
    exact allMarked_leafOf rfl
  split
  · rintro n ⟨⟩
    exact allMarked_spanning rfl (List.forall_mem_singleton.mpr hname)
  · rintro n ⟨⟩
    exact hname

theorem Parameter.node_marked {p : Parameter} (h : ∀ n ∈ p.parts, AllMarked all n) : AllMarked all p.node :=
  allMarked_spanning rfl fun n hn => h n (List.mem_reverse.mp hn)

/-- The parts of the parameter that has been started keep their operators from token to token. -/
theorem parameters_marked {started : Option Parameter} (ts : List Token)
    (h : ∀ p ∈ started, ∀ n ∈ p.parts, AllMarked all n) : ∀ n ∈ (parameters started ts).1, AllMarked all n := by
  have node {started : Option Parameter} (h : ∀ p ∈ started, ∀ n ∈ p.parts, AllMarked all n) :
      ∀ n ∈ (started.map Parameter.node).toList, AllMarked all n := by
    cases started with
    | none => exact List.forall_mem_nil _
    | some p => exact List.forall_mem_singleton.mpr (Parameter.node_marked (h p rfl))
  have next {started : Option Parameter} (t : Token) (h : ∀ p ∈ started, ∀ n ∈ p.parts, AllMarked all n) :
      ∀ n ∈ (started.getD (.starting t)).parts, AllMarked all n := by
    cases started with
    | none => exact List.forall_mem_nil _
    | some p => exact h p rfl
  induction ts generalizing started with
  | nil => exact node h
  | cons t rest ih =>
      rw [parameters]
      split
      · exact node h
      split
      · exact List.forall_mem_cons.mpr ⟨Parameter.node_marked (next t h), ih forall_mem_none⟩
      · apply ih
        rintro p ⟨⟩
        exact Parameter.add_marked t (next t h)

theorem declarator_marked (type name opening : Token) (stars : Bool) (stop : Nat) (h : ∀ n ∈ nodes, AllMarked all n) :
    AllMarked all (declarator type name opening stars nodes stop) := by
  have hinner : AllMarked all (spanning .functionDeclarator name.start stop
      [leafOf .identifier name, spanning .parameterList opening.start stop nodes]) :=
    allMarked_spanning rfl (forall_mem_two (allMarked_leafOf rfl) (allMarked_spanning rfl h))
  cases stars with
  | true => exact allMarked_spanning rfl (List.forall_mem_singleton.mpr hinner)
  | false => exact hinner

theorem definition?_marked (hl : Lexed fin all) (h : rest <:+ all) {d : Parsed Node rest}
    (hd : definition? fin t rest = .ok (some d)) : AllMarked all d.value := by
  rw [definition?] at hd
  split at hd
  · rename_i name opening after hstars
    split at hd
    · split at hd
      · rename_i params close brace inside hparams
        have hinside : inside <:+ rest := by
          have hafter := parameters_suffix none after
          have hall := dropStars_suffix rest
          rw [hparams] at hafter
          rw [hstars] at hall
          exact (suffix_of_rest close (List.suffix_cons brace inside)).trans
            (hafter.trans ((suffix_of_rest name (List.suffix_cons opening after)).trans hall))
        have hblock := compound_marked hl brace inside (hinside.trans h)
        have hnodes : ∀ n ∈ (parameters none after).1, AllMarked all n := parameters_marked after forall_mem_none
        rw [hparams] at hnodes
        cases hd
        exact allMarked_spanning rfl
          (forall_mem_three (allMarked_leafOf (typeKind_plain t)) (declarator_marked _ _ _ _ _ hnodes) hblock)
      · cases hd
    · cases hd
  · cases hd

theorem definitions_marked (hl : Lexed fin all) (h : ts <:+ all) {ds : List Node} (hds : definitions fin ts = .ok ds) :
    ∀ d ∈ ds, AllMarked all d := by
  fun_induction definitions fin ts generalizing ds with
  | case1 =>
      cases hds
      exact List.forall_mem_nil _
  | case2 t rest e herror => cases hds
  | case3 t rest hnone ih => exact ih (suffix_all_of_cons h) hds
  | case4 t rest node more hmore hsome _ ih =>
      have hrest := suffix_all_of_cons h
      obtain ⟨ds', hds', rfl⟩ := of_map_ok hds
      exact List.forall_mem_cons.mpr ⟨definition?_marked hl hrest hsome, ih (hmore.trans hrest) hds'⟩

/-- Every text has a tree, and every node of it that wants an operator has one of the tokens of the text for it. -/
theorem parse_marked (bytes : List UInt8) :
    ∃ root, parse bytes = .ok root ∧ AllMarked (tokenize bytes) root := by
  obtain ⟨ds, hds, -⟩ := definitions_spaced (tokenize_spaced bytes)
  refine ⟨spanning .unit 0 bytes.length ds, ?_, ?_⟩
  · rw [parse, hds]
    rfl
  · exact allMarked_spanning rfl (definitions_marked (tokenize_lexed bytes) List.suffix_rfl hds)

end EsqlAudit.Grammar
