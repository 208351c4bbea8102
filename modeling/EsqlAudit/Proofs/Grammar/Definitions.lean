import EsqlAudit.Grammar.Unit
import EsqlAudit.Proofs.Grammar.Tokens

/-!
# Every text has a tree

Whatever bytes are given, the grammar never wants a token where the text has ended, and the tree is one unit
of function definitions in the order of the text.
-/

namespace EsqlAudit.Grammar
open Syntax

variable {fin lo : Nat} {t : Token} {rest ts : List Token}

/-! ## What the look-ahead is for -/

theorem afterClosing_singleton (depth : Nat) (t : Token) : afterClosing depth [t] = [] := by
  simp only [afterClosing]
  repeat' split
  all_goals rfl

/-- If something follows the parenthesis that closes `depth` open ones, then something follows the first
closing parenthesis too. -/
theorem parameters_leaves_two (started : Option Parameter) {depth : Nat}
    (h : afterClosing depth ts ≠ []) :
    ∃ close brace inside, (parameters started ts).2 = close :: brace :: inside := by
  induction ts generalizing started depth with
  | nil => simp [afterClosing] at h
  | cons t rest ih =>
      by_cases hclose : (t.text == ")") = true
      · -- the parameters end here; the look-ahead goes on at least to the next token
        cases rest with
        | nil => exact absurd (afterClosing_singleton depth t) h
        | cons brace inside => exact ⟨t, brace, inside, by simp only [parameters, hclose, if_true]⟩
      · have hnext : ∃ d, afterClosing d rest ≠ [] := by
          simp only [afterClosing, hclose] at h
          split at h
          · exact ⟨_, h⟩
          · exact ⟨_, h⟩
        obtain ⟨d, hd⟩ := hnext
        simp only [parameters, hclose]
        split
        · contradiction
        · split
          · exact ih none hd
          · exact ih _ hd

theorem startsDefinition_look {type name opening : Token}
    (h : startsDefinition type name opening ts = true) : afterClosing 1 ts ≠ [] := by
  intro hnil
  simp [startsDefinition, hnil] at h

/-! ## Definitions -/

/-- A function definition: a type, a declarator and a block. -/
def IsDefinition (d : Node) : Prop :=
  d.kind = .functionDefinition ∧
    ∃ type declarator block, d.children = [type, declarator, block] ∧
      (type.kind = .primitiveType ∨ type.kind = .typeIdentifier) ∧
      (declarator.kind = .functionDeclarator ∨ declarator.kind = .pointerDeclarator) ∧
      block.kind = .compoundStatement

theorem typeKind_cases (t : Token) : typeKind t = .primitiveType ∨ typeKind t = .typeIdentifier := by
  simp only [typeKind]
  split
  · exact .inl rfl
  · exact .inr rfl

theorem declarator_kind (type name opening : Token) (stars : Bool) (params : List Node) (stop : Nat) :
    (declarator type name opening stars params stop).kind = .functionDeclarator ∨
      (declarator type name opening stars params stop).kind = .pointerDeclarator := by
  cases stars with
  | true => exact .inr rfl
  | false => exact .inl rfl

/-- A block that starts at a token is not empty, it stops within the text, and what it leaves starts after it. -/
theorem compound_spaced {brace : Token} (hbrace : brace.start < brace.stop) (hfin : brace.stop ≤ fin)
    (h : Spaced Token.start Token.stop fin brace.stop ts) :
    (compound fin brace ts).value.kind = .compoundStatement ∧
      brace.start < (compound fin brace ts).value.stop ∧
      (compound fin brace ts).value.stop ≤ fin ∧
      Spaced Token.start Token.stop fin (compound fin brace ts).value.stop
        (compound fin brace ts).rest := by
  rw [compound]
  split
  · refine ⟨rfl, Nat.lt_succ_self _, ?_, .nil⟩
    change brace.start + 1 ≤ fin
    omega
  · rename_i nodes c more hmore _
    cases h.suffix hmore with
    | cons h₁ h₂ h₃ h₄ =>
        refine ⟨rfl, ?_, h₃, h₄⟩
        change brace.start < c.stop
        omega

/-- One step over the tokens: no token is missing, and a definition that is found lies between the
tokens before it and those it leaves. -/
theorem definition?_step (h : Spaced Token.start Token.stop fin lo (t :: rest)) :
    definition? fin t rest = .ok none ∨
      ∃ d : Parsed Node rest, definition? fin t rest = .ok (some d) ∧ IsDefinition d.value ∧
        lo ≤ d.value.start ∧ d.value.start < d.value.stop ∧ d.value.stop ≤ fin ∧
        Spaced Token.start Token.stop fin d.value.stop d.rest := by
  cases h with
  | cons h₁ h₂ h₃ h₄ =>
      rw [definition?]
      split
      · rename_i name opening after hstars
        split
        · rename_i hdef
          obtain ⟨close, brace, inside, htwo⟩ := parameters_leaves_two none (startsDefinition_look hdef)
          split
          · rename_i params close' brace' inside' hparams
            have hleft : close' :: brace' :: inside' <:+ rest := by
              have hafter := parameters_suffix none after
              have hall := dropStars_suffix rest
              rw [hparams] at hafter
              rw [hstars] at hall
              exact hafter.trans ((suffix_of_rest name (List.suffix_cons opening after)).trans hall)
            cases h₄.suffix hleft with
            | cons _ hclose _ hrest =>
                cases hrest with
                | cons hnext hbrace hfin hinside =>
                    obtain ⟨hkind, hstop, hwithin, hmore⟩ :=
                      compound_spaced hbrace hfin hinside
                    refine .inr ⟨_, rfl, ⟨rfl, _, _, _, rfl, typeKind_cases t, declarator_kind .., hkind⟩,
                      h₁, ?_, hwithin, hmore⟩
                    change t.start < (compound fin brace' inside').value.stop
                    omega
          · rename_i hnot
            exact absurd htwo fun htwo => hnot _ close brace inside (Prod.ext rfl htwo)
        · exact .inl rfl
      · exact .inl rfl

/-- The definitions in some tokens can all be read, and they stand in the order of the tokens. -/
theorem definitions_spaced (h : Spaced Token.start Token.stop fin lo ts) :
    ∃ ds, definitions fin ts = .ok ds ∧ (∀ d ∈ ds, IsDefinition d) ∧
      Spaced Node.start Node.stop fin lo ds := by
  fun_induction definitions fin ts generalizing lo with
  | case1 => exact ⟨[], rfl, by simp, .nil⟩
  | case2 t rest e herror =>
      rcases definition?_step h with hstep | ⟨_, hstep, _⟩
      · rw [herror] at hstep; cases hstep
      · rw [herror] at hstep; cases hstep
  | case3 t rest hnone ih => exact ih h.tail
  | case4 t rest node more hmore hsome _ ih =>
      rcases definition?_step h with hstep | ⟨d, hstep, hd, h₁, h₂, h₃, hspaced⟩
      · rw [hsome] at hstep; cases hstep
      · rw [hsome] at hstep
        cases hstep
        obtain ⟨ds, hds, hall, hrest⟩ := ih hspaced
        refine ⟨node :: ds, by rw [hds]; rfl, ?_, .cons h₁ h₂ h₃ hrest⟩
        intro e he
        rcases List.mem_cons.mp he with rfl | he
        · exact hd
        · exact hall e he

end EsqlAudit.Grammar
