import EsqlAudit.Proofs.Grammar.RoundTrip

/-!
# Texts with and without spaces

Lexemes are also read back when no space stands between some of them, as long as no lexeme can be taken for a part of
the one before it.
-/

namespace EsqlAudit.Grammar.Structured
open Syntax Text Utf8

/-! ## Pieces -/

/-- A lexeme and whether a space stands before it. -/
structure Piece where
  gap : Bool
  lexeme : Lexeme

def spaced (l : Lexeme) : Piece := ⟨true, l⟩

def tight (l : Lexeme) : Piece := ⟨false, l⟩

@[simp]
theorem lexeme_spaced (l : Lexeme) : (spaced l).lexeme = l := rfl

@[simp]
theorem lexeme_tight (l : Lexeme) : (tight l).lexeme = l := rfl

def Piece.text (p : Piece) : List Char :=
  if p.gap then ' ' :: p.lexeme.text.toList else p.lexeme.text.toList

/-- The text of pieces one behind the other. -/
def laid (ps : List Piece) : List Char := ps.flatMap Piece.text

theorem laid_cons (p : Piece) (ps : List Piece) : laid (p :: ps) = p.text ++ laid ps := List.flatMap_cons

theorem map_lexeme_spaced (ls : List Lexeme) : (ls.map spaced).map Piece.lexeme = ls := by
  induction ls with
  | nil => rfl
  | cons l ls ih => simp only [List.map_cons, ih, lexeme_spaced]

/-- The piece is not taken for a part of a token of the class before it. -/
def Piece.Follows (cls : TokenClass) (p : Piece) : Prop :=
  p.gap = true ∨ ∀ c ∈ p.lexeme.text.toList.head?, goesOn cls c = false

theorem spaced_follows (l : Lexeme) (cls : TokenClass) : (spaced l).Follows cls := .inl rfl

theorem follows_of_all {p : Piece} {cls : TokenClass}
    (h : (p.lexeme.text.toList.head?.all fun c => !goesOn cls c) = true) : p.Follows cls := by
  refine .inr fun c hc => ?_
  have hnot := (Option.all_eq_true _ _).mp h c hc
  simpa using hnot

/-- Marks that no token goes on with. -/
def closingMarks : List String := ["(", ")", ":", ";"]

theorem closing_follows {s : String} (hs : s ∈ closingMarks) (cls : TokenClass) : (tight (mark s)).Follows cls := by
  have hall : ∀ m ∈ closingMarks, (m.toList.head?.all fun c => !goesOn cls c) = true := by
    cases cls <;> decide
  exact follows_of_all (hall s hs)

/-- A lexeme in plain sight: it is one token, and its characters are neither control characters nor beyond ASCII. -/
structure Lexeme.Clear (l : Lexeme) : Prop where
  lone : l.Lone
  bounds : ∀ c ∈ l.text.toList, 32 ≤ c.toNat ∧ c.toNat < 128

theorem Lexeme.Plain.clear {l : Lexeme} (h : l.Plain) : l.Clear := ⟨h.lone, h.bounds⟩

/-- Pieces that are read one by one. -/
inductive Legible : List Piece → Prop
  | nil : Legible []
  | cons {p : Piece} {ps : List Piece} : p.lexeme.Clear → (∀ q ∈ ps.head?, q.Follows p.lexeme.cls) → Legible ps →
      Legible (p :: ps)

theorem legible_singleton {p : Piece} (h : p.lexeme.Clear) : Legible [p] := .cons h nofun .nil

theorem Legible.append {ps qs : List Piece} (h : Legible ps) (h' : Legible qs)
    (hfirst : ∀ q ∈ qs.head?, ∀ cls, q.Follows cls) : Legible (ps ++ qs) := by
  induction h with
  | nil => exact h'
  | @cons p ps hclear hnext _ ih =>
      refine .cons hclear ?_ ih
      cases ps with
      | nil => exact fun q hq => hfirst q hq _
      | cons q ps => exact hnext

theorem Legible.step {p q : Piece} {ps : List Piece} (hp : p.lexeme.Clear) (hq : q.Follows p.lexeme.cls)
    (h : Legible (q :: ps)) : Legible (p :: q :: ps) := by
  refine .cons hp ?_ h
  rintro _ ⟨⟩
  exact hq

/-- A space stands before the pieces. -/
def Gap (ps : List Piece) : Prop := ∀ p ∈ ps.head?, p.gap = true

theorem gap_nil : Gap [] := nofun

theorem gap_spaced (l : Lexeme) (ps : List Piece) : Gap (spaced l :: ps) := by
  rintro p ⟨⟩
  rfl

theorem Gap.append {ps qs : List Piece} (h : Gap ps) (h' : Gap qs) : Gap (ps ++ qs) := by
  cases ps with
  | nil => exact h'
  | cons p ps => exact h

theorem Gap.flatMap {α : Type} {f : α → List Piece} (h : ∀ a, Gap (f a)) (as : List α) : Gap (as.flatMap f) := by
  induction as with
  | nil => exact gap_nil
  | cons a as ih => exact (h a).append ih

theorem Gap.follows {ps : List Piece} (h : Gap ps) (cls : TokenClass) : ∀ p ∈ ps.head?, p.Follows cls :=
  fun p hp => .inl (h p hp)

theorem Legible.cons_gap {p : Piece} {ps : List Piece} (hp : p.lexeme.Clear) (h : Legible ps) (hgap : Gap ps) :
    Legible (p :: ps) :=
  .cons hp (hgap.follows _) h

theorem Legible.append_gap {ps qs : List Piece} (h : Legible ps) (h' : Legible qs) (hgap : Gap qs) :
    Legible (ps ++ qs) :=
  h.append h' fun q hq cls => hgap.follows cls q hq

theorem Legible.flatMap {α : Type} {f : α → List Piece} (h : ∀ a, Legible (f a)) (hgap : ∀ a, Gap (f a))
    (as : List α) : Legible (as.flatMap f) := by
  induction as with
  | nil => exact .nil
  | cons a as ih => exact (h a).append_gap ih (.flatMap hgap as)

theorem gap_map_spaced (ls : List Lexeme) : Gap (ls.map spaced) := by
  cases ls with
  | nil => exact gap_nil
  | cons l ls => exact gap_spaced l _

theorem legible_spaced {ls : List Lexeme} (h : ∀ l ∈ ls, l.Clear) : Legible (ls.map spaced) := by
  induction ls with
  | nil => exact .nil
  | cons l ls ih =>
      obtain ⟨hl, hls⟩ := List.forall_mem_cons.mp h
      exact (legible_singleton (p := spaced l) hl).append_gap (ih hls) (gap_map_spaced ls)

/-! ## The tokens of a text -/

theorem Lexeme.Lone.ne_nil {l : Lexeme} (h : l.Lone) : l.text.toList ≠ [] := by
  obtain ⟨c, cs, htext, -⟩ := h [] nofun
  simp [htext]

/-- What follows a piece does not go on with it. -/
theorem Legible.apart {ps : List Piece} {cls : TokenClass} (h : Legible ps)
    (hnext : ∀ q ∈ ps.head?, q.Follows cls) : Apart cls (laid ps) := by
  cases h with
  | nil => nofun
  | @cons p ps hclear _ _ =>
      intro c hc
      rw [laid_cons, Piece.text] at hc
      split at hc
      · obtain rfl : ' ' = c := by simpa using hc
        exact goesOn_space cls
      · rename_i hgap
        obtain ⟨d, cs, htext⟩ := List.exists_cons_of_ne_nil hclear.lone.ne_nil
        obtain rfl : d = c := by simpa [htext] using hc
        rcases hnext p rfl with hgap' | hfirst
        · exact absurd hgap' hgap
        · exact hfirst d (by rw [htext]; rfl)

theorem Legible.map_tokensFrom {ps : List Piece} (h : Legible ps) (pos : Nat) :
    (tokensFrom pos 0 (laid ps)).map lexemeOf = ps.map Piece.lexeme := by
  induction h generalizing pos with
  | nil => rfl
  | @cons p ps hclear hnext hps ih =>
      have hapart := hps.apart hnext
      have hspace : ∀ s, tokensFrom pos 0 (' ' :: s) = tokensFrom (pos + 1) 0 s := fun _ => rfl
      rw [laid_cons, Piece.text, List.map_cons]
      split
      · rw [List.cons_append, hspace, hclear.lone.tokensFrom _ hapart, List.map_cons, ih]
        rfl
      · rw [hclear.lone.tokensFrom _ hapart, List.map_cons, ih]
        rfl

theorem Legible.bounds {ps : List Piece} (h : Legible ps) : ∀ c ∈ laid ps, 32 ≤ c.toNat ∧ c.toNat < 128 := by
  induction h with
  | nil => intro c hc; simp [laid] at hc
  | @cons p ps hclear _ _ ih =>
      rw [laid_cons, Piece.text, List.forall_mem_append]
      refine ⟨?_, ih⟩
      split
      · rw [List.forall_mem_cons]
        exact ⟨by decide, hclear.bounds⟩
      · exact hclear.bounds

theorem Legible.ascii {ps : List Piece} (h : Legible ps) : Ascii (laid ps) :=
  fun c hc => (h.bounds c hc).2

theorem Legible.line {ps : List Piece} (h : Legible ps) : '\n' ∉ laid ps := by
  intro hmem
  have := h.bounds _ hmem
  simp at this

theorem Legible.map_tokenize {ps : List Piece} (h : Legible ps) :
    (tokenize (encode (laid ps))).map lexemeOf = ps.map Piece.lexeme := by
  rw [tokenize_encode h.ascii, h.map_tokensFrom]

end EsqlAudit.Grammar.Structured
