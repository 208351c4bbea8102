import EsqlAudit.Grammar.Unit
import EsqlAudit.Proofs.Grammar.Statements
import EsqlAudit.Proofs.Grammar.Tokens
import EsqlAudit.Proofs.Text.Splice

/-!
# Programs are read back

The grammar makes of a written structured program one function definition whose block shows the program. So the
shape of the block is that of the program and of no other.
-/

namespace EsqlAudit.Grammar.Structured
open Syntax Text Utf8

/-! ## What programs are written with -/

theorem Name.plain (x : Name) : (word x.text).Plain := by
  obtain ⟨c, cs, htext, hc, hcs, _⟩ := x.first
  exact .word htext hc hcs

theorem parenthesized_plain {ls : List Lexeme} (h : ∀ l ∈ ls, l.Plain) : ∀ l ∈ parenthesized ls, l.Plain := by
  rw [parenthesized, List.forall_mem_cons, List.forall_mem_append, List.forall_mem_singleton]
  exact ⟨.mark (by decide), h, .mark (by decide)⟩

theorem braced_plain {ls : List Lexeme} (h : ∀ l ∈ ls, l.Plain) : ∀ l ∈ braced ls, l.Plain := by
  rw [braced, List.forall_mem_cons, List.forall_mem_append, List.forall_mem_singleton]
  exact ⟨.mark (by decide), h, .mark (by decide)⟩

theorem enclosed_plain {ls : List Lexeme} (needed : Bool) (h : ∀ l ∈ ls, l.Plain) :
    ∀ l ∈ enclosed needed ls, l.Plain := by
  cases needed with
  | true => exact parenthesized_plain h
  | false => exact h

theorem Expr.plain (e : Expr) : ∀ l ∈ e.lexemes, l.Plain := by
  induction e with
  | name x => rw [Expr.lexemes, List.forall_mem_singleton]; exact x.plain
  | number n => rw [Expr.lexemes, List.forall_mem_singleton]; exact .number n.valid
  | op o l r ihl ihr =>
      have ho : o.text ∈ marks := List.mem_append_left _ (List.mem_map_of_mem o.valid)
      rw [Expr.lexemes, List.forall_mem_append, List.forall_mem_cons]
      exact ⟨enclosed_plain _ ihl, .mark ho, enclosed_plain _ ihr⟩

/-- A word of a statement. -/
theorem plain_keyword {s : String} (h : s.toList.head?.any startsWord = true)
    (hs : s.toList.tail.all isNameChar = true) : (word s).Plain := by
  cases hl : s.toList with
  | nil => simp [hl] at h
  | cons c cs =>
      rw [hl] at h hs
      exact .word hl (by simpa using h) (by simpa using hs)

mutual
theorem Stmt.plain : (st : Stmt) → ∀ l ∈ st.lexemes, l.Plain
  | .assign x e => by
      rw [Stmt.lexemes, List.forall_mem_cons, List.forall_mem_cons, List.forall_mem_append, List.forall_mem_singleton]
      exact ⟨x.plain, .mark (by decide), e.plain, .mark (by decide)⟩
  | .ret e => by
      rw [Stmt.lexemes, List.forall_mem_cons, List.forall_mem_append, List.forall_mem_singleton]
      exact ⟨plain_keyword (by decide) (by decide), e.plain, .mark (by decide)⟩
  | .empty => by
      rw [Stmt.lexemes, List.forall_mem_singleton]
      exact .mark (by decide)
  | .block body => braced_plain (Stmt.plainAll body)
  | .ifThen e body => by
      rw [Stmt.lexemes, List.forall_mem_cons, List.forall_mem_append]
      exact ⟨plain_keyword (by decide) (by decide), parenthesized_plain e.plain, braced_plain (Stmt.plainAll body)⟩
  | .ifElse e body other => by
      rw [Stmt.lexemes, List.forall_mem_cons, List.forall_mem_append, List.forall_mem_append, List.forall_mem_cons]
      exact ⟨plain_keyword (by decide) (by decide),
        ⟨parenthesized_plain e.plain, braced_plain (Stmt.plainAll body)⟩,
        plain_keyword (by decide) (by decide), braced_plain (Stmt.plainAll other)⟩
  | .whileLoop e body => by
      rw [Stmt.lexemes, List.forall_mem_cons, List.forall_mem_append]
      exact ⟨plain_keyword (by decide) (by decide), parenthesized_plain e.plain, braced_plain (Stmt.plainAll body)⟩
  | .doLoop body e => by
      rw [Stmt.lexemes, List.forall_mem_cons, List.forall_mem_append, List.forall_mem_cons, List.forall_mem_append,
        List.forall_mem_singleton]
      exact ⟨plain_keyword (by decide) (by decide), braced_plain (Stmt.plainAll body),
        plain_keyword (by decide) (by decide), parenthesized_plain e.plain, .mark (by decide)⟩
theorem Stmt.plainAll : (body : List Stmt) → ∀ l ∈ Stmt.lexemesAll body, l.Plain
  | [] => by simp [Stmt.lexemesAll]
  | st :: body => by
      rw [Stmt.lexemesAll, List.forall_mem_append]
      exact ⟨Stmt.plain st, Stmt.plainAll body⟩
end

theorem function_plain (body : List Stmt) : ∀ l ∈ functionLexemes body, l.Plain := by
  have hhead : ∀ l ∈ [word "int", word "f", mark "(", mark ")"], l.Plain := by
    simp only [List.forall_mem_cons, List.not_mem_nil, false_implies, implies_true, and_true]
    exact ⟨plain_keyword (by decide) (by decide), plain_keyword (by decide) (by decide), .mark (by decide),
      .mark (by decide)⟩
  rw [functionLexemes, List.forall_mem_append]
  exact ⟨hhead, braced_plain (Stmt.plainAll body)⟩

theorem marks_bounds : ∀ m ∈ marks, ∀ c ∈ m.toList, 32 ≤ c.toNat ∧ c.toNat < 128 := by decide

theorem Lexeme.Plain.bounds {l : Lexeme} (h : l.Plain) : ∀ c ∈ l.text.toList, 32 ≤ c.toNat ∧ c.toNat < 128 := by
  intro d hd
  cases h with
  | @word s c cs hs hc hcs =>
      rw [show (Structured.word s).text.toList = c :: cs from hs] at hd
      rcases List.mem_cons.mp hd with rfl | hd
      · have := startsWord_bounds hc
        omega
      · have := isNameChar_bounds (hcs d hd)
        omega
  | @number s hs =>
      simp only [isNumeral, Bool.and_eq_true, List.all_eq_true] at hs
      have := isDigit_bounds (hs.2 d hd)
      omega
  | mark hs => exact marks_bounds _ hs d hd

theorem written_bounds {ls : List Lexeme} (h : ∀ l ∈ ls, l.Plain) :
    ∀ c ∈ written ls, 32 ≤ c.toNat ∧ c.toNat < 128 := by
  induction ls with
  | nil => intro c hc; simp [written] at hc
  | cons l rest ih =>
      obtain ⟨hl, hrest⟩ := List.forall_mem_cons.mp h
      cases rest with
      | nil => simpa [written] using hl.bounds
      | cons l' rest =>
          rw [written_cons, List.forall_mem_append, List.forall_mem_cons]
          exact ⟨hl.bounds, by decide, ih hrest⟩

theorem written_ascii {ls : List Lexeme} (h : ∀ l ∈ ls, l.Plain) : Ascii (written ls) :=
  fun c hc => (written_bounds h c hc).2

/-! ## The tokens of a written program -/

/-- The bytes of a text without other letters are its characters. -/
theorem tokenize_encode {s : List Char} (hs : Ascii s) : tokenize (encode s) = tokensFrom 0 0 s := by
  have hback : (s.map byteOf).map (fun b => Char.ofNat b.toNat) = s := by
    rw [List.map_map]
    exact (List.map_congr_left fun c hc => ofNat_byteOf (hs c hc)).trans (List.map_id _)
  rw [tokenize, encode_ascii hs, hback]

theorem tokenize_written {ls : List Lexeme} (h : ∀ l ∈ ls, l.Plain) :
    tokenize (encode (written ls)) = tokensAt 0 ls := by
  rw [tokenize_encode (written_ascii h), tokensFrom_written 0 h]

theorem map_lexemeOf_tokensAt (pos : Nat) (ls : List Lexeme) : (tokensAt pos ls).map lexemeOf = ls := by
  induction ls generalizing pos with
  | nil => rfl
  | cons l rest ih => rw [tokensAt, List.map_cons, ih, lexemeOf]

/-- Every token has the text that it stands over. -/
theorem tokensFrom_slice (u : List Char) (skip : Nat) (s : List Char) :
    ∀ t ∈ tokensFrom u.length skip s, slice (u ++ s) t.start t.stop = t.text.toList := by
  induction s generalizing u skip with
  | nil => simp [tokensFrom]
  | cons c rest ih =>
      have hrest : ∀ skip, ∀ t ∈ tokensFrom (u.length + 1) skip rest,
          slice (u ++ c :: rest) t.start t.stop = t.text.toList := by
        intro skip
        have h := ih (u ++ [c]) skip
        rwa [List.length_append, List.append_assoc] at h
      cases skip with
      | succ skip => exact hrest skip
      | zero =>
          simp only [tokensFrom]
          split
          · rename_i n cls hscan
            rw [List.forall_mem_cons]
            exact ⟨by simp [slice], hrest (n - 1)⟩
          · rename_i n hscan
            exact hrest (n - 1)

theorem tokenize_placed {s : List Char} (hs : Ascii s) : Placed s (tokenize (encode s)) := by
  have hspaced := tokenize_spaced (encode s)
  refine ⟨hspaced.pairwise, fun t ht => ⟨(hspaced.mem ht).2.1, ?_⟩⟩
  rw [tokenize_encode hs] at ht
  exact tokensFrom_slice [] 0 s t ht

/-! ## The function -/

theorem definition?_gives {fin : Nat} {t name opening close brace : Token} {after inside more : List Token}
    {params : List Node} {block : Node} (hname : name.text ≠ "*")
    (hparams : parameters none after = (params, close :: brace :: inside))
    (hstart : startsDefinition t name opening after = true) (h : (compound fin brace inside).Gives block more) :
    ∃ found : Parsed Node (name :: opening :: after),
      definition? fin t (name :: opening :: after) = .ok (some found) ∧
        found.Gives (spanning .functionDefinition t.start block.stop
          [leafOf (typeKind t) t, declarator t name opening false params close.stop, block]) more := by
  obtain ⟨rfl, rfl⟩ := h
  have hstars : dropStars (name :: opening :: after) = name :: opening :: after := by simp [dropStars, hname]
  rw [definition?]
  split
  · rename_i name' opening' after' heq
    rw [hstars] at heq
    cases heq
    rw [if_pos hstart]
    split
    · rename_i params close' brace' inside' heq'
      rw [hparams] at heq'
      cases heq'
      have hstar : (name.text == "*") = false := beq_false_of_ne hname
      exact ⟨_, rfl, by simp [hstar], rfl⟩
    · rename_i hnot
      exact absurd hparams (hnot _ _ _ _)
  · rename_i hnot
    exact absurd hstars (hnot _ _ _)

/-- The definition of a function that returns an `int`. -/
def definitionNode (t name opening close : Token) (params : List Node) (block : Node) : Node :=
  spanning .functionDefinition t.start block.stop
    [leafOf .primitiveType t, declarator t name opening false params close.stop, block]

/-- A text that starts with a definition and ends with it. -/
theorem parse_definition {bytes : List UInt8} {t name opening close brace : Token} {after inside : List Token}
    {params : List Node} {block : Node} (htokens : tokenize bytes = t :: name :: opening :: after)
    (ht : lexemeOf t = word "int") (hname : lexemeOf name = word "f") (hopening : lexemeOf opening = mark "(")
    (hparams : parameters none after = (params, close :: brace :: inside))
    (hclosing : afterClosing 1 after = brace :: inside) (hbrace : brace.text = "\x7b")
    (h : (compound bytes.length brace inside).Gives block []) :
    parse bytes = .ok (spanning .unit 0 bytes.length [definitionNode t name opening close params block]) := by
  have htext : t.text = "int" := congrArg Lexeme.text ht
  have hword : t.cls = .word := congrArg Lexeme.cls ht
  have hnameText : name.text = "f" := congrArg Lexeme.text hname
  have hnameWord : name.cls = .word := congrArg Lexeme.cls hname
  have hopeningText : opening.text = "(" := congrArg Lexeme.text hopening
  have hstart : startsDefinition t name opening after = true := by
    simp [startsDefinition, Token.isWord, hword, hnameWord, hopeningText, hclosing, hbrace]
  have hkind : typeKind t = .primitiveType := by
    simp [typeKind, Token.isTypeWord, htext, typeWords]
  obtain ⟨⟨node, more, hmore⟩, hfound, rfl, rfl⟩ :=
    definition?_gives (by rw [hnameText]; decide) hparams hstart h
  have hnil : definitions bytes.length [] = .ok [] := by rw [definitions]
  rw [parse, htokens, definitions, hfound, hkind]
  simp only [hnil]
  rfl

/-- What is read is the same whatever it is compared with. -/
theorem gives_forall {α : Type} {ts rest : List Token} {read : Parsed α ts} {P : Option Node → α → Prop}
    (h : ∀ root, ∃ a, P root a ∧ read.Gives a rest) : ∃ a, read.Gives a rest ∧ ∀ root, P root a := by
  obtain ⟨a, -, rfl, hrest⟩ := h none
  refine ⟨read.value, ⟨rfl, hrest⟩, fun root => ?_⟩
  obtain ⟨_, hP, rfl, -⟩ := h root
  exact hP

theorem function_tokens (body : List Stmt) :
    ∃ t name opening close brace inside,
      tokensAt 0 (functionLexemes body) = t :: name :: opening :: close :: brace :: inside ∧
      lexemeOf t = word "int" ∧ lexemeOf name = word "f" ∧ lexemeOf opening = mark "(" ∧ lexemeOf close = mark ")" ∧
      (brace :: inside).map lexemeOf = braced (Stmt.lexemesAll body) :=
  ⟨_, _, _, _, _, _, rfl, rfl, rfl, rfl, rfl, map_lexemeOf_tokensAt _ (braced (Stmt.lexemesAll body))⟩

/-- A written function has one definition, named `f`, whose block shows the statements. -/
theorem parse_source (body : List Stmt) :
    ∃ (t name opening close : Token) (block : Node),
      parse (encode (source body)) =
        .ok (spanning .unit 0 (encode (source body)).length [definitionNode t name opening close [] block]) ∧
      Placed (source body) [t, name, opening, close] ∧ name.text = "f" ∧
      ∀ root, ShowsBlock (Program.load (source body) root) body block := by
  have hascii : Ascii (source body) := written_ascii (function_plain body)
  have hplaced := tokenize_placed hascii
  have htokens := tokenize_written (function_plain body)
  rw [← source] at htokens
  obtain ⟨t, name, opening, close, brace, inside, hts, ht, hname, hopening, hclose, hinside⟩ := function_tokens body
  rw [hts] at htokens
  rw [htokens] at hplaced
  obtain ⟨block, hread, hshows⟩ := gives_forall
    (P := fun root node => ShowsBlock (Program.load (source body) root) body node ∧ brace.text = "\x7b") fun root => by
      have h := (Stmt.readBackEach hascii root body).compound hinside
        hplaced.tail.tail.tail.tail (encode (source body)).length []
      rw [List.append_nil] at h
      simpa only [and_assoc] using h
  have hcloseText : close.text = ")" := congrArg Lexeme.text hclose
  have hparams : parameters none (close :: brace :: inside) = ([], close :: brace :: inside) := by
    simp [parameters, hcloseText]
  have hparse := parse_definition htokens ht hname hopening hparams (by simp [afterClosing, hcloseText])
    (hshows none).2 hread
  exact ⟨t, name, opening, close, block, hparse, hplaced.sublist (by simp), congrArg Lexeme.text hname,
    fun root => (hshows root).1⟩

/-- The tree of a written function has one definition, and the shape of its block is that of the statements and of no
others: levels, the side on which operators group, and the block that an `else` goes with are all kept. -/
theorem erase_parse_source (body : List Stmt) :
    ∃ root definition type declarator block,
      parse (encode (source body)) = .ok root ∧ root.children = [definition] ∧
      definition.kind = .functionDefinition ∧ definition.children = [type, declarator, block] ∧
      ∀ other, block.erase (Program.load (source body) (some root)) = parent .compoundStatement (Stmt.shapes other) ↔
        other = body := by
  obtain ⟨t, name, opening, close, block, hparse, -, -, hshows⟩ := parse_source body
  refine ⟨_, _, _, _, block, hparse, rfl, rfl, rfl, fun other => ?_⟩
  rw [(hshows _).erase]
  constructor
  · intro heq
    simp only [parent, Shape.mk.injEq, true_and] at heq
    exact (Stmt.shapes_injective body other heq).symm
  · rintro rfl
    rfl

end EsqlAudit.Grammar.Structured
