import Mathlib.Data.List.Find
import EsqlAudit.Proofs.Grammar.Structured
import EsqlAudit.Text.Utf8

/-!
# The tokens of a written program

Lexemes written with a space between them are read back as tokens, one for each lexeme, each over its own text.
-/

namespace EsqlAudit.Grammar.Structured
open Text

/-! ## Characters -/

theorem isAlpha_bounds {c : Char} (h : c.isAlpha = true) :
    (65 ≤ c.toNat ∧ c.toNat ≤ 90) ∨ (97 ≤ c.toNat ∧ c.toNat ≤ 122) := by
  have hcase : c.isUpper = true ∨ c.isLower = true := Bool.or_eq_true_iff.mp h
  rcases hcase with hupper | hlower
  · have hbounds : 'A'.val ≤ c.val ∧ c.val ≤ 'Z'.val := of_decide_eq_true hupper
    exact .inl (by simpa [UInt32.le_iff_toNat_le] using hbounds)
  · have hbounds : 'a'.val ≤ c.val ∧ c.val ≤ 'z'.val := by simpa using Bool.and_eq_true_iff.mp hlower
    exact .inr (by simpa [UInt32.le_iff_toNat_le] using hbounds)

theorem isDigit_bounds {c : Char} (h : c.isDigit = true) : 48 ≤ c.toNat ∧ c.toNat ≤ 57 := by
  simp only [Char.isDigit, Bool.and_eq_true, decide_eq_true_eq, UInt32.le_iff_toNat_le, ge_iff_le] at h
  exact h

theorem startsWord_bounds {c : Char} (h : startsWord c = true) : 65 ≤ c.toNat ∧ c.toNat ≤ 122 := by
  simp only [startsWord, Bool.or_eq_true, beq_iff_eq] at h
  rcases h with h | rfl
  · have := isAlpha_bounds h
    omega
  · decide

theorem isNameChar_bounds {c : Char} (h : isNameChar c = true) : 48 ≤ c.toNat ∧ c.toNat ≤ 122 := by
  simp only [isNameChar, Char.isAlphanum, Bool.or_eq_true, beq_iff_eq] at h
  rcases h with (h | h) | rfl
  · have := isAlpha_bounds h
    omega
  · have := isDigit_bounds h
    omega
  · decide

theorem isWord_of_isNameChar {c : Char} (h : isNameChar c = true) : isWord c = true := by
  have hascii : c.toNat < 128 := by
    have := isNameChar_bounds h
    omega
  simpa [isWord, isAlphanumeric, hascii, isNameChar] using h

/-- No blank, no quote and no slash: nothing that a comment or a text in quotes starts with. -/
theorem not_special {c : Char} (h : 48 ≤ c.toNat ∧ c.toNat ≤ 122) :
    isBlank c = false ∧ c ≠ '/' ∧ c ≠ '"' ∧ c ≠ '\'' := by
  refine ⟨?_, ?_, ?_, ?_⟩
  · simp only [isBlank, blankRanges, inRanges]
    grind
  all_goals
    rintro rfl
    exact absurd h (by decide)

/-! ## Lexemes that are read back -/

/-- The marks that programs are written with. -/
def marks : List String :=
  binaryOperators.map (·.1) ++ ["=", ";", "(", ")", "\x7b", "\x7d"]

/-- A word, a whole number or a mark that programs are written with. -/
inductive Lexeme.Plain : Lexeme → Prop
  | word {s : String} {c : Char} {cs : List Char} : s.toList = c :: cs → startsWord c = true →
      (∀ d ∈ cs, isNameChar d = true) → Plain (word s)
  | number {s : String} : isNumeral s = true → Plain ⟨.number, s⟩
  | mark {s : String} : s ∈ marks → Plain (mark s)

/-- Nothing, or a space before what follows. -/
def Parted (rest : List Char) : Prop :=
  rest = [] ∨ ∃ more, rest = ' ' :: more

/-- The characters that a mark or the start of a comment may go on with. -/
def markChars : List Char := "<>=-+&|!*/%^".toList

/-- Whether a character after a token of the class may be a part of the token. -/
def goesOn : TokenClass → Char → Bool
  | .word, c => isWord c
  | .number, c => c.isDigit || c == '.'
  | .mark, c => markChars.contains c
  | .string, _ | .character, _ => false

/-- What follows a token of the class is not read as a part of it. -/
def Apart (cls : TokenClass) (rest : List Char) : Prop :=
  ∀ c ∈ rest.head?, goesOn cls c = false

theorem goesOn_space (cls : TokenClass) : goesOn cls ' ' = false := by
  cases cls <;> decide

theorem Parted.apart {rest : List Char} (h : Parted rest) (cls : TokenClass) : Apart cls rest := by
  rcases h with rfl | ⟨more, rfl⟩
  · nofun
  · rintro c ⟨⟩
    exact goesOn_space cls

theorem takeWhile_append_stop {p : Char → Bool} {cs rest : List Char} (hcs : ∀ c ∈ cs, p c = true)
    (hrest : ∀ c ∈ rest.head?, p c = false) : (cs ++ rest).takeWhile p = cs := by
  rw [List.takeWhile_append_of_pos hcs]
  cases rest with
  | nil => simp
  | cons c rest => simp [hrest c rfl]

theorem scan_word {c : Char} {cs rest : List Char} (hc : startsWord c = true)
    (hcs : ∀ d ∈ cs, isNameChar d = true) (hrest : Apart .word rest) :
    scan c (cs ++ rest) = (cs.length + 1, some .word) := by
  have hbounds := startsWord_bounds hc
  obtain ⟨hblank, hslash, hquote, hsingle⟩ := not_special (c := c) (by omega)
  have hdigit : c.isDigit = false := by
    rw [Bool.eq_false_iff]
    intro h
    have := isDigit_bounds h
    omega
  have hrun := takeWhile_append_stop (p := isWord) (fun d hd => isWord_of_isNameChar (hcs d hd)) hrest
  simp [scan, hblank, hslash.symm, hquote, hsingle, hdigit, hc, hrun]

theorem numberLength_digits {cs rest : List Char} (hcs : ∀ d ∈ cs, d.isDigit = true) (hrest : Apart .number rest) :
    numberLength (cs ++ rest) = cs.length := by
  have hstop : ∀ c ∈ rest.head?, c.isDigit = false ∧ c ≠ '.' := by
    intro c hc
    simpa [goesOn] using hrest c hc
  have hrun := takeWhile_append_stop hcs fun c hc => (hstop c hc).1
  simp only [numberLength, hrun, List.drop_left]
  split
  · exact absurd rfl (hstop '.' rfl).2
  · rfl

theorem scan_number {c : Char} {cs rest : List Char} (hcs : ∀ d ∈ c :: cs, d.isDigit = true)
    (hrest : Apart .number rest) : scan c (cs ++ rest) = (cs.length + 1, some .number) := by
  have hc := hcs c List.mem_cons_self
  have hbounds := isDigit_bounds hc
  obtain ⟨hblank, hslash, hquote, hsingle⟩ := not_special (c := c) (by omega)
  have hlength := numberLength_digits hcs hrest
  simp only [List.cons_append, List.length_cons] at hlength
  simp [scan, hblank, hslash.symm, hquote, hsingle, hc, hlength]

theorem isPrefixOf_append_stop {m rest : List Char} (hrest : ∀ c ∈ rest.head?, c ∉ m) (cs : List Char) :
    m.isPrefixOf (cs ++ rest) = m.isPrefixOf cs := by
  induction m generalizing cs with
  | nil => simp
  | cons a m ih =>
      cases cs with
      | nil =>
          cases rest with
          | nil => rfl
          | cons c rest =>
              have hne : c ≠ a := fun h => hrest c rfl (h ▸ List.mem_cons_self)
              simp [List.isPrefixOf, hne.symm]
      | cons c cs => simp [List.isPrefixOf, ih fun d hd hm => hrest d hd (List.mem_cons_of_mem a hm)]

theorem compoundMarks_chars : ∀ m ∈ compoundMarks, ∀ c ∈ m.toList, c ∈ markChars := by decide

/-- A text that is scanned as one mark, and that does not start like a comment, a quotation, a number or a word. -/
def isLoneMark (s : String) : Bool :=
  match s.toList with
  | [] => false
  | c :: cs =>
    !"/*".toList.isPrefixOf (c :: cs) && !"//".toList.isPrefixOf (c :: cs) && c != '"' && c != '\'' &&
      !c.isDigit && !startsWord c && scan c cs == (cs.length + 1, some .mark)

theorem marks_isLoneMark : ∀ s ∈ marks, isLoneMark s = true := by decide

theorem scan_mark {s : String} {rest : List Char} (hs : isLoneMark s = true) (hrest : Apart .mark rest) :
    ∃ c cs, s.toList = c :: cs ∧ scan c (cs ++ rest) = (cs.length + 1, some .mark) := by
  simp only [isLoneMark] at hs
  split at hs
  · cases hs
  · rename_i c cs htext
    simp only [Bool.and_eq_true, Bool.not_eq_true', bne_iff_ne, beq_iff_eq] at hs
    obtain ⟨⟨⟨⟨⟨⟨hblock, hline⟩, hquote⟩, hsingle⟩, hdigit⟩, hword⟩, hscan⟩ := hs
    have hstop : ∀ d ∈ rest.head?, d ∉ markChars := by
      intro d hd
      simpa [goesOn] using hrest d hd
    have hfront : ∀ m : List Char, (∀ d ∈ m, d ∈ markChars) →
        m.isPrefixOf (c :: (cs ++ rest)) = m.isPrefixOf (c :: cs) :=
      fun m hm => isPrefixOf_append_stop (fun d hd hmem => hstop d hd (hm d hmem)) (c :: cs)
    have hfind : (compoundMarks.find? fun m => m.toList.isPrefixOf (c :: (cs ++ rest))) =
        compoundMarks.find? fun m => m.toList.isPrefixOf (c :: cs) :=
      List.find?_congr fun m hm => hfront _ (compoundMarks_chars m hm)
    have hsame : scan c (cs ++ rest) = scan c cs := by
      simp only [scan, hfront "/*".toList (by decide), hfront "//".toList (by decide), hblock, hline,
        beq_false_of_ne hquote, beq_false_of_ne hsingle, hdigit, hword, hfind, Bool.false_and, Bool.or_self,
        Bool.false_eq_true, if_false]
    exact ⟨c, cs, htext, hsame.trans hscan⟩

/-- The text of the lexeme is scanned as one token of its class wherever it stands apart from what follows. -/
def Lexeme.Lone (l : Lexeme) : Prop :=
  ∀ rest, Apart l.cls rest →
    ∃ c cs, l.text.toList = c :: cs ∧ Grammar.scan c (cs ++ rest) = (cs.length + 1, some l.cls)

theorem Lexeme.Plain.lone {l : Lexeme} (h : l.Plain) : l.Lone := by
  intro rest hrest
  cases h with
  | word hs hc hcs => exact ⟨_, _, hs, scan_word hc hcs hrest⟩
  | @number s hs =>
      simp only [isNumeral, Bool.and_eq_true, Bool.not_eq_true', List.isEmpty_eq_false_iff,
        List.all_eq_true] at hs
      obtain ⟨c, cs, htext⟩ := List.exists_cons_of_ne_nil hs.1
      exact ⟨c, cs, htext, scan_number (htext ▸ hs.2) hrest⟩
  | mark hs => exact scan_mark (marks_isLoneMark _ hs) hrest

/-! ## Tokens -/

/-- The tokens of lexemes written from `pos` on with a space between them. -/
def tokensAt (pos : Nat) : List Lexeme → List Token
  | [] => []
  | l :: rest => ⟨l.cls, l.text, pos, pos + l.text.length⟩ :: tokensAt (pos + l.text.length + 1) rest

theorem tokensFrom_skip (pos : Nat) (u rest : List Char) :
    tokensFrom pos u.length (u ++ rest) = tokensFrom (pos + u.length) 0 rest := by
  induction u generalizing pos with
  | nil => rfl
  | cons c u ih =>
      simp only [List.length_cons, List.cons_append, tokensFrom, ih]
      congr 1
      omega

theorem Lexeme.Lone.tokensFrom {l : Lexeme} (h : l.Lone) (pos : Nat) {rest : List Char}
    (hrest : Apart l.cls rest) :
    Grammar.tokensFrom pos 0 (l.text.toList ++ rest) =
      ⟨l.cls, l.text, pos, pos + l.text.length⟩ :: Grammar.tokensFrom (pos + l.text.length) 0 rest := by
  obtain ⟨c, cs, htext, hscan⟩ := h rest hrest
  have hlength : l.text.length = cs.length + 1 := by rw [← String.length_toList, htext]; rfl
  have hwhole : (c :: (cs ++ rest)).take (cs.length + 1) = l.text.toList := by
    rw [htext, ← List.cons_append, ← List.length_cons (a := c), List.take_left]
  rw [htext, List.cons_append]
  simp only [Grammar.tokensFrom, hscan, hwhole, hlength, String.ofList_toList, Nat.add_sub_cancel,
    tokensFrom_skip]
  congr 2
  omega

theorem written_cons (l l' : Lexeme) (rest : List Lexeme) :
    written (l :: l' :: rest) = l.text.toList ++ ' ' :: written (l' :: rest) := by
  simp [written, List.intercalate]

theorem tokensFrom_written (pos : Nat) {ls : List Lexeme} (h : ∀ l ∈ ls, l.Plain) :
    tokensFrom pos 0 (written ls) = tokensAt pos ls := by
  induction ls generalizing pos with
  | nil => rfl
  | cons l rest ih =>
      have hl := h l List.mem_cons_self
      cases rest with
      | nil =>
          have hwritten : written [l] = l.text.toList ++ [] := by simp [written, List.intercalate]
          rw [hwritten, hl.lone.tokensFrom pos (Parted.apart (.inl rfl) _)]
          rfl
      | cons l' rest =>
          rw [written_cons, hl.lone.tokensFrom pos (Parted.apart (.inr ⟨_, rfl⟩) _), tokensAt]
          have hspace : ∀ n s, tokensFrom n 0 (' ' :: s) = tokensFrom (n + 1) 0 s := fun _ _ => rfl
          rw [hspace, ih _ fun m hm => h m (List.mem_cons_of_mem l hm)]

end EsqlAudit.Grammar.Structured
