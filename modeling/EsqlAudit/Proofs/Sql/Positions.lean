import EsqlAudit.Proofs.Sql.DeclareSection

/-!
# Positions of blocks

A declare section points into the program, any other block into the program with its declare sections opened.
Up to the first section the two texts agree, and from there on no block of the second points into the first.
-/

namespace EsqlAudit.Sql
open Text Pattern

variable {s : List Char} {b : Block}

theorem section_pointsInto (hb : b ∈ (openSections s).blocks) : b.PointsInto s := by
  obtain ⟨o, _, rfl⟩ := List.mem_map.mp hb
  exact ⟨rfl, lineIn_lineStarts s o.span.start⟩

/-! ## Up to the first section -/

theorem openSections_text_of_nil (h : (openSections s).blocks = []) : (openSections s).text = s := by
  have hnone : sectionPattern.findAll s = [] := List.map_eq_nil_iff.mp h
  simp only [openSections, hnone]
  rfl

/-- Where the first section stands, and what is put in its place. -/
theorem first_section {bs : List Block} (h : (openSections s).blocks = b :: bs) :
    ∃ u x d r, s = u ++ x ∧ b.start = u.length ∧ (∃ e z, x = e ++ z ∧ Spells "EXEC" e) ∧
      (openSections s).text = u ++ (openSection d ++ r) := by
  obtain ⟨o, os, hfound, rfl, _⟩ := List.map_eq_cons_iff.mp h
  obtain ⟨u, w, t, hs, _, hat, hspan⟩ := (scans_findAll sectionPattern s).mem (o := o) (by simp [hfound])
  rw [List.nil_append] at hat hspan
  have htext : ∃ r, (openSections s).text = u ++ (openSection (o.groupText s 1) ++ r) := by
    simp only [openSections, hfound, List.map_cons, splice, hspan]
    generalize openSection (o.groupText s 1) = new
    generalize os.map (fun o => (o.span, openSection (o.groupText s 1))) = edits
    rw [hs]
    exact ⟨_, spliceFrom_cons [] u w t new edits⟩
  obtain ⟨r, hr⟩ := htext
  exact ⟨u, w ++ t, o.groupText s 1, r, hs, by simp [hspan], sectionPattern_startsExec _ _ _ hat, hr⟩

/-- A block that ends where two texts still agree points into both. -/
theorem Block.PointsInto.of_agree {u x y : List Char} (h : b.PointsInto (u ++ x)) (hlt : b.start < b.stop)
    (hstop : b.stop ≤ u.length) : b.PointsInto (u ++ y) := by
  obtain ⟨hcontent, hline⟩ := h
  have hstart : b.start ≤ u.length := by omega
  constructor
  · rw [← hcontent, slice, slice, List.drop_append_of_le_length hstart, List.drop_append_of_le_length hstart,
      List.take_append_of_le_length (by simp; omega), List.take_append_of_le_length (by simp; omega)]
  · rw [hline, lineAt, lineAt, List.take_append_of_le_length hstart, List.take_append_of_le_length hstart]

/-- Texts that a block points into agree wherever the block stands. -/
theorem Block.PointsInto.getElem?_eq {t : List Char} (hs : b.PointsInto s) (ht : b.PointsInto t) {i : Nat}
    (hstart : b.start ≤ i) (hstop : i < b.stop) : s[i]? = t[i]? := by
  have hslice : slice s b.start b.stop = slice t b.start b.stop := hs.content.trans ht.content.symm
  have hi := congrArg (fun x => x[i - b.start]?) hslice
  simp only [slice, List.getElem?_take, List.getElem?_drop] at hi
  rw [if_pos (by omega), if_pos (by omega), show b.start + (i - b.start) = i by omega] at hi
  exact hi

/-- A block ends with a semicolon. -/
theorem statement_ends (hb : b ∈ (replaceStatements s).blocks) :
    b.start < b.stop ∧ ∃ u t, s = u ++ ';' :: t ∧ b.stop = u.length + 1 := by
  obtain ⟨o, ho, _, rfl⟩ := mem_statements.mp hb
  obtain ⟨u, h, g, c, t, rfl, _, _, _, rfl⟩ := found_statement ho
  refine ⟨?_, u ++ h ++ g ++ c, t, by simp, rfl⟩
  simp only [List.length_append]
  omega

theorem blocks_point_of_no_semicolon
    (h : ∀ b ∈ (openSections s).blocks.head?, ';' ∉ (openSections s).text.drop b.start)
    (hb : b ∈ (prepare s).blocks) : b.PointsInto s := by
  rcases List.mem_append.mp hb with hb | hb
  · exact section_pointsInto hb
  · have hpoints := statement_pointsInto hb
    cases hblocks : (openSections s).blocks with
    | nil => rwa [openSections_text_of_nil hblocks] at hpoints
    | cons b₀ bs =>
        obtain ⟨u, x, d, r, hs, hstart, _, htext⟩ := first_section hblocks
        have hsemi := h b₀ (by simp [hblocks])
        obtain ⟨hlt, v, t, hv, hstop⟩ := statement_ends hb
        have hle : b.stop ≤ u.length := by
          refine Nat.le_of_not_lt fun hgt => hsemi ?_
          rw [hstart, hv, List.drop_append_of_le_length (by omega)]
          simp
        rw [htext] at hpoints
        rw [hs]
        exact hpoints.of_agree hlt hle

/-! ## From the first section on -/

theorem getElem?_append_add (u x : List Char) (i : Nat) : (u ++ x)[u.length + i]? = x[i]? := by
  rw [List.getElem?_append_right (Nat.le_add_right _ _), Nat.add_sub_cancel_left]

theorem statement_starts {o : Occurrence} (ho : o ∈ (execPattern "SQL").findAll s) :
    ∃ c, s[o.span.start]? = some c ∧ caseKey c = 'e' := by
  obtain ⟨u, h, g, b, t, rfl, hh, _, _, rfl⟩ := found_statement ho
  obtain ⟨e, c, h', rfl, he, _⟩ := hh.starts
  obtain ⟨c₀, c₁, c₂, c₃, rfl, hkey, _⟩ := spells_exec he
  exact ⟨c₀, by simp, hkey⟩

/-- A statement found at the comment that opens a section is no mark. -/
theorem opening_not_mark {u y : List Char} {o : Occurrence}
    (ho : o ∈ (execPattern "SQL").findAll (u ++ (sqlHead ++ (openingWords ++ y))))
    (hstart : o.span.start = u.length) :
    isSectionMark (o.groupText (u ++ (sqlHead ++ (openingWords ++ y))) 1) = false := by
  obtain ⟨v, w, t, hv, _, hat, hspan⟩ := (scans_findAll _ _).mem ho
  rw [hspan] at hstart
  obtain ⟨rfl, hrest⟩ := List.append_inj hv (by simpa using hstart.symm)
  rw [List.nil_append, ← hrest] at hat
  obtain ⟨g, b, t, rfl, _, _, rfl⟩ := at?_openingWords hat
  have hgroup := slice_openingWords u g (b ++ ';' :: t)
  simp only [Occurrence.groupText, Occurrence.group?, List.lookup_cons_self, hgroup]
  exact (openingWords_kind g).1

/-- Where a semicolon follows the comment that opens a section, a statement runs over the start of the
comment, or it starts there and is no mark. -/
theorem opening_covered {u d r : List Char} (hsemi : ';' ∈ openSection d ++ r) :
    ∃ o ∈ (execPattern "SQL").findAll (u ++ (openSection d ++ r)),
      o.span.start < u.length ∧ u.length < o.span.stop ∨
        o.span.start = u.length + 3 ∧ u.length + 3 < o.span.stop ∧
          isSectionMark (o.groupText (u ++ (openSection d ++ r)) 1) = false := by
  obtain ⟨y, hopen⟩ : ∃ y, openSection d ++ r = commentStart ++ (sqlHead ++ (openingWords ++ y)) :=
    ⟨'\n' :: (d ++ (closingComment ++ r)), by simp [openSection_eq]⟩
  rw [hopen] at hsemi ⊢
  rw [← List.append_assoc]
  have hcomment : ';' ∉ commentStart := by decide
  have hhead : ';' ∉ sqlHead := by decide
  have hrest : ';' ∈ openingWords ++ y := by
    rcases List.mem_append.mp hsemi with h | h
    · exact absurd h hcomment
    · exact (List.mem_append.mp h).resolve_left hhead
  have hlen : (u ++ commentStart).length = u.length + 3 := by simp [commentStart]
  obtain ⟨o', ho'⟩ := at?_execPattern_complete (u := u ++ commentStart) sqlHead_head hrest
  have hlt : (u ++ commentStart).length < o'.span.stop := by
    obtain ⟨g, b, t, _, _, _, rfl⟩ := at?_openingWords ho'
    simp only [List.length_append]
    omega
  obtain ⟨o, ho, hle, hcover⟩ := (scans_findAll (execPattern "SQL") _).covers (v := u ++ commentStart)
    (x := sqlHead ++ (openingWords ++ y)) rfl (by simpa using ho') hlt
  rw [List.nil_append, hlen] at hle hcover
  refine ⟨o, ho, ?_⟩
  obtain ⟨c, hc, hkey⟩ := statement_starts ho
  by_cases hbefore : o.span.start < u.length
  · exact Or.inl ⟨hbefore, by omega⟩
  · -- None of the characters before the head starts a statement.
    obtain ⟨i, hi⟩ : ∃ i, o.span.start = u.length + i := ⟨o.span.start - u.length, by omega⟩
    have hstart : i = 3 := by
      rw [hi, List.append_assoc, getElem?_append_add] at hc
      match i, hc with
      | 0, hc => cases hc; exact absurd hkey (by decide)
      | 1, hc => cases hc; exact absurd hkey (by decide)
      | 2, hc => cases hc; exact absurd hkey (by decide)
      | 3, _ => rfl
      | i + 4, _ => omega
    subst hstart
    exact Or.inr ⟨hi, hcover, opening_not_mark ho (by omega)⟩

/-- In the text with opened sections, an unpaired mark of a section runs into the section at position `a`. -/
def StrayMark (text : List Char) (a : Nat) : Prop :=
  ∃ o ∈ (execPattern "SQL").findAll text, isSectionMark (o.groupText text 1) = true ∧
    o.span.start < a ∧ a < o.span.stop

/-- A semicolon after the start of the first section makes a block that does not point into the program. -/
theorem exists_not_pointsInto {b₀ : Block} {bs : List Block} (hblocks : (openSections s).blocks = b₀ :: bs)
    (hstray : ¬ StrayMark (openSections s).text b₀.start)
    (hsemi : ';' ∈ (openSections s).text.drop b₀.start) :
    ∃ b ∈ (replaceStatements (openSections s).text).blocks, ¬ b.PointsInto s := by
  obtain ⟨u, x, d, r, hs, hstart, ⟨e, z, rfl, he⟩, htext⟩ := first_section hblocks
  obtain ⟨c₀, c₁, c₂, c₃, rfl, hkey₀, _, _, hkey₃⟩ := spells_exec he
  rw [hstart, htext] at hstray hsemi
  rw [List.drop_left] at hsemi
  rw [htext]
  obtain ⟨o, ho, hcover⟩ := opening_covered (u := u) hsemi
  have hmark : isSectionMark (o.groupText (u ++ (openSection d ++ r)) 1) = false := by
    rcases hcover with ⟨hlt, hgt⟩ | ⟨_, _, hmark⟩
    · exact Bool.eq_false_iff.mpr fun hmark => hstray ⟨o, ho, hmark, hlt, hgt⟩
    · exact hmark
  have hb := mem_statements.mpr ⟨o, ho, hmark, rfl⟩
  refine ⟨_, hb, fun hpoints => ?_⟩
  have hagree := fun i => hpoints.getElem?_eq (statement_pointsInto hb) (i := i)
  rw [hs] at hagree
  rcases hcover with ⟨hlt, hgt⟩ | ⟨heq, hgt, _⟩
  · -- The program has a letter where the opened text has the slash of the comment.
    have hchar := hagree (u.length + 0) (Nat.le_of_lt hlt) hgt
    rw [getElem?_append_add, getElem?_append_add] at hchar
    have hslash : some c₀ = some '/' := hchar
    cases hslash
    exact absurd hkey₀ (by decide)
  · -- The head of the comment starts three characters later than the begin mark.
    have hchar := hagree (u.length + 3) (Nat.le_of_eq heq) hgt
    rw [getElem?_append_add, getElem?_append_add] at hchar
    have hletter : some c₃ = some 'E' := hchar
    cases hletter
    exact absurd hkey₃ (by decide)

/-- Sections point into the program, and statements into the program with its sections opened. All blocks
point into the program if no semicolon follows the start of the first section in the opened text, and, unless
an unpaired mark runs into that section, only then. -/
theorem blocks_pointInto_iff (s : List Char) :
    (∀ b ∈ (openSections s).blocks, b.PointsInto s) ∧
      (∀ b ∈ (replaceStatements (openSections s).text).blocks, b.PointsInto (openSections s).text) ∧
      ((∀ b ∈ (prepare s).blocks, b.PointsInto s) ∧
          (∀ b ∈ (openSections s).blocks.head?, ¬ StrayMark (openSections s).text b.start) ↔
        ∀ b ∈ (openSections s).blocks.head?, ';' ∉ (openSections s).text.drop b.start) := by
  refine ⟨fun b => section_pointsInto, fun b => statement_pointsInto, ?_, ?_⟩
  · rintro ⟨hall, hstray⟩ b₀ hb₀ hsemi
    obtain ⟨bs, hblocks⟩ := List.head?_eq_some_iff.mp hb₀
    obtain ⟨b, hb, hnot⟩ := exists_not_pointsInto hblocks (hstray b₀ hb₀) hsemi
    exact hnot (hall b (List.mem_append_right _ hb))
  · intro hsemi
    refine ⟨fun b => blocks_point_of_no_semicolon hsemi, ?_⟩
    rintro b₀ hb₀ ⟨o, ho, _, _, hover⟩
    -- The semicolon of the mark follows the start of the section.
    obtain ⟨u, h, g, c, t, htext, _, _, _, rfl⟩ := found_statement ho
    refine hsemi b₀ hb₀ ?_
    have hgt : b₀.start < (u ++ h ++ g ++ c).length + 1 := hover
    have hcut : (openSections s).text = (u ++ h ++ g ++ c) ++ ';' :: t := by simpa using htext
    rw [hcut, List.drop_append_of_le_length (by omega)]
    simp

/-- A statement after a section points three characters and two lines off. -/
theorem not_pointInto_after_section :
    ¬ ∀ b ∈ (prepare (withSection [] "int x;".toList "\nEXEC SQL COMMIT;".toList)).blocks,
      b.PointsInto (withSection [] "int x;".toList "\nEXEC SQL COMMIT;".toList) := by
  intro hall
  have hshifted : ∃ b ∈ (prepare (withSection [] "int x;".toList "\nEXEC SQL COMMIT;".toList)).blocks,
      slice (withSection [] "int x;".toList "\nEXEC SQL COMMIT;".toList) b.start b.stop ≠ b.content := by
    decide +kernel
  obtain ⟨b, hb, hne⟩ := hshifted
  exact hne (hall b hb).content

end EsqlAudit.Sql
