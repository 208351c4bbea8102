import EsqlAudit.Proofs.Sql.ExecFree
import EsqlAudit.Proofs.Sql.Statements

/-!
# One declare section

A program with a single declare section and no other `EXEC`. The comment that opens the section in the plain
text starts with `EXEC SQL` itself, so the pass over the statements takes it for a statement as soon as a
semicolon follows. The declarations are kept if and only if none does.
-/

namespace EsqlAudit.Sql
open Text Pattern

def sqlHead : List Char := "EXEC SQL ".toList

theorem sqlHead_head : ExecHead "SQL" sqlHead :=
  .mk (e := "EXEC".toList) (b := [' ']) (v := "SQL".toList) (c := [' ']) (by decide) (by decide) (by decide)
    (by decide) (by decide) (by decide)

def beginMark : List Char := "EXEC SQL BEGIN DECLARE SECTION;".toList

def endMark : List Char := "EXEC SQL END DECLARE SECTION;".toList

/-- The declarations `b` in a declare section, after `p` and before `q`. -/
def withSection (p b q : List Char) : List Char :=
  p ++ (beginMark ++ (b ++ (endMark ++ q)))

variable {p b q u : List Char}

/-! ## Finding the section -/

theorem beginMark_mark : SectionMark "BEGIN" beginMark :=
  .mk (v := "BEGIN".toList) (b := [' ']) (d := "DECLARE".toList) (c := [' ']) (s := "SECTION".toList) (f := [])
    sqlHead_head
    (by decide) (by decide) (by decide) (by decide) (by decide) (by decide) (by decide) (by decide)

theorem endMark_mark : SectionMark "END" endMark :=
  .mk (v := "END".toList) (b := [' ']) (d := "DECLARE".toList) (c := [' ']) (s := "SECTION".toList) (f := [])
    sqlHead_head
    (by decide) (by decide) (by decide) (by decide) (by decide) (by decide) (by decide) (by decide)

/-- A mark at the front of a text is what stands before its first semicolon. -/
theorem SectionMark.eq_of_append {k : String} {m m' t t' : List Char} (hm : SectionMark k m)
    (hm' : SectionMark k m') (hk : caseKey ';' ∉ k.toList.map caseKey) (h : m ++ t = m' ++ t') :
    m = m' ∧ t = t' := by
  obtain ⟨a, rfl, ha⟩ := hm.ends hk
  obtain ⟨a', rfl, ha'⟩ := hm'.ends hk
  obtain ⟨rfl, rfl⟩ := cut_unique ha ha' (by simpa using h)
  exact ⟨rfl, rfl⟩

theorem at?_section (hb : ExecFree b) (hq : ExecFree q) :
    sectionPattern.at? (.between u (beginMark ++ (b ++ (endMark ++ q)))) =
      some ⟨⟨u.length, (u ++ beginMark ++ b ++ endMark).length⟩,
        [(1, ⟨(u ++ beginMark).length, (u ++ beginMark ++ b).length⟩)]⟩ := by
  obtain ⟨o, ho⟩ := at?_sectionPattern_complete (u := u) (d := b) (t := q) beginMark_mark endMark_mark
  obtain ⟨m, d, m', t, hx, hm, hm', rfl⟩ := at?_sectionPattern ho
  obtain ⟨rfl, hrest⟩ := hm.eq_of_append beginMark_mark (by decide) hx.symm
  -- The end mark starts where the only `EXEC` stands, so the declarations are all that is before it.
  have hd : d = b := by
    obtain ⟨e, r, hm'e, he⟩ := hm'.starts
    rcases List.append_eq_append_iff.mp hrest with ⟨v, hv, hx'⟩ | ⟨v, hv, hx'⟩
    · cases v with
      | nil => simpa using hv.symm
      | cons c v =>
          have hfree : ExecFree (b ++ (endMark ++ q).take 3) := hb.append_exec
          have hstart : c :: v ++ (endMark ++ q) = e ++ (r ++ t) := by simpa [hm'e] using hx'.symm
          exact absurd he (hfree.not_starts hv (by simp) hstart)
    · cases v with
      | nil => simpa using hv
      | cons c v =>
          have hmark : ExecFree endMark.tail := by decide
          have hfree : ExecFree (endMark.tail ++ q) := hmark.append_of_getLast hq (by decide)
          have htail : endMark.tail ++ q = v ++ (m' ++ t) := congrArg List.tail hx'
          refine absurd he (hfree.not_spells ?_)
          exact ⟨v, r ++ t, by simp [htail, hm'e]⟩
  subst hd
  obtain ⟨rfl, rfl⟩ := hm'.eq_of_append endMark_mark (by decide) (List.append_cancel_left hrest)
  exact ho

/-- The section is the only one that is found. -/
theorem findAll_section (hp : ExecFree p) (hb : ExecFree b) (hq : ExecFree q) :
    sectionPattern.findAll (withSection p b q) =
      [⟨⟨p.length, (p ++ beginMark ++ b ++ endMark).length⟩,
        [(1, ⟨(p ++ beginMark).length, (p ++ beginMark ++ b).length⟩)]⟩] := by
  have hpass := findAllFrom_execFree (u := []) (w := p) (t := beginMark ++ (b ++ (endMark ++ q)))
    sectionPattern_startsExec hp.append_exec
  have hat := at?_section (u := p) hb hq
  have hsplit : beginMark ++ (b ++ (endMark ++ q)) = (beginMark ++ b ++ endMark) ++ q := by simp
  rw [hsplit] at hat
  have hne : beginMark ≠ [] := by decide
  have htake := findAllFrom_take hat (by simp [hne]) (by simp)
  have hrest := findAllFrom_execFree_nil (u := p ++ (beginMark ++ b ++ endMark)) sectionPattern_startsExec hq
  rw [hrest, ← hsplit] at htake
  exact hpass.trans htake

theorem openSections_section (hp : ExecFree p) (hb : ExecFree b) (hq : ExecFree q) :
    (openSections (withSection p b q)).blocks.map (·.kind) = [.declareSection] ∧
      (openSections (withSection p b q)).text = p ++ (openSection b ++ q) := by
  rw [openSections, findAll_section hp hb hq]
  refine ⟨rfl, ?_⟩
  have hsplit : withSection p b q = p ++ beginMark ++ (b ++ (endMark ++ q)) := by simp [withSection]
  have hcut : withSection p b q = p ++ ((beginMark ++ b ++ endMark) ++ q) := by simp [withSection]
  have hgroup : slice (withSection p b q) (p ++ beginMark).length (p ++ beginMark ++ b).length = b := by
    rw [hsplit, slice_append]
  have hspan : (p ++ beginMark ++ b ++ endMark).length = ([] ++ p ++ (beginMark ++ b ++ endMark)).length := by
    simp
  have hsplice := spliceFrom_cons [] p (beginMark ++ b ++ endMark) q (openSection b) []
  simp only [List.map_cons, List.map_nil, Occurrence.groupText, Occurrence.group?, List.lookup_cons_self,
    hgroup]
  rw [splice, hspan, hcut]
  exact hsplice

/-! ## The head that opening a section makes -/

theorem ExecHead.word_after {k : String} {h y z : List Char} (hh : ExecHead k h) {c : Char}
    (hc : isBlank c = false) (hx : h ++ z = ['E', 'X', 'E', 'C', ' '] ++ c :: y) :
    ∃ v b, h = ['E', 'X', 'E', 'C', ' '] ++ (v ++ b) ∧ Spells k v ∧ b ≠ [] ∧ Blanks b ∧
      v ++ (b ++ z) = c :: y := by
  cases hh with
  | @mk e b v b' he hne hb hv hne' hb' =>
      have hcut : e ++ (b ++ (v ++ (b' ++ z))) = ['E', 'X', 'E', 'C'] ++ ([' '] ++ c :: y) := by
        simpa using hx
      obtain ⟨rfl, hrest⟩ := List.append_inj hcut he.length_eq
      obtain rfl := hb.eq_singleton hne hc hrest
      exact ⟨v, b', by simp, hv, hne', hb', by simpa using hrest⟩

theorem ExecHead.eq_sqlHead {h y z : List Char} (hh : ExecHead "SQL" h) {c : Char}
    (hc : isBlank c = false) (hx : h ++ z = sqlHead ++ c :: y) : h = sqlHead ∧ z = c :: y := by
  have hhead : sqlHead = ['E', 'X', 'E', 'C', ' '] ++ ['S', 'Q', 'L', ' '] := rfl
  rw [hhead] at hx ⊢
  obtain ⟨v, b, rfl, hv, hne, hb, hword⟩ := hh.word_after (by decide) hx
  have hcut : v ++ (b ++ z) = ['S', 'Q', 'L'] ++ ([' '] ++ c :: y) := hword
  obtain ⟨rfl, hrest⟩ := List.append_inj hcut hv.length_eq
  obtain rfl := hb.eq_singleton hne hc hrest
  exact ⟨by simp, by simpa using hrest⟩

theorem ExecHead.ne_sqlHead {h y z : List Char} (hh : ExecHead "ORACLE" h) : h ++ z ≠ sqlHead ++ y := by
  intro hx
  have hhead : sqlHead = ['E', 'X', 'E', 'C', ' '] ++ ['S', 'Q', 'L', ' '] := rfl
  rw [hhead] at hx
  obtain ⟨v, b, _, hv, _, _, hword⟩ := hh.word_after (by decide) hx
  cases v with
  | nil => exact absurd hv (by decide)
  | cons c v =>
      obtain ⟨rfl, _⟩ := List.cons.inj hword
      have hkey : caseKey 'S' = caseKey 'O' := (List.cons.inj hv).1
      exact absurd hkey (by decide)

def commentStart : List Char := "/* ".toList

def openingWords : List Char := "DECLARE SECTION */".toList

def closingComment : List Char := "\n/* END DECLARE SECTION */".toList

theorem openSection_eq (b : List Char) :
    openSection b = commentStart ++ (sqlHead ++ (openingWords ++ ('\n' :: (b ++ closingComment)))) := by
  have hopen : openSection b = commentStart ++ (sqlHead ++ (openingWords ++ ['\n'])) ++ b ++ closingComment :=
    rfl
  simp [hopen]

theorem openingWords_append (y : List Char) :
    openingWords ++ y = openingWords.dropLast ++ '/' :: y := by
  rw [show openingWords = openingWords.dropLast ++ ['/'] from rfl, List.append_assoc]
  rfl

/-- A statement read from the comment that opens a section starts with the words of the comment. -/
theorem at?_openingWords {y : List Char} {o : Occurrence}
    (ho : (execPattern "SQL").at? (.between u (sqlHead ++ (openingWords ++ y))) = some o) :
    ∃ g b t, y = g ++ (b ++ ';' :: t) ∧ ';' ∉ g ∧ Blanks b ∧
      o = ⟨⟨u.length, (u ++ sqlHead ++ openingWords ++ g ++ b).length + 1⟩,
        [(1, ⟨(u ++ sqlHead).length, (u ++ sqlHead ++ openingWords ++ g).length⟩)]⟩ := by
  obtain ⟨h, g, b, t, hx, hh, hb, hg, rfl⟩ := at?_execPattern ho
  obtain ⟨rfl, hrest⟩ : h = sqlHead ∧ g ++ (b ++ ';' :: t) = openingWords ++ y := by
    have hwords : openingWords = 'D' :: openingWords.tail := rfl
    rw [hwords] at hx ⊢
    exact hh.eq_sqlHead (by decide) hx.symm
  have hsemi : ';' ∉ openingWords := by decide
  obtain ⟨y', hy', rfl⟩ := cut_after hsemi (hrest.symm.trans (List.append_assoc g b _).symm)
  obtain ⟨g', hg', rfl⟩ := hb.starts_after (by decide) (hy'.trans (openingWords_append y'))
  obtain rfl : g = openingWords ++ g' := hg'.trans (openingWords_append g').symm
  exact ⟨g', b, t, by simp, fun h => hg (by simp [h]), hb, by simp [Nat.add_assoc]⟩

theorem slice_openingWords (u g z : List Char) :
    slice (u ++ (sqlHead ++ (openingWords ++ (g ++ z)))) (u ++ sqlHead).length
      (u ++ sqlHead ++ openingWords ++ g).length = openingWords ++ g := by
  simpa using slice_append (u ++ sqlHead) (openingWords ++ g) z

theorem stripRight_append {x y : List Char} {c : Char} (hc : isBlank c = false) :
    stripRight (x ++ c :: y) = x ++ c :: stripRight y := by
  simp only [stripRight, List.reverse_append, List.reverse_cons, List.append_assoc, List.dropWhile_append]
  split
  · rename_i hempty
    simp [List.isEmpty_iff.mp hempty, hc]
  · simp

/-- The statement that the comment starts is a declaration and no mark of a section. -/
theorem openingWords_kind (g : List Char) :
    isSectionMark (openingWords ++ g) = false ∧ classify (strip (openingWords ++ g)) = .declare := by
  have hleft : stripLeft (openingWords ++ g) = openingWords ++ g := rfl
  have hstrip : strip (openingWords ++ g) = openingWords ++ stripRight g := by
    rw [strip, hleft, openingWords_append, stripRight_append (by decide), openingWords_append]
  rw [isSectionMark, hstrip]
  exact ⟨rfl, rfl⟩

/-! ## The passes after the section is opened -/

section Opened

variable {k : String} {y z : List Char}

theorem findAll_opened (hu : ExecFree u) : (execPattern k).findAll (u ++ (sqlHead ++ y)) =
    (execPattern k).findAllFrom u.getLast? u.length 0 (sqlHead ++ y) :=
  findAllFrom_execFree (u := []) (t := sqlHead ++ y) (execPattern_startsExec k) hu.append_exec

theorem findAll_opened_nil (hu : ExecFree u) (hy : ExecFree (sqlHead.tail ++ y))
    (hnone : (execPattern k).at? (.between u (sqlHead ++ y)) = none) :
    (execPattern k).findAll (u ++ (sqlHead ++ y)) = [] := by
  have hhead : sqlHead ++ y = 'E' :: (sqlHead.tail ++ y) := rfl
  rw [findAll_opened hu, hhead]
  rw [hhead] at hnone
  rw [findAllFrom_pass (fun o ho => by simp [hnone] at ho)]
  exact findAllFrom_execFree_nil (execPattern_startsExec k) hy

/-- The comment starts a statement that goes on to the next semicolon. -/
theorem findAll_opened_statement (hu : ExecFree u) (hz : ExecFree z) (hy : ';' ∉ y) :
    ∃ g, (execPattern "SQL").findAll (u ++ (sqlHead ++ (openingWords ++ (y ++ ';' :: z)))) =
      [⟨⟨u.length, (u ++ (sqlHead ++ openingWords ++ y ++ [';'])).length⟩,
        [(1, ⟨(u ++ sqlHead).length, (u ++ sqlHead ++ openingWords ++ g).length⟩)]⟩] ∧ g <+: y := by
  obtain ⟨o, ho⟩ :=
    at?_execPattern_complete (u := u) (t := openingWords ++ (y ++ ';' :: z)) sqlHead_head (by simp)
  obtain ⟨g, b, t, hcut, hg, hb, rfl⟩ := at?_openingWords ho
  have hgb : ';' ∉ g ++ b := by simp [hg, hb.not_mem (c := ';') (by decide)]
  obtain ⟨rfl, rfl⟩ := cut_unique hy hgb (hcut.trans (List.append_assoc g b _).symm)
  refine ⟨g, ?_, List.prefix_append g b⟩
  have hsplit : sqlHead ++ (openingWords ++ (g ++ b ++ ';' :: z)) =
      (sqlHead ++ openingWords ++ (g ++ b) ++ [';']) ++ z := by simp
  rw [findAll_opened hu]
  rw [hsplit] at ho ⊢
  rw [findAllFrom_take ho (by simp) (by simp [Nat.add_assoc]),
    findAllFrom_execFree_nil (execPattern_startsExec "SQL") hz]
  simp [Nat.add_assoc]

theorem replaceStatements_opened (hu : ExecFree u) (hz : ExecFree z) (hy : ';' ∉ y) :
    (replaceStatements (u ++ (sqlHead ++ (openingWords ++ (y ++ ';' :: z))))).blocks.map (·.kind) =
        [.declare] ∧
      (replaceStatements (u ++ (sqlHead ++ (openingWords ++ (y ++ ';' :: z))))).text =
        u ++ (placeholder .declare ++ z) := by
  obtain ⟨g, hfound, y', rfl⟩ := findAll_opened_statement hu hz hy
  have hcut : u ++ (sqlHead ++ (openingWords ++ (g ++ y' ++ ';' :: z))) =
      u ++ ((sqlHead ++ openingWords ++ (g ++ y') ++ [';']) ++ z) := by simp
  have hgroup := slice_openingWords u g (y' ++ ';' :: z)
  rw [← List.append_assoc g] at hgroup
  have hsplice := spliceFrom_cons [] u (sqlHead ++ openingWords ++ (g ++ y') ++ [';']) z
    (placeholder .declare) []
  obtain ⟨hmark, hkind⟩ := openingWords_kind g
  simp only [replaceStatements, hfound, List.filter_cons, List.filter_nil, Occurrence.groupText,
    Occurrence.group?, List.lookup_cons_self, hgroup, hmark, Bool.not_false, ↓reduceIte, List.map_cons,
    List.map_nil, hkind, true_and]
  rw [splice, hcut]
  exact hsplice

end Opened

/-! ## Preparing a program with one section -/

/-- What follows the words of the comment in the text with the section opened. -/
def sectionRest (b q : List Char) : List Char :=
  '\n' :: (b ++ (closingComment ++ q))

theorem opened_eq (p b q : List Char) : p ++ (openSection b ++ q) =
    (p ++ commentStart) ++ (sqlHead ++ (openingWords ++ sectionRest b q)) := by
  simp [openSection_eq, sectionRest]

theorem mem_sectionRest : ';' ∈ sectionRest b q ↔ ';' ∈ b ++ q := by
  have hclose : ';' ∉ closingComment := by decide
  simp [sectionRest, hclose]

theorem execFree_sectionRest (hb : ExecFree b) (hq : ExecFree q) : ExecFree (b ++ (closingComment ++ q)) := by
  have hclosing : ExecFree closingComment := by decide
  have hclose : ExecFree (closingComment ++ q) := hclosing.append_of_getLast hq (by decide)
  have hnext : ∀ c ∈ closingComment.take 3, c.toUpper ≠ 'C' := by decide
  exact hb.append hclose hnext

theorem execFree_afterHead (hb : ExecFree b) (hq : ExecFree q) :
    ExecFree (sqlHead.tail ++ (openingWords ++ sectionRest b q)) := by
  have hopening : ExecFree (sqlHead.tail ++ openingWords ++ ['\n']) := by decide
  have hall := hopening.append_of_getLast (execFree_sectionRest hb hq) (by decide)
  simpa [sectionRest] using hall

theorem options_free_opened (hp : ExecFree p) (hb : ExecFree b) (hq : ExecFree q) :
    (execPattern "ORACLE").findAll (p ++ (openSection b ++ q)) = [] := by
  rw [opened_eq]
  apply findAll_opened_nil (hp.append (by decide) (by decide)) (execFree_afterHead hb hq)
  rw [Option.eq_none_iff_forall_ne_some]
  intro o ho
  obtain ⟨h, g, c, t, hx, hh, _⟩ := at?_execPattern ho
  exact hh.ne_sqlHead hx.symm

theorem prepare_withSection (hp : ExecFree p) (hb : ExecFree b) (hq : ExecFree q) :
    (prepare (withSection p b q)).blocks.map (·.kind) =
        .declareSection :: (replaceStatements (p ++ (openSection b ++ q))).blocks.map (·.kind) ∧
      (prepare (withSection p b q)).text = (replaceStatements (p ++ (openSection b ++ q))).text := by
  obtain ⟨hkind, htext⟩ := openSections_section hp hb hq
  have hoptions := options_free_replaceStatements (options_free_opened hp hb hq)
  constructor
  · rw [prepare, List.map_append, hkind, htext, List.singleton_append]
  · rw [prepare, htext, replaceOptions_of_free hoptions]

/-- The first semicolon after the section is opened ends a statement that the opening comment starts. -/
theorem prepare_cut {y z : List Char} (hp : ExecFree p) (hb : ExecFree b) (hq : ExecFree q)
    (hyz : b ++ (closingComment ++ q) = y ++ ';' :: z) (hy : ';' ∉ y) :
    (prepare (withSection p b q)).blocks.map (·.kind) = [.declareSection, .declare] ∧
      (prepare (withSection p b q)).text = p ++ ("/* __exec_sql_declare__()".toList ++ z) := by
  obtain ⟨hkinds, htext⟩ := prepare_withSection hp hb hq
  have hu : ExecFree (p ++ commentStart) := hp.append (by decide) (by decide)
  have hz : ExecFree z := (execFree_sectionRest hb hq).part ⟨y ++ [';'], [], by simp [hyz]⟩
  have hopened : p ++ (openSection b ++ q) =
      (p ++ commentStart) ++ (sqlHead ++ (openingWords ++ ('\n' :: y ++ ';' :: z))) := by
    rw [opened_eq, sectionRest, hyz, List.cons_append]
  obtain ⟨hdeclare, hspliced⟩ := replaceStatements_opened (y := '\n' :: y) hu hz (by simp [hy])
  rw [hkinds, htext, hopened, hdeclare, hspliced]
  refine ⟨rfl, ?_⟩
  rw [List.append_assoc, ← List.append_assoc commentStart]
  rfl

theorem prepare_kept (hp : ExecFree p) (hb : ExecFree b) (hq : ExecFree q) (hsemi : ';' ∉ b ++ q) :
    (prepare (withSection p b q)).blocks.map (·.kind) = [.declareSection] ∧
      (prepare (withSection p b q)).text = p ++ (openSection b ++ q) := by
  obtain ⟨hkinds, htext⟩ := prepare_withSection hp hb hq
  have hnone : (execPattern "SQL").findAll (p ++ (openSection b ++ q)) = [] := by
    rw [opened_eq]
    apply findAll_opened_nil (hp.append (by decide) (by decide)) (execFree_afterHead hb hq)
    rw [Option.eq_none_iff_forall_ne_some]
    intro o ho
    obtain ⟨g, c, t, hx, _⟩ := at?_openingWords ho
    exact hsemi (mem_sectionRest.mp (hx ▸ by simp))
  rw [hkinds, htext]
  simp [replaceStatements, hnone, splice, spliceFrom]

/-- A declare section alone in a program is kept, and is its only block, if and only if no semicolon but that
of its end mark follows its begin mark. Otherwise the comment that opens the section is never closed, and the
declarations are lost up to the first semicolon. -/
theorem section_kept_iff (hp : ExecFree p) (hb : ExecFree b) (hq : ExecFree q) :
    ((prepare (withSection p b q)).blocks.map (·.kind) = [.declareSection] ∧
        (prepare (withSection p b q)).text = p ++ (openSection b ++ q) ↔ ';' ∉ b ++ q) ∧
      ∀ y z, b ++ (closingComment ++ q) = y ++ ';' :: z → ';' ∉ y →
        (prepare (withSection p b q)).blocks.map (·.kind) = [.declareSection, .declare] ∧
          (prepare (withSection p b q)).text = p ++ ("/* __exec_sql_declare__()".toList ++ z) := by
  refine ⟨⟨?_, prepare_kept hp hb hq⟩, fun y z hyz hy => prepare_cut hp hb hq hyz hy⟩
  rintro ⟨hone, _⟩ hsemi
  have hmem : ';' ∈ b ++ (closingComment ++ q) := by
    have hrest := mem_sectionRest.mpr hsemi
    simpa [sectionRest] using hrest
  obtain ⟨y, z, hyz, hy⟩ := List.eq_append_cons_of_mem hmem
  obtain ⟨htwo, _⟩ := prepare_cut hp hb hq hyz hy
  simp [hone] at htwo

theorem section_kept_iff_two_declarations :
    let p := "void f(void);\n".toList
    let b := "\n  int id;\n  char name[20];\n".toList
    let q := "\nint g;\n".toList
    (ExecFree p ∧ ExecFree b ∧ ExecFree q) ∧
      (prepare (withSection p b q)).blocks.map (·.kind) = [.declareSection, .declare] ∧
      (prepare (withSection p b q)).text = ("void f(void);\n/* __exec_sql_declare__()\n" ++
        "  char name[20];\n\n/* END DECLARE SECTION */\nint g;\n").toList := by
  intro p b q
  have hp : ExecFree p := by decide
  have hb : ExecFree b := by decide
  have hq : ExecFree q := by decide
  have hcut := (section_kept_iff hp hb hq).2 "\n  int id".toList
    "\n  char name[20];\n\n/* END DECLARE SECTION */\nint g;\n".toList (by decide) (by decide)
  exact ⟨⟨hp, hb, hq⟩, hcut.1, hcut.2.trans (by decide)⟩

theorem section_not_kept : ExecFree "int x;".toList ∧
    (prepare (withSection [] "int x;".toList [])).text ≠ [] ++ (openSection "int x;".toList ++ []) := by
  decide +kernel

end EsqlAudit.Sql
