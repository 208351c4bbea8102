import EsqlAudit.Comment.Basic
import EsqlAudit.Proofs.Text.Keyword
import EsqlAudit.Proofs.Text.Splice
import EsqlAudit.Proofs.Text.Words

/-!
# Comments and their marks

What the two searches for comments find. A line comment stands on each line that has the mark `//` and holds what
follows the first mark of the line. A text with a single block and no slash outside has one block comment.
-/

namespace EsqlAudit.Comment
open Text

variable {u x t : List Char} {o : Occurrence}

/-! ## A comment at a place -/

/-- The pattern remembers nothing. -/
def Silent (p : Pattern) : Prop :=
  ∀ u w t gs gs', Pattern.Fits p u w t gs gs' → gs' = gs

theorem silent_exactly (k : String) : Silent (.exactly k) :=
  fun _ _ _ _ _ h => (Pattern.fits_exactly.mp h).2

theorem silent_lazy (cls : Char → Bool) : Silent (.lazy cls) :=
  fun _ _ _ _ _ h => (Pattern.fits_lazy.mp h).2

theorem silent_greedy (cls : Char → Bool) : Silent (.greedy cls) :=
  fun _ _ _ _ _ h => (Pattern.fits_greedy.mp h).2

theorem silent_lineEnd : Silent .lineEnd := by
  intro _ _ _ _ _ h
  cases h
  rfl

/-- What stands between a mark and an end is group 1 of the occurrence. -/
theorem at?_marked {mark : String} {body tail : Pattern} (hbody : Silent body) (htail : Silent tail)
    (ho : (Pattern.all [.exactly mark, .group 1 body, tail]).at? (.between u x) = some o) :
    ∃ r e t, x = mark.toList ++ (r ++ (e ++ t)) ∧ o.span = ⟨u.length, (u ++ (mark.toList ++ (r ++ e))).length⟩ ∧
      o.groupText (u ++ x) 1 = r ∧ Pattern.Fits body (u ++ mark.toList) r (e ++ t) [] [] ∧
      ∃ gs, Pattern.Fits tail (u ++ mark.toList ++ r) e t gs gs := by
  obtain ⟨_, t, rfl, hfits, hspan⟩ := Pattern.at?_sound ho
  obtain ⟨_, _, _, rfl, hfits₁, hrest₁⟩ := Pattern.fits_seq.mp hfits
  obtain ⟨rfl, rfl⟩ := Pattern.fits_exactly.mp hfits₁
  obtain ⟨r, _, _, rfl, hfits₂, hrest₂⟩ := Pattern.fits_seq.mp hrest₁
  obtain ⟨_, hfits₃, rfl⟩ := Pattern.fits_group.mp hfits₂
  obtain rfl := hbody _ _ _ _ _ hfits₃
  obtain ⟨e, _, _, rfl, hfits₄, hrest₄⟩ := Pattern.fits_seq.mp hrest₂
  obtain rfl := htail _ _ _ _ _ hfits₄
  obtain ⟨rfl, hgroups⟩ := Pattern.fits_empty.mp hrest₄
  refine ⟨r, e, t, by simp, by simpa using hspan, ?_, by simpa using hfits₃, _, by simpa using hfits₄⟩
  have hgroup : o.group? 1 = some ⟨(u ++ mark.toList).length, (u ++ mark.toList ++ r).length⟩ := by
    rw [Occurrence.group?, hgroups]
    rfl
  have hslice := slice_append (u ++ mark.toList) r (e ++ t)
  simpa [Occurrence.groupText, hgroup] using hslice

/-- A block comment starts at its mark and ends with the other one. -/
theorem at?_blockPattern (ho : blockPattern.at? (.between u x) = some o) :
    ∃ r t, x = '/' :: '*' :: (r ++ '*' :: '/' :: t) ∧
    o.span = ⟨u.length, (u ++ '/' :: '*' :: (r ++ ['*', '/'])).length⟩ ∧ o.groupText (u ++ x) 1 = r := by
  obtain ⟨r, e, t, rfl, hspan, htext, -, _, htail⟩ :=
    at?_marked (silent_lazy _) (silent_exactly "*/") ho
  obtain ⟨rfl, -⟩ := Pattern.fits_exactly.mp htail
  exact ⟨r, t, rfl, hspan, htext⟩

/-- A line comment starts at its mark and ends with the line. -/
theorem at?_linePattern (ho : linePattern.at? (.between u x) = some o) : ∃ y, x = '/' :: '/' :: y ∧
    o.span = ⟨u.length, (u ++ '/' :: '/' :: y.takeWhile notNewline).length⟩ ∧
    o.groupText (u ++ x) 1 = y.takeWhile notNewline := by
  obtain ⟨r, e, t, rfl, hspan, htext, hbody, _, htail⟩ :=
    at?_marked (silent_greedy _) silent_lineEnd ho
  cases htail with
  | lineEnd hend =>
      have hrun : (r ++ t).takeWhile notNewline = r :=
        takeWhile_run (Pattern.fits_greedy.mp hbody).1 ((isLineEnd_between _ t).mp hend)
      exact ⟨r ++ t, rfl, by simpa [hrun] using hspan, by simpa [hrun] using htext⟩

theorem at?_linePattern_complete (u y : List Char) : ∃ o, linePattern.at? (.between u ('/' :: '/' :: y)) = some o := by
  have hline : ∀ c ∈ y.takeWhile notNewline, notNewline c = true := fun _ hc => List.mem_takeWhile_imp hc
  have hend : (Place.between (u ++ "//".toList ++ y.takeWhile notNewline) (y.dropWhile notNewline)).isLineEnd = true :=
    (isLineEnd_between _ _).mpr (head?_dropWhile_any notNewline y)
  have hfits : Pattern.Fits linePattern u ("//".toList ++ (y.takeWhile notNewline ++ ([] ++ [])))
      (y.dropWhile notNewline) [] _ :=
    .seq (Pattern.fits_exactly.mpr ⟨rfl, rfl⟩) <| .seq (.group (.greedy hline)) <| .seq (.lineEnd hend) .empty
  obtain ⟨o, ho⟩ := Pattern.at?_complete hfits
  refine ⟨o, ?_⟩
  rwa [List.append_assoc, List.append_nil, List.append_nil, List.takeWhile_append_dropWhile] at ho

/-! ## Where comments stand -/

theorem stands_of_mem_found {mark : String} {body tail : Pattern} (hmark : '\n' ∉ mark.toList) (hbody : Silent body)
    (htail : Silent tail) {source : List Char} {c : Comment}
    (hc : c ∈ found source (.all [.exactly mark, .group 1 body, tail])) :
    ∃ u t, source = u ++ (c.text ++ t) ∧ c.line = newlines u + 1 := by
  obtain ⟨o, ho, rfl⟩ := List.mem_map.mp hc
  obtain ⟨v, w, t', rfl, -, hat, hspan⟩ := (Pattern.scans_findAll _ source).mem ho
  obtain ⟨r, e, t, hx, -, htext, -⟩ := at?_marked hbody htail hat
  rw [List.nil_append] at htext hspan
  refine ⟨v ++ mark.toList, e ++ t, ?_, ?_⟩
  · rw [htext, hx, List.append_assoc]
  · rw [hspan, lineAt_append, newlines_append, newlines_eq_zero_iff.mpr hmark, Nat.add_zero]

/-- A comment stands in the text, and its line is that of its first character. -/
theorem stands_of_mem_comments {source : List Char} {c : Comment} (hc : c ∈ comments source) :
    ∃ u t, source = u ++ (c.text ++ t) ∧ c.line = newlines u + 1 := by
  rcases List.mem_append.mp hc with hc | hc
  · exact stands_of_mem_found (by decide) (silent_lazy _) (silent_exactly _) hc
  · exact stands_of_mem_found (by decide) (silent_greedy _) silent_lineEnd hc

/-! ## Line comments -/

/-- What follows the first `//` of a text. -/
def afterMark? : List Char → Option (List Char)
  | [] => none
  | c :: rest => if ['/', '/'].isPrefixOf (c :: rest) then some (rest.drop 1) else afterMark? rest

theorem not_infix_of_afterMark?_eq_none (h : afterMark? x = none) : ¬['/', '/'] <:+: x := by
  induction x with
  | nil => decide
  | cons c x ih =>
      rw [afterMark?] at h
      split at h
      · cases h
      · rename_i hno
        rw [List.infix_cons_iff, not_or]
        exact ⟨mt List.isPrefixOf_iff_prefix.mpr hno, ih h⟩

/-- No mark starts before the first. -/
theorem append_of_afterMark?_eq_some {r : List Char} (h : afterMark? x = some r) :
    ∃ v, x = v ++ '/' :: '/' :: r ∧ ¬['/', '/'] <:+: v ++ ['/'] := by
  induction x with
  | nil => cases h
  | cons c x ih =>
      rw [afterMark?] at h
      split at h
      · rename_i hmark
        obtain ⟨y, hy⟩ := List.isPrefixOf_iff_prefix.mp hmark
        cases hy
        cases h
        exact ⟨[], rfl, by decide⟩
      · rename_i hno
        obtain ⟨v, rfl, hv⟩ := ih h
        refine ⟨c :: v, rfl, ?_⟩
        rw [List.cons_append, List.infix_cons_iff, not_or]
        refine ⟨fun hstarts => hno (List.isPrefixOf_iff_prefix.mpr ?_), hv⟩
        exact hstarts.trans ⟨'/' :: r, by simp⟩

/-- The line comments on some lines, the first of which is line `n`. -/
def lineComments (n : Nat) : List (List Char) → List Comment
  | [] => []
  | x :: ls => ((afterMark? x).map fun text => ⟨text, n⟩).toList ++ lineComments (n + 1) ls

theorem mem_lineComments {n : Nat} {ls : List (List Char)} {c : Comment} (h : c ∈ lineComments n ls) :
    ∃ i x, ls[i]? = some x ∧ afterMark? x = some c.text ∧ c.line = n + i := by
  induction ls generalizing n with
  | nil => cases h
  | cons x ls ih =>
      rcases List.mem_append.mp h with h | h
      · obtain ⟨r, hmark, rfl⟩ := Option.map_eq_some_iff.mp (Option.mem_toList.mp h)
        exact ⟨0, x, rfl, hmark, rfl⟩
      · obtain ⟨i, y, hi, hmark, hline⟩ := ih h
        exact ⟨i + 1, y, hi, hmark, by omega⟩

theorem pairwise_lineComments (n : Nat) (ls : List (List Char)) : (lineComments n ls).Pairwise (·.line < ·.line) := by
  induction ls generalizing n with
  | nil => exact .nil
  | cons x ls ih =>
      refine List.pairwise_append.mpr ⟨?_, ih (n + 1), fun c hc c' hc' => ?_⟩
      · cases afterMark? x <;> simp
      · obtain ⟨r, -, rfl⟩ := Option.map_eq_some_iff.mp (Option.mem_toList.mp hc)
        obtain ⟨i, y, -, -, hline⟩ := mem_lineComments hc'
        change n < c'.line
        omega

/-- The line comments that are found in the text `t` after the text `u`. -/
def lineCommentsFrom (u t : List Char) : List Comment :=
  (linePattern.findAllFrom u.getLast? u.length 0 t).map fun o => ⟨o.groupText (u ++ t) 1, lineAt (u ++ t) o.span.start⟩

theorem at?_linePattern_eq_none (h : ¬['/', '/'] <+: x) : linePattern.at? (.between u x) = none := by
  rw [Option.eq_none_iff_forall_ne_some]
  intro o ho
  obtain ⟨y, rfl, -⟩ := at?_linePattern ho
  exact h ⟨y, rfl⟩

/-- A text in which no mark starts is passed. -/
theorem lineCommentsFrom_pass (h : ∀ v c v', x = v ++ c :: v' → ¬['/', '/'] <+: c :: v' ++ t) :
    lineCommentsFrom u (x ++ t) = lineCommentsFrom (u ++ x) t := by
  rw [lineCommentsFrom, lineCommentsFrom,
    Pattern.findAllFrom_pass_all fun v c v' hv => at?_linePattern_eq_none (h v c v' hv), List.append_assoc]

/-- A mark makes a comment of the rest of its line. -/
theorem lineCommentsFrom_mark {r : List Char} (hr : '\n' ∉ r) (ls : List (List Char)) :
    lineCommentsFrom u ('/' :: '/' :: r ++ afterLine ls) =
      ⟨r, newlines u + 1⟩ :: lineCommentsFrom (u ++ '/' :: '/' :: r) (afterLine ls) := by
  obtain ⟨o, ho⟩ := at?_linePattern_complete u (r ++ afterLine ls)
  obtain ⟨y, hy, hspan, htext⟩ := at?_linePattern ho
  cases hy
  rw [takeWhile_notNewline hr] at hspan htext
  have htake := Pattern.findAllFrom_take (w := '/' :: '/' :: r) ho (by simp) hspan
  have hline : lineAt (u ++ '/' :: '/' :: (r ++ afterLine ls)) o.span.start = newlines u + 1 := by
    rw [hspan, lineAt_append]
  rw [lineCommentsFrom, htake, List.map_cons, lineCommentsFrom, List.append_assoc, List.cons_append, List.cons_append,
    htext, hline]

theorem slashes_prefix_append {c : Char} {y : List Char} (h : ['/', '/'] <+: c :: y ++ t) :
    ['/', '/'] <+: c :: y ∨ y = [] ∧ c = '/' ∧ t.head? = some '/' := by
  obtain ⟨z, hz⟩ := h
  cases y with
  | nil =>
      cases hz
      exact .inr ⟨rfl, rfl, rfl⟩
  | cons d y =>
      cases hz
      exact .inl ⟨y, rfl⟩

/-- The step of the scan: a line has one comment, at its first mark. -/
theorem lineCommentsFrom_line (hx : '\n' ∉ x) (ls : List (List Char)) :
    lineCommentsFrom u (x ++ afterLine ls) = ((afterMark? x).map fun text => ⟨text, newlines u + 1⟩).toList ++
      lineCommentsFrom (u ++ x) (afterLine ls) := by
  cases hmark : afterMark? x with
  | none =>
      have hno := not_infix_of_afterMark?_eq_none hmark
      have hend := head?_afterLine (p := (· == '/')) (by decide) ls
      apply lineCommentsFrom_pass
      rintro v c v' rfl hstarts
      rcases slashes_prefix_append hstarts with hstarts | ⟨-, -, hslash⟩
      · exact hno (hstarts.isInfix.trans (List.suffix_append v _).isInfix)
      · simp [hslash] at hend
  | some r =>
      obtain ⟨v, rfl, hno⟩ := append_of_afterMark?_eq_some hmark
      have hr : '\n' ∉ r := fun h => hx (by simp [h])
      have hv : newlines v = 0 := newlines_eq_zero_iff.mpr fun h => hx (by simp [h])
      rw [List.append_assoc, lineCommentsFrom_pass, lineCommentsFrom_mark hr, newlines_append, hv, List.append_assoc]
      · rfl
      · -- A mark that starts in `v` may end with the first slash of the mark behind it.
        rintro v₁ c v₂ rfl hstarts
        rcases slashes_prefix_append hstarts with hstarts | ⟨rfl, rfl, -⟩
        · exact hno (hstarts.isInfix.trans ⟨v₁, ['/'], rfl⟩)
        · exact hno ⟨v₁, [], by simp⟩

theorem lineCommentsFrom_newline (u t : List Char) :
    lineCommentsFrom u ('\n' :: t) = lineCommentsFrom (u ++ ['\n']) t := by
  rw [lineCommentsFrom, lineCommentsFrom, Pattern.findAllFrom_pass (by simp [at?_linePattern_eq_none]),
    List.append_assoc, List.singleton_append]

/-- The scan over lines, each after the newline that ends the line before it. -/
theorem lineCommentsFrom_afterLine (u : List Char) {ls : List (List Char)} (hls : ∀ x ∈ ls, '\n' ∉ x) :
    lineCommentsFrom u (afterLine ls) = lineComments (newlines u + 2) ls := by
  induction ls generalizing u with
  | nil => rfl
  | cons x ls ih =>
      have hx := hls x List.mem_cons_self
      have hnewline : newlines (u ++ ['\n']) = newlines u + 1 := by simp [newlines]
      have hrest := ih (u ++ ['\n'] ++ x) fun y hy => hls y (List.mem_cons_of_mem x hy)
      rw [newlines_append, hnewline, newlines_eq_zero_iff.mpr hx] at hrest
      rw [afterLine, lineCommentsFrom_newline, lineCommentsFrom_line hx, hnewline, hrest]
      rfl

/-- Each line with a mark has a line comment, and there are no others. -/
theorem found_linePattern (source : List Char) : found source linePattern = lineComments 1 (lines source) := by
  obtain ⟨first, rest, hlines, htext, hfirst, hrest⟩ := eq_append_afterLine source
  have hfound : found source linePattern = lineCommentsFrom [] source := rfl
  rw [hfound, hlines, htext, lineCommentsFrom_line hfirst, List.nil_append,
    lineCommentsFrom_afterLine first hrest, newlines_eq_zero_iff.mpr hfirst]
  rfl

/-! ## A single block -/

/-- The text of a block comment between two other texts. -/
def inBlock (p c q : List Char) : List Char :=
  p ++ '/' :: '*' :: (c ++ '*' :: '/' :: q)

/-- The mark that ends a block stands in one place only, if the block has no such mark inside and no slash behind it. -/
theorem eq_of_closing {r c q : List Char} (hc : ¬['*', '/'] <:+: c) (hq : '/' ∉ q)
    (h : r ++ '*' :: '/' :: t = c ++ '*' :: '/' :: q) : r = c := by
  rcases List.append_eq_append_iff.mp h with ⟨a, rfl, ha⟩ | ⟨a, rfl, ha⟩
  · -- The mark after `r` starts inside `c`: all of it lies there, for `c` is followed by a star.
    rcases a with _ | ⟨d, _ | ⟨e, a⟩⟩
    · rw [List.append_nil]
    · simp at ha
    · simp only [List.cons_append, List.cons.injEq] at ha
      obtain ⟨rfl, rfl, -⟩ := ha
      exact absurd ⟨r, a, by simp⟩ hc
  · -- It starts behind `c`: its slash is the one that ends the block, or lies in `q`.
    rcases a with _ | ⟨d, _ | ⟨e, a⟩⟩
    · rw [List.append_nil]
    · simp at ha
    · simp only [List.cons_append, List.cons.injEq] at ha
      obtain ⟨rfl, rfl, rfl⟩ := ha
      exact absurd (by simp) hq

theorem at?_blockPattern_complete (u c q : List Char) :
    ∃ o, blockPattern.at? (.between u ('/' :: '*' :: (c ++ '*' :: '/' :: q))) = some o := by
  have hfits : Pattern.Fits blockPattern u ("/*".toList ++ (c ++ ("*/".toList ++ []))) q [] _ :=
    .seq (Pattern.fits_exactly.mpr ⟨rfl, rfl⟩) <| .seq (.group (.lazy fun _ _ => rfl)) <|
      .seq (Pattern.fits_exactly.mpr ⟨rfl, rfl⟩) .empty
  obtain ⟨o, ho⟩ := Pattern.at?_complete hfits
  exact ⟨o, by simpa using ho⟩

theorem at?_blockPattern_eq_none {c : Char} (hc : c ≠ '/') : blockPattern.at? (.between u (c :: x)) = none := by
  rw [Option.eq_none_iff_forall_ne_some]
  intro o ho
  obtain ⟨r, t, hx, -⟩ := at?_blockPattern ho
  exact hc (List.cons.inj hx).1

/-- In a text with one block and no slash outside, that block is the only block comment. -/
theorem found_blockPattern {p c q : List Char} (hp : '/' ∉ p) (hc : ¬['*', '/'] <:+: c) (hq : '/' ∉ q) :
    found (inBlock p c q) blockPattern = [⟨c, newlines p + 1⟩] := by
  have hpass : ∀ {u w t : List Char}, '/' ∉ w → blockPattern.findAllFrom u.getLast? u.length 0 (w ++ t) =
      blockPattern.findAllFrom (u ++ w).getLast? (u ++ w).length 0 t := by
    intro u w t hw
    apply Pattern.findAllFrom_pass_all
    rintro v d v' rfl
    exact at?_blockPattern_eq_none (ne_of_mem_of_not_mem (by simp) hw)
  obtain ⟨o, ho⟩ := at?_blockPattern_complete p c q
  obtain ⟨r, t, hx, hspan, htext⟩ := at?_blockPattern ho
  simp only [List.cons.injEq, true_and] at hx
  obtain rfl := eq_of_closing hc hq hx.symm
  have htake := Pattern.findAllFrom_take (w := '/' :: '*' :: (r ++ ['*', '/'])) (t := q) (by simpa using ho)
      (by simp) hspan
  have hrest := hpass (u := p ++ '/' :: '*' :: (r ++ ['*', '/'])) (t := []) hq
  rw [List.append_nil, Pattern.findAllFrom] at hrest
  rw [hrest] at htake
  have hall : blockPattern.findAll (inBlock p r q) = [o] := by
    rw [Pattern.findAll, inBlock]
    exact (hpass (u := []) hp).trans (by simpa using htake)
  rw [found, hall, List.map_singleton, inBlock, htext, hspan, lineAt_append]

theorem slashes_infix_append {p t : List Char} (hp : '/' ∉ p) (h : ['/', '/'] <:+: p ++ t) : ['/', '/'] <:+: t := by
  induction p with
  | nil => exact h
  | cons c p ih =>
      rcases List.infix_cons_iff.mp h with ⟨z, hz⟩ | h
      · exact absurd (by simp [← (List.cons.inj hz).1]) hp
      · exact ih (List.not_mem_of_not_mem_cons hp) h

theorem slashes_infix_star {c : List Char} (h : ['/', '/'] <:+: c ++ '*' :: t) :
    ['/', '/'] <:+: c ∨ ['/', '/'] <:+: t := by
  induction c with
  | nil => exact .inr (slashes_infix_append (p := ['*']) (by decide) h)
  | cons d c ih =>
      rcases List.infix_cons_iff.mp h with hstarts | h
      · rcases slashes_prefix_append hstarts with hstarts | ⟨-, -, hslash⟩
        · exact .inl hstarts.isInfix
        · simp at hslash
      · exact (ih h).imp_left fun hc => List.infix_cons_iff.mpr (.inr hc)

/-- The marks of a block do not add a `//` to its text. -/
theorem slashes_of_inBlock {p c q : List Char} (hp : '/' ∉ p) (hq : '/' ∉ q) (h : ['/', '/'] <:+: inBlock p c q) :
    ['/', '/'] <:+: c := by
  have hafter : ['/', '/'] <:+: ['/'] ++ '*' :: (c ++ '*' :: '/' :: q) := slashes_infix_append hp h
  rcases slashes_infix_star hafter with hslash | hbody
  · exact absurd hslash (by decide)
  · rcases slashes_infix_star hbody with hc | hrest
    · exact hc
    · have hcount := hrest.sublist.count_le '/'
      simp [List.count_eq_zero.mpr hq] at hcount

theorem lineComments_eq_nil {s : List Char} (h : ¬['/', '/'] <:+: s) (n : Nat) : lineComments n (lines s) = [] := by
  rw [List.eq_nil_iff_forall_not_mem]
  intro c hc
  obtain ⟨i, x, hx, hmark, -⟩ := mem_lineComments hc
  obtain ⟨v, rfl, -⟩ := append_of_afterMark?_eq_some hmark
  exact h (List.IsInfix.trans ⟨v, c.text, by simp⟩ (infix_of_mem_lines (List.mem_of_getElem? hx)))

end EsqlAudit.Comment
