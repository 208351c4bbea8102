import EsqlAudit.Proofs.Comment.Tags

/-!
# Notes line by line

The first tag of a line makes a note, and the note takes the rest of the line. A note that finds only colons and
white space there takes the lines after it too, up to the first that has anything else, and no note starts on a
line that is taken.
-/

namespace EsqlAudit.Comment
open Text

variable {u w x z t : List Char}

/-! ## The first tag of a text -/

/-- The first tag that stands in a text as a whole word, and what follows it. The text may start inside a word. -/
def firstTag? (inWord : Bool) : List Char → Option (List Char × List Char)
  | [] => none
  | c :: rest =>
    if inWord = false ∧ IsTag ((c :: rest).takeWhile isWord) then
      some ((c :: rest).takeWhile isWord, (c :: rest).dropWhile isWord)
    else firstTag? (isWord c) rest

/-- What holds at the first place of a text and at the places after it holds at every place. -/
theorem forall_places {P : List Char → List Char → Prop} {d : Char} (hhere : P u (d :: x))
    (hlater : ∀ v c v', x = v ++ c :: v' → P (u ++ [d] ++ v) (c :: v')) :
    ∀ v c v', d :: x = v ++ c :: v' → P (u ++ v) (c :: v') := by
  intro v c v' hx
  cases v with
  | nil =>
      obtain ⟨rfl, rfl⟩ := List.cons.inj hx
      rwa [List.append_nil]
  | cons e v =>
      obtain ⟨rfl, hrest⟩ := List.cons.inj hx
      simpa using hlater v c v' hrest

theorem not_isTagAt_of_firstTag?_eq_none (h : firstTag? (u.getLast?.any isWord) x = none) :
    ∀ v c v', x = v ++ c :: v' → ¬IsTagAt (u ++ v) (c :: v') := by
  induction x generalizing u with
  | nil => simp
  | cons d x ih =>
      rw [firstTag?] at h
      split at h
      · cases h
      · rename_i hno
        exact forall_places (P := fun u y => ¬IsTagAt u y) hno (ih (by simpa using h))

/-- The first tag is one, and none stands before it. -/
theorem tagBetween_of_firstTag?_eq_some (h : firstTag? (u.getLast?.any isWord) x = some (w, z)) :
    ∃ v, x = v ++ (w ++ z) ∧ TagBetween (u ++ v) w z ∧
      ∀ v₁ c v₂, v = v₁ ++ c :: v₂ → ¬IsTagAt (u ++ v₁) (c :: v₂ ++ (w ++ z)) := by
  induction x generalizing u with
  | nil => cases h
  | cons d x ih =>
      rw [firstTag?] at h
      split at h
      · rename_i htag
        cases h
        refine ⟨[], List.takeWhile_append_dropWhile.symm, ?_, by simp⟩
        rw [List.append_nil]
        exact IsTagAt.tagBetween htag
      · rename_i hno
        obtain ⟨v, rfl, hbetween, hrest⟩ := ih (u := u ++ [d]) (by simpa using h)
        exact ⟨d :: v, rfl, by simpa using hbetween,
          forall_places (P := fun u y => ¬IsTagAt u (y ++ (w ++ z))) hno hrest⟩

/-! ## What a note takes of the lines -/

/-- What a note takes of the text `z`, if it has found nothing but colons and white space before. -/
def taken (runsOn : Bool) (z : List Char) : List Char :=
  if runsOn then noteRest z else []

theorem noteRest_cons {c : Char} (hc : isFiller c = true) (z : List Char) : noteRest (c :: z) = c :: noteRest z := by
  simp [noteRest, hc]

theorem noteRest_cons_of_text {c : Char} (hc : isFiller c = false) (z : List Char) :
    noteRest (c :: z) = (c :: z).takeWhile notNewline := by
  simp [noteRest, hc]

/-- A note takes the rest of its line, and more if there are only colons and white space. -/
theorem noteRest_append_afterLine (hz : '\n' ∉ z) (ls : List (List Char)) :
    noteRest (z ++ afterLine ls) = z ++ taken (z.all isFiller) (afterLine ls) := by
  induction z with
  | nil => rfl
  | cons c z ih =>
      rw [List.cons_append]
      cases hc : isFiller c with
      | true =>
          rw [noteRest_cons hc, ih (List.not_mem_of_not_mem_cons hz), List.all_cons, hc, Bool.true_and,
            List.cons_append]
      | false =>
          rw [noteRest_cons_of_text hc, ← List.cons_append, takeWhile_notNewline hz, List.all_cons, hc, Bool.false_and,
            taken, if_neg Bool.false_ne_true, List.append_nil]

/-! ## The lines of a comment -/

/-- The line and the tag of the first note of a comment. -/
def heading? (c : Comment) : Option (Nat × String) :=
  (firstTag? false c.text).map fun found => (c.line, String.ofList (upper found.1))

/-- A line of a comment as a comment of its own, and whether a note of an earlier line takes it. -/
structure Line extends Comment where
  isTaken : Bool

/-- Whether a note takes the line or its end, and has found nothing but colons and white space. -/
def Line.runsOn (l : Line) : Bool :=
  if l.isTaken then l.text.all isFiller else (firstTag? false l.text).any fun found => found.2.all isFiller

/-- The lines of a comment from line `n` on. -/
def linesFrom (n : Nat) (isTaken : Bool) : List (List Char) → List Line
  | [] => []
  | text :: ls =>
    let l : Line := ⟨⟨text, n⟩, isTaken⟩
    l :: linesFrom (n + 1) l.runsOn ls

/-- The lines of a comment. -/
def linesOf (c : Comment) : List Line :=
  linesFrom c.line false (lines c.text)

/-- The lines and tags of the notes that lines make. -/
def headings (ls : List Line) : List (Nat × String) :=
  (ls.filter (!·.isTaken)).filterMap fun l => heading? l.toComment

theorem headings_cons (l : Line) (ls : List Line) :
    headings (l :: ls) = (if l.isTaken then [] else (heading? l.toComment).toList) ++ headings ls := by
  cases htaken : l.isTaken with
  | true => simp [headings, htaken]
  | false => cases hfirst : heading? l.toComment <;> simp [headings, htaken, hfirst]

/-- The line and the tag of a note. -/
def Todo.heading (t : Todo) : Nat × String :=
  (t.line, t.tag)

theorem mem_linesFrom {n : Nat} {isTaken : Bool} {ls : List (List Char)} {l : Line} (h : l ∈ linesFrom n isTaken ls) :
    ∃ i, ls[i]? = some l.text ∧ l.line = n + i := by
  induction ls generalizing n isTaken with
  | nil => cases h
  | cons x ls ih =>
      rcases List.mem_cons.mp h with rfl | h
      · exact ⟨0, rfl, rfl⟩
      · obtain ⟨i, hi, hline⟩ := ih h
        exact ⟨i + 1, hi, by omega⟩

theorem pairwise_linesFrom (n : Nat) (isTaken : Bool) (ls : List (List Char)) :
    (linesFrom n isTaken ls).Pairwise (·.line < ·.line) := by
  induction ls generalizing n isTaken with
  | nil => exact .nil
  | cons x ls ih =>
      refine .cons (fun l hl => ?_) (ih _ _)
      obtain ⟨i, -, hline⟩ := mem_linesFrom hl
      change n < l.line
      omega

/-- What a heading says of its comment. -/
theorem heading?_eq_some {c : Comment} {h : Nat × String} (hc : heading? c = some h) :
    h.1 = c.line ∧ ∃ w, w <:+: c.text ∧ IsTag w ∧ h.2 = String.ofList (upper w) := by
  obtain ⟨⟨w, z⟩, hfirst, rfl⟩ := Option.map_eq_some_iff.mp hc
  obtain ⟨v, hv, hbetween, -⟩ := tagBetween_of_firstTag?_eq_some (u := []) hfirst
  exact ⟨rfl, w, ⟨v, z, by simp [hv]⟩, hbetween.isTag, rfl⟩

theorem pairwise_heading? {α : Type} {f : α → Comment} {xs : List α}
    (h : xs.Pairwise fun a b => (f a).line < (f b).line) :
    (xs.filterMap fun a => heading? (f a)).Pairwise (·.1 < ·.1) := by
  refine h.filterMap _ fun a b hlt m hm m' hm' => ?_
  rw [(heading?_eq_some hm).1, (heading?_eq_some hm').1]
  exact hlt

/-! ## The scan -/

/-- The line and the tag of an occurrence in a comment of the text `s` that starts on line `n`. -/
def headingAt (n : Nat) (s : List Char) (o : Occurrence) : Nat × String :=
  (n + newlines (s.take o.span.start), String.ofList (upper (o.groupText s 1)))

theorem headingAt_append (n : Nat) {o : Occurrence} (hstart : o.span.start = u.length) :
    headingAt n (u ++ t) o = (n + newlines u, String.ofList (upper (o.groupText (u ++ t) 1))) := by
  rw [headingAt, hstart, List.take_left]

/-- A line without a tag is passed. -/
theorem findAllFrom_untagged (hfirst : firstTag? (u.getLast?.any isWord) x = none) (ls : List (List Char)) :
    todoPattern.findAllFrom u.getLast? u.length 0 (x ++ afterLine ls) =
      todoPattern.findAllFrom (u ++ x).getLast? (u ++ x).length 0 (afterLine ls) := by
  apply Pattern.findAllFrom_pass_all
  intro v c v' hv
  have hno := not_isTagAt_of_firstTag?_eq_none hfirst v c v' hv
  have hend := head?_afterLine isWord_newline ls
  exact at?_todoPattern_eq_none (mt (isTagAt_append hend).mp hno)

/-- A line with a tag makes one note, which takes the line to its end. -/
theorem findAllFrom_tagged (n : Nat) (hfirst : firstTag? (u.getLast?.any isWord) x = some (w, z)) (hx : '\n' ∉ x)
    (ls : List (List Char)) :
    ∃ o, todoPattern.findAllFrom u.getLast? u.length 0 (x ++ afterLine ls) =
        o :: todoPattern.findAllFrom (u ++ x).getLast? (u ++ x).length (taken (z.all isFiller) (afterLine ls)).length
          (afterLine ls) ∧
      headingAt n (u ++ (x ++ afterLine ls)) o = (n + newlines u, String.ofList (upper w)) := by
  obtain ⟨v, rfl, hbetween, hnone⟩ := tagBetween_of_firstTag?_eq_some hfirst
  have hend := head?_afterLine isWord_newline ls
  have hv : '\n' ∉ v := fun h => hx (List.mem_append_left _ h)
  have hz : '\n' ∉ z := fun h => hx (List.mem_append_right v (List.mem_append_right w h))
  obtain ⟨o, ho, hspan, htext⟩ := (hbetween.append hend).at?
  -- The search passes `v`, takes the note at `w` and skips `z`, which belongs to the note.
  have hpass : todoPattern.findAllFrom u.getLast? u.length 0 (v ++ (w ++ (z ++ afterLine ls))) = _ :=
    Pattern.findAllFrom_pass_all fun v₁ c v₂ hv => by
      have hno := mt (isTagAt_append hend).mp (hnone v₁ c v₂ hv)
      exact at?_todoPattern_eq_none (by simpa using hno)
  have htake := Pattern.findAllFrom_take_part ho hbetween.isTag.ne_nil hspan
  have hskip := Pattern.findAllFrom_skip todoPattern (u ++ v ++ w) z (afterLine ls)
    (taken (z.all isFiller) (afterLine ls)).length
  rw [← List.length_append, ← noteRest_append_afterLine hz] at hskip
  have hheading := headingAt_append (u := u ++ v) (t := w ++ (z ++ afterLine ls)) n (by rw [hspan])
  rw [htext, newlines_append, newlines_eq_zero_iff.mpr hv, Nat.add_zero] at hheading
  simp only [List.append_assoc] at hpass htake hskip hheading ⊢
  exact ⟨o, by rw [hpass, htake, hskip], hheading⟩

/-- The lines and tags of the notes in the text `t` of a comment, after the text `u` and a note that takes `skip`
characters more. -/
def scan (n : Nat) (u : List Char) (skip : Nat) (t : List Char) : List (Nat × String) :=
  (todoPattern.findAllFrom u.getLast? u.length skip t).map (headingAt n (u ++ t))

/-- The scan of a line that no note takes from its start. -/
theorem scan_line {n : Nat} {l : Line} (hline : l.line = n + newlines u) (htext : '\n' ∉ l.text)
    (hl : l.isTaken = false)
    (hu : u.getLast?.any isWord = false) (ls : List (List Char)) :
    scan n u 0 (l.text ++ afterLine ls) = (heading? l.toComment).toList ++
      scan n (u ++ l.text) (taken l.runsOn (afterLine ls)).length (afterLine ls) := by
  rw [scan, scan, Line.runsOn, if_neg (by simp [hl]), heading?, List.append_assoc]
  cases hfirst : firstTag? false l.text with
  | none =>
      have hpass := findAllFrom_untagged (hu.symm ▸ hfirst) ls
      simp [taken, hpass]
  | some found =>
      obtain ⟨o, htake, hheading⟩ := findAllFrom_tagged n (hu.symm ▸ hfirst) htext ls
      simp [htake, hheading, hline]

theorem scan_skip (n : Nat) (u w t : List Char) (skip : Nat) :
    scan n u (w.length + skip) (w ++ t) = scan n (u ++ w) skip t := by
  rw [scan, scan, Pattern.findAllFrom_skip, List.append_assoc]

theorem scan_newline (n : Nat) (u t : List Char) : scan n u 0 ('\n' :: t) = scan n (u ++ ['\n']) 0 t := by
  have hno : ¬IsTagAt u ('\n' :: t) := by
    rintro ⟨-, htag⟩
    rw [List.takeWhile_cons_of_neg (by simp [isWord_newline])] at htag
    exact htag.ne_nil rfl
  rw [scan, scan, Pattern.findAllFrom_pass (by simp [at?_todoPattern_eq_none hno]), List.append_assoc,
    List.singleton_append]

/-- The step of the scan: a line after the newline that ends the line before it. -/
theorem scan_step {n : Nat} {l : Line} (hline : l.line = n + newlines u + 1) (htext : '\n' ∉ l.text)
    (ls : List (List Char)) :
    scan n u (taken l.isTaken (afterLine (l.text :: ls))).length (afterLine (l.text :: ls)) =
      (if l.isTaken then [] else (heading? l.toComment).toList) ++
        scan n (u ++ '\n' :: l.text) (taken l.runsOn (afterLine ls)).length (afterLine ls) := by
  rw [afterLine]
  cases hl : l.isTaken with
  | true =>
      -- The note goes on behind the line only if it has found nothing on it either.
      have hrest : taken true ('\n' :: (l.text ++ afterLine ls)) = '\n' :: l.text ++ taken l.runsOn (afterLine ls) := by
        rw [taken, if_pos rfl, noteRest_cons (by decide), noteRest_append_afterLine htext, Line.runsOn, if_pos hl,
          List.cons_append]
      rw [hrest, List.length_append, ← List.cons_append, scan_skip]
      rfl
  | false =>
      have hnumber : l.line = n + newlines (u ++ ['\n']) := by
        simpa [newlines, Nat.add_assoc] using hline
      have hline := scan_line hnumber htext hl (by simpa using isWord_newline) ls
      rw [List.append_assoc, List.singleton_append] at hline
      exact (scan_newline n u _).trans hline

/-- The scan over lines, each after the newline that ends the line before it. -/
theorem scan_afterLine (n : Nat) (u : List Char) {ls : List (List Char)} (hls : ∀ x ∈ ls, '\n' ∉ x) (isTaken : Bool) :
    scan n u (taken isTaken (afterLine ls)).length (afterLine ls) =
      headings (linesFrom (n + newlines u + 1) isTaken ls) := by
  induction ls generalizing u isTaken with
  | nil => simp [scan, afterLine, Pattern.findAllFrom, linesFrom, headings]
  | cons x ls ih =>
      have hx := hls x List.mem_cons_self
      have hnumber : newlines (u ++ '\n' :: x) = newlines u + 1 := by
        simp [newlines, List.count_eq_zero.mpr hx]
      have hrest := ih (u ++ '\n' :: x) (fun y hy => hls y (List.mem_cons_of_mem x hy))
      rw [hnumber, ← Nat.add_assoc] at hrest
      rw [linesFrom, headings_cons, ← hrest]
      exact scan_step (l := ⟨⟨x, n + newlines u + 1⟩, isTaken⟩) rfl hx ls

/-- The notes of a comment are those of its lines. -/
theorem headings_todosOf (ls : List (List Char)) (c : Comment) :
    (todosOf ls c).map Todo.heading = headings (linesOf c) := by
  obtain ⟨first, rest, hlines, htext, hfirst, hrest⟩ := eq_append_afterLine c.text
  have hscan : (todosOf ls c).map Todo.heading = scan c.line [] 0 (first ++ afterLine rest) := by
    rw [← htext, todosOf, List.map_map]
    rfl
  have hline := scan_line (u := []) (l := ⟨⟨first, c.line⟩, false⟩) rfl hfirst rfl rfl rest
  have hafter := scan_afterLine c.line first hrest
  rw [newlines_eq_zero_iff.mpr hfirst] at hafter
  rw [hscan, hline, List.nil_append, hafter, linesOf, hlines, linesFrom, headings_cons]
  rfl

end EsqlAudit.Comment
