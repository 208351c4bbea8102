import EsqlAudit.Proofs.Text.Splice
import EsqlAudit.Sql.Preparer

/-!
# Line numbers and positions

A position is turned into a line by a table of line starts and by a count of newlines, and a line into a position
by the lengths of the lines before it. In front of each of its lines a text is cut into whole lines, the line and
what follows it; what the three computations give is read off this cut.
-/

namespace EsqlAudit.Text

/-! ## The cut in front of a line -/

/-- The text that some lines make, each with its newline. -/
def wholeLines (ls : List (List Char)) : List Char :=
  ls.flatMap (· ++ ['\n'])

theorem wholeLines_cons (line : List Char) (ls : List (List Char)) :
    wholeLines (line :: ls) = line ++ '\n' :: wholeLines ls := by
  simp [wholeLines]

theorem wholeLines_concat (ls : List (List Char)) (line : List Char) :
    wholeLines (ls ++ [line]) = wholeLines ls ++ line ++ ['\n'] := by
  simp [wholeLines]

theorem length_wholeLines (ls : List (List Char)) : (wholeLines ls).length = lengthOver ls := by
  induction ls with
  | nil => rfl
  | cons line ls ih =>
      rw [lengthOver_cons, ← ih, wholeLines_cons, List.length_append, List.length_cons]
      omega

theorem newlines_wholeLines {ls : List (List Char)} (h : ∀ line ∈ ls, '\n' ∉ line) :
    newlines (wholeLines ls) = ls.length := by
  induction ls with
  | nil => rfl
  | cons line ls ih =>
      have hline : newlines line = 0 := newlines_eq_zero_iff.mpr (h line List.mem_cons_self)
      have hrest := ih fun l hl => h l (List.mem_cons_of_mem line hl)
      rw [wholeLines_cons, newlines_append, hline, Nat.zero_add, newlines, List.count_cons_self, ← newlines, hrest,
        List.length_cons]

theorem joinWith_append_cons (front : List (List Char)) (line : List Char) (rest : List (List Char)) :
    joinWith ['\n'] (front ++ line :: rest) = wholeLines front ++ (line ++ afterLine rest) := by
  induction front with
  | nil => exact joinWith_cons line rest
  | cons l front ih =>
      have hstep : joinWith ['\n'] (l :: (front ++ line :: rest)) =
          l ++ ['\n'] ++ joinWith ['\n'] (front ++ line :: rest) := by
        cases front <;> rfl
      rw [List.cons_append, hstep, ih, wholeLines_cons]
      simp

/-- A text cut in front of one of its lines. -/
theorem cut_at_line {s line : List Char} {i : Nat} (h : (lines s)[i]? = some line) :
    ∃ front rest, s = wholeLines front ++ (line ++ afterLine rest) ∧ (∀ l ∈ front, '\n' ∉ l) ∧ front.length = i ∧
      (wholeLines front).length = linePosition s (i + 1 : Nat) := by
  obtain ⟨hlt, hline⟩ := List.getElem?_eq_some_iff.mp h
  refine ⟨(lines s).take i, (lines s).drop (i + 1), ?_, fun l hl => newline_not_mem (List.mem_of_mem_take hl), ?_, ?_⟩
  · rw [← joinWith_append_cons, ← hline, ← List.drop_eq_getElem_cons hlt, List.take_append_drop, joinWith_lines]
  · exact List.length_take_of_le (Nat.le_of_lt hlt)
  · rw [length_wholeLines, linePosition_eq, Nat.add_sub_cancel]

section Cut

variable {front rest : List (List Char)} {line : List Char} {pos : Nat}

theorem lineAt_wholeLines (hfront : ∀ l ∈ front, '\n' ∉ l) (x : List Char) :
    lineAt (wholeLines front ++ x) (wholeLines front).length = front.length + 1 := by
  rw [lineAt_append, newlines_wholeLines hfront]

/-- A position inside the whole lines is on one of them. -/
theorem lineAt_le_of_lt (hfront : ∀ l ∈ front, '\n' ∉ l) (x : List Char) (hpos : pos < (wholeLines front).length) :
    lineAt (wholeLines front ++ x) pos ≤ front.length := by
  rcases List.eq_nil_or_concat front with rfl | ⟨ls, last, rfl⟩
  · cases hpos
  · rw [List.concat_eq_append] at hfront hpos ⊢
    have hlast : newlines last = 0 := newlines_eq_zero_iff.mpr (hfront last (by simp))
    have hls : newlines (wholeLines ls) = ls.length := newlines_wholeLines fun l hl => hfront l (by simp [hl])
    -- The newline that ends the last whole line comes behind the position.
    rw [wholeLines_concat, List.length_append, List.length_singleton] at hpos
    have hmono := lineAt_mono (wholeLines ls ++ last ++ ('\n' :: x)) (Nat.le_of_lt_succ hpos)
    rw [lineAt_append, newlines_append, hls, hlast] at hmono
    rw [wholeLines_concat, List.append_assoc, List.singleton_append, List.length_append]
    exact hmono

/-- A position behind the line is on a later one. -/
theorem lt_lineAt_of_lt (hfront : ∀ l ∈ front, '\n' ∉ l) (hpos : (wholeLines front ++ line).length < pos)
    (hle : pos ≤ (wholeLines front ++ (line ++ afterLine rest)).length) :
    front.length + 1 < lineAt (wholeLines front ++ (line ++ afterLine rest)) pos := by
  rw [← List.append_assoc] at hle ⊢
  cases rest with
  | nil => simp only [afterLine, List.append_nil] at hle; omega
  | cons next rest =>
      -- The newline that ends the line comes before the position.
      have hcut : wholeLines front ++ line ++ afterLine (next :: rest) =
          (wholeLines front ++ line ++ ['\n']) ++ (next ++ afterLine rest) := by simp [afterLine]
      have hmono := lineAt_mono (wholeLines front ++ line ++ afterLine (next :: rest)) (Nat.succ_le_of_lt hpos)
      rw [hcut] at hmono ⊢
      have hend : (wholeLines front ++ line).length.succ = (wholeLines front ++ line ++ ['\n']).length := by
        simp [Nat.add_assoc]
      rw [hend, lineAt_append, newlines_append, newlines_append, newlines_wholeLines hfront] at hmono
      have hone : newlines ['\n'] = 1 := rfl
      omega

end Cut

/-! ## The start of a line -/

theorem lineAt_linePosition {s : List Char} {n : Nat} (hpos : 1 ≤ n) (hle : n ≤ (lines s).length) :
    lineAt s (linePosition s n) = n := by
  obtain ⟨front, rest, hs, hfront, hlength, hposition⟩ := cut_at_line (lines_lineText hpos hle)
  rw [Nat.sub_add_cancel hpos] at hposition
  rw [← hposition, hs, lineAt_wholeLines hfront]
  omega

/-- No position before the start of a line is on it. -/
theorem linePosition_le {s : List Char} {n pos : Nat} (hpos : 1 ≤ n) (hle : n ≤ (lines s).length)
    (hline : lineAt s pos = n) :
    linePosition s n ≤ pos := by
  obtain ⟨front, rest, hs, hfront, hlength, hposition⟩ := cut_at_line (lines_lineText hpos hle)
  rw [Nat.sub_add_cancel hpos] at hposition
  refine Nat.le_of_not_lt fun hlt => ?_
  rw [← hposition] at hlt
  have hbefore := lineAt_le_of_lt hfront (lineText s n ++ afterLine rest) hlt
  rw [← hs] at hbefore
  omega

theorem slice_line {s : List Char} {n : Nat} (hpos : 1 ≤ n) (hle : n ≤ (lines s).length) :
    slice s (linePosition s n) (linePosition s n + (lineText s n).length) = lineText s n := by
  obtain ⟨front, rest, hs, -, -, hposition⟩ := cut_at_line (lines_lineText hpos hle)
  rw [Nat.sub_add_cancel hpos] at hposition
  have hslice := slice_append (wholeLines front) (lineText s n) (afterLine rest)
  rwa [← hs, List.length_append, hposition] at hslice

theorem le_line_end {s : List Char} {pos : Nat} (hle : pos ≤ s.length) :
    pos ≤ linePosition s (lineAt s pos) + (lineText s (lineAt s pos)).length := by
  obtain ⟨hone, -⟩ := lineAt_bounds s pos
  obtain ⟨front, rest, hs, hfront, hlength, hposition⟩ := cut_at_line (lines_lineAt s pos)
  rw [Nat.sub_add_cancel hone] at hposition
  rw [← hposition, ← List.length_append]
  refine Nat.le_of_not_lt fun hlt => ?_
  have hbehind := lt_lineAt_of_lt hfront hlt (hs ▸ hle)
  rw [← hs] at hbehind
  omega

theorem lineAtInt_natCast (s : List Char) (pos : Nat) : lineAtInt s pos = lineAt s pos := by
  rw [lineAtInt, position, if_neg (by omega), Int.toNat_natCast, lineAt, lineAt, List.take_eq_take_min (i := pos)]

end EsqlAudit.Text

namespace EsqlAudit
open Text Sql

/-- The table of line starts and the count of newlines give a position the same line, past the end of the text
too. The position of a line is the first on that line, the text from there on starts with the line, and every
position of the text stands between the start and the end of its line. -/
theorem line_numbers_agree (p : Preparer) (s : List Char) :
    (∀ pos : Nat, lineIn (p.turnTo s).starts pos = lineAt s pos ∧ lineAtInt s pos = lineAt s pos) ∧
    (∀ n : Nat, 1 ≤ n → n ≤ (lines s).length →
      lineAt s (linePosition s n) = n ∧ (∀ pos, lineAt s pos = n → linePosition s n ≤ pos) ∧
      slice s (linePosition s n) (linePosition s n + (lineText s n).length) = lineText s n) ∧
    ∀ pos, pos ≤ s.length →
      linePosition s (lineAt s pos) ≤ pos ∧
        pos ≤ linePosition s (lineAt s pos) + (lineText s (lineAt s pos)).length := by
  refine ⟨fun pos => ⟨lineIn_lineStarts s pos, lineAtInt_natCast s pos⟩, fun n hpos hle => ⟨?_, ?_, ?_⟩,
    fun pos hle => ⟨?_, ?_⟩⟩
  · exact lineAt_linePosition hpos hle
  · exact fun pos => linePosition_le hpos hle
  · exact slice_line hpos hle
  · exact linePosition_le (lineAt_bounds s pos).1 (lineAt_bounds s pos).2 rfl
  · exact le_line_end hle

/-- A text with an empty line and a newline at its end. -/
theorem line_numbers_agree_empty_lines :
    let s := "a\n\nbc\n".toList
    (2 ≤ (lines s).length ∧ lineAt s (linePosition s 2) = 2 ∧
      slice s (linePosition s 2) (linePosition s 2 + (lineText s 2).length) = lineText s 2) ∧
    (lineAt s 2 = 2 ∧ linePosition s 2 ≤ 2) ∧
    (6 ≤ s.length ∧ lineAt s 6 = 4 ∧ linePosition s (lineAt s 6) ≤ 6 ∧
      6 ≤ linePosition s (lineAt s 6) + (lineText s (lineAt s 6)).length) := by
  intro s
  have hlines : 2 ≤ (lines s).length := by decide
  have hpos : 6 ≤ s.length := by decide
  have hline : lineAt s 2 = 2 := by decide
  obtain ⟨-, hstart, hwithin⟩ := line_numbers_agree .new s
  obtain ⟨hat, hleast, hslice⟩ := hstart 2 (by decide) hlines
  exact ⟨⟨hlines, hat, hslice⟩, ⟨hline, hleast 2 hline⟩, hpos, by decide, hwithin 6 hpos⟩

end EsqlAudit
