import EsqlAudit.Proofs.Text.Pieces
import EsqlAudit.Text.Line

/-!
# Line numbers

The table of line starts tells the line of a position as the number of newlines before it. The lines of a text
with newlines between them are the text, and the position of a line is where the text from that line on starts.
-/

namespace EsqlAudit.Text

theorem newlines_append (s t : List Char) : newlines (s ++ t) = newlines s + newlines t :=
  List.count_append

theorem newlines_eq_zero_iff {s : List Char} : newlines s = 0 ↔ '\n' ∉ s :=
  List.count_eq_zero

theorem lines_eq_singleton {s : List Char} (h : '\n' ∉ s) : lines s = [s] :=
  splitOn_eq_singleton h

/-! ## The lines of a text -/

theorem lines_newline (s : List Char) : lines ('\n' :: s) = [] :: lines s :=
  rfl

theorem lines_ne_nil (s : List Char) : lines s ≠ [] :=
  splitOn_ne_nil '\n' s

theorem lines_cons {c : Char} (h : c ≠ '\n') (s : List Char) :
    ∃ line rest, lines s = line :: rest ∧ lines (c :: s) = (c :: line) :: rest :=
  splitOn_cons h s

theorem length_lines (s : List Char) : (lines s).length = newlines s + 1 := by
  induction s with
  | nil => rfl
  | cons c s ih =>
      by_cases hc : c = '\n'
      · subst hc
        simp [lines_newline, ih, newlines]
      · obtain ⟨line, rest, hs, hcons⟩ := lines_cons hc s
        rw [hs] at ih
        simpa [hcons, newlines, hc] using ih

theorem joinWith_lines (s : List Char) : joinWith ['\n'] (lines s) = s :=
  joinWith_splitOn '\n' s

theorem newline_not_mem {s line : List Char} (h : line ∈ lines s) : '\n' ∉ line :=
  not_mem_of_mem_splitOn h

/-- Of two texts one after the other the last line and the first line become one. -/
theorem lines_append (s t : List Char) : ∃ front last first rest,
    lines s = front ++ [last] ∧ lines t = first :: rest ∧ lines (s ++ t) = front ++ (last ++ first) :: rest := by
  induction s with
  | nil =>
      obtain ⟨first, rest, ht⟩ := List.exists_cons_of_ne_nil (lines_ne_nil t)
      exact ⟨[], [], first, rest, rfl, ht, ht⟩
  | cons c s ih =>
      obtain ⟨front, last, first, rest, hs, ht, hst⟩ := ih
      by_cases hc : c = '\n'
      · subst hc
        refine ⟨[] :: front, last, first, rest, ?_, ht, ?_⟩
        · rw [lines_newline, hs, List.cons_append]
        · rw [List.cons_append, lines_newline, hst, List.cons_append]
      · obtain ⟨line, more, hs', hcons⟩ := lines_cons hc s
        obtain ⟨line', more', hst', hcons'⟩ := lines_cons hc (s ++ t)
        rw [hs'] at hs
        rw [hst'] at hst
        rw [List.cons_append, hcons', hcons]
        cases front with
        | nil =>
            obtain ⟨rfl, rfl⟩ := List.cons.inj hs
            obtain ⟨rfl, rfl⟩ := List.cons.inj hst
            exact ⟨[], c :: line, first, _, rfl, ht, rfl⟩
        | cons l front =>
            obtain ⟨rfl, rfl⟩ := List.cons.inj hs
            obtain ⟨rfl, rfl⟩ := List.cons.inj hst
            exact ⟨_ :: front, last, first, rest, rfl, ht, rfl⟩

theorem lines_prefix {s line : List Char} {i : Nat} (h : (lines s)[i]? = some line) (t : List Char) :
    ∃ whole, (lines (s ++ t))[i]? = some whole ∧ line <+: whole := by
  obtain ⟨front, last, first, rest, hs, -, hst⟩ := lines_append s t
  rw [hs] at h
  rw [hst]
  rcases Nat.lt_trichotomy i front.length with hi | rfl | hi
  · rw [List.getElem?_append_left hi] at h ⊢
    exact ⟨line, h, List.prefix_rfl⟩
  · obtain rfl : last = line := by simpa using h
    exact ⟨last ++ first, by simp, List.prefix_append last first⟩
  · rw [List.getElem?_eq_none (by simp; omega)] at h
    cases h

theorem lines_suffix (u : List Char) {s line : List Char} {i : Nat} (h : (lines s)[i]? = some line) :
    ∃ whole, (lines (u ++ s))[newlines u + i]? = some whole ∧ line <:+ whole := by
  obtain ⟨front, last, first, rest, hu, hs, hus⟩ := lines_append u s
  have hfront : newlines u = front.length := by
    simpa [hu] using (length_lines u).symm
  rw [hs] at h
  rw [hus, hfront, List.getElem?_append_right (Nat.le_add_right ..), Nat.add_sub_cancel_left]
  cases i with
  | zero =>
      obtain rfl : first = line := by simpa using h
      exact ⟨last ++ first, rfl, List.suffix_append last first⟩
  | succ i => exact ⟨line, h, List.suffix_rfl⟩

/-- The lines of a part of a text stand in its lines. -/
theorem lines_infix (u : List Char) {s line : List Char} {i : Nat} (h : (lines s)[i]? = some line) (t : List Char) :
    ∃ whole, (lines (u ++ (s ++ t)))[newlines u + i]? = some whole ∧ line <:+: whole := by
  obtain ⟨part, hpart, hprefix⟩ := lines_prefix h t
  obtain ⟨whole, hwhole, hsuffix⟩ := lines_suffix u hpart
  exact ⟨whole, hwhole, hprefix.isInfix.trans hsuffix.isInfix⟩

/-- The text that lines make after a line, each of them with the newline before it. -/
def afterLine : List (List Char) → List Char
  | [] => []
  | line :: ls => '\n' :: (line ++ afterLine ls)

theorem joinWith_cons (line : List Char) (ls : List (List Char)) :
    joinWith ['\n'] (line :: ls) = line ++ afterLine ls := by
  induction ls generalizing line with
  | nil => simp [joinWith, afterLine]
  | cons next ls ih => simp [joinWith, afterLine, ih]

/-- A text is its first line and the lines after it. -/
theorem eq_append_afterLine (s : List Char) : ∃ first rest, lines s = first :: rest ∧ s = first ++ afterLine rest ∧
    '\n' ∉ first ∧ ∀ line ∈ rest, '\n' ∉ line := by
  obtain ⟨first, rest, hs⟩ := List.exists_cons_of_ne_nil (lines_ne_nil s)
  refine ⟨first, rest, hs, ?_, ?_, fun line hline => ?_⟩
  · rw [← joinWith_cons, ← hs, joinWith_lines]
  · exact newline_not_mem (hs ▸ List.mem_cons_self)
  · exact newline_not_mem (hs ▸ List.mem_cons_of_mem first hline)

theorem infix_afterLine {line : List Char} {ls : List (List Char)} (h : line ∈ ls) : line <:+: afterLine ls := by
  induction ls with
  | nil => cases h
  | cons next ls ih =>
      rw [afterLine]
      rcases List.mem_cons.mp h with rfl | h
      · exact ⟨['\n'], afterLine ls, rfl⟩
      · exact (ih h).trans ⟨'\n' :: next, [], by simp⟩

theorem infix_of_mem_lines {s line : List Char} (h : line ∈ lines s) : line <:+: s := by
  obtain ⟨first, rest, hs, htext, -⟩ := eq_append_afterLine s
  rw [hs] at h
  rw [htext]
  rcases List.mem_cons.mp h with rfl | h
  · exact (List.prefix_append line _).isInfix
  · exact (infix_afterLine h).trans (List.suffix_append first _).isInfix

theorem lineAt_bounds (s : List Char) (pos : Nat) : 1 ≤ lineAt s pos ∧ lineAt s pos ≤ (lines s).length := by
  rw [length_lines]
  exact ⟨Nat.le_add_left 1 _, Nat.succ_le_succ ((List.take_sublist pos s).count_le '\n')⟩

theorem lines_lineText {s : List Char} {n : Nat} (hpos : 1 ≤ n) (hle : n ≤ (lines s).length) :
    (lines s)[n - 1]? = some (lineText s n) := by
  have hlt : n - 1 < (lines s).length := by omega
  rw [lineText, if_pos (by omega), Int.toNat_natCast, List.getElem?_eq_getElem hlt, Option.getD_some]

/-- The line of a position stands among the lines of the text. -/
theorem lines_lineAt (s : List Char) (pos : Nat) : (lines s)[lineAt s pos - 1]? = some (lineText s (lineAt s pos)) :=
  lines_lineText (lineAt_bounds s pos).1 (lineAt_bounds s pos).2

/-! ## The start of a line -/

/-- The number of characters of some lines, each with its newline. -/
def lengthOver (ls : List (List Char)) : Nat :=
  ls.foldl (fun pos line => pos + line.length + 1) 0

theorem lengthOver_cons (line : List Char) (ls : List (List Char)) :
    lengthOver (line :: ls) = line.length + 1 + lengthOver ls := by
  have hfrom : ∀ (ls : List (List Char)) (k : Nat),
      ls.foldl (fun pos line => pos + line.length + 1) k = k + lengthOver ls := by
    intro ls
    induction ls with
    | nil => exact fun _ => rfl
    | cons l ls ih =>
        intro k
        have hone := ih (0 + l.length + 1)
        rw [lengthOver, List.foldl_cons, List.foldl_cons, ih, hone]
        omega
  rw [lengthOver, List.foldl_cons, hfrom]
  omega

theorem drop_lengthOver (ls : List (List Char)) (n : Nat) :
    (joinWith ['\n'] ls).drop (lengthOver (ls.take n)) = joinWith ['\n'] (ls.drop n) := by
  induction ls generalizing n with
  | nil => simp [joinWith]
  | cons line ls ih =>
      cases n with
      | zero => rfl
      | succ n =>
          rw [List.take_succ_cons, lengthOver_cons, List.drop_succ_cons, ← ih n, ← List.drop_drop]
          congr 1
          cases ls with
          | nil => simp [joinWith]
          | cons next ls => simp [joinWith, List.drop_append]

theorem linePosition_eq (s : List Char) (n : Nat) : linePosition s n = lengthOver ((lines s).take (n - 1)) := by
  rw [linePosition, lengthOver, show ((n : Int) - 1).toNat = n - 1 by omega]

/-- From the position of a line on stand that line and those after it. -/
theorem drop_linePosition (s : List Char) (n : Nat) :
    s.drop (linePosition s n) = joinWith ['\n'] ((lines s).drop (n - 1)) := by
  have hdrop := drop_lengthOver (lines s) (n - 1)
  rwa [joinWith_lines, ← linePosition_eq] at hdrop

/-! ## The line of a position -/

theorem lineAt_append (s t : List Char) : lineAt (s ++ t) s.length = newlines s + 1 := by
  rw [lineAt, List.take_left]

theorem lineAt_mono (s : List Char) {i j : Nat} (h : i ≤ j) : lineAt s i ≤ lineAt s j :=
  Nat.succ_le_succ ((List.take_sublist_take_left h).count_le '\n')

theorem takeWhile_lineStartsFrom (k pos : Nat) (s : List Char) :
    ((lineStartsFrom k s).takeWhile fun (start : Nat) => (start : Int) ≤ (pos : Int)).length =
      newlines (s.take (pos - k)) := by
  induction s generalizing k with
  | nil => simp [lineStartsFrom, newlines]
  | cons c s ih =>
      by_cases hk : k < pos
      · obtain ⟨m, hm⟩ : ∃ m, pos - k = m + 1 := ⟨pos - k - 1, by omega⟩
        have hrest := ih (k + 1)
        rw [show pos - (k + 1) = m by omega] at hrest
        rw [hm, List.take_succ_cons, lineStartsFrom]
        split
        · rename_i hc
          obtain rfl : c = '\n' := by simpa using hc
          rw [List.takeWhile_cons, if_pos (by simp; omega), List.length_cons, hrest]
          simp [newlines]
        · rename_i hc
          rw [hrest]
          simp only [newlines, List.count_cons, hc, Bool.false_eq_true, ↓reduceIte, Nat.add_zero]
      · have hrest := ih (k + 1)
        rw [show pos - (k + 1) = 0 by omega, List.take_zero] at hrest
        rw [show pos - k = 0 by omega, List.take_zero, lineStartsFrom]
        split
        · rw [List.takeWhile_cons, if_neg (by simp; omega)]
          rfl
        · exact hrest

theorem lineIn_lineStarts (s : List Char) (pos : Nat) : lineIn (lineStarts s) pos = lineAt s pos := by
  have h := takeWhile_lineStartsFrom 0 pos s
  rw [lineIn, lineStarts, List.takeWhile_cons, if_pos (by simp), List.length_cons, h, lineAt, Nat.sub_zero]

end EsqlAudit.Text
