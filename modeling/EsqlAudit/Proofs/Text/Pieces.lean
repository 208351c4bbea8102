import EsqlAudit.Text.Basic

/-!
# Pieces between separators

Splitting a text at a separator and joining pieces are `List.splitOn` and `List.intercalate`. The pieces of a text
are the only ones without the separator that make the text when they are joined.
-/

namespace EsqlAudit.Text

variable {sep : Char} {s : List Char}

theorem splitOn_self (sep : Char) (s : List Char) : splitOn sep (sep :: s) = [] :: splitOn sep s := by
  simp [splitOn, splitStep]

theorem splitOn_eq (sep : Char) (s : List Char) : splitOn sep s = s.splitOn sep := by
  induction s with
  | nil => exact (List.splitOn_nil sep).symm
  | cons c s ih =>
      have hstep : splitOn sep (c :: s) = splitStep sep c (splitOn sep s) := rfl
      obtain ⟨piece, rest, hs⟩ := List.exists_cons_of_ne_nil (List.splitOn_ne_nil sep s)
      have hcons : (c :: s).splitOn sep =
          if c == sep then [] :: s.splitOn sep else (s.splitOn sep).modifyHead (c :: ·) :=
        List.splitOnP_cons_eq_if_modifyHead c s
      rw [hstep, ih, hcons, hs]
      rfl

theorem splitOn_ne_nil (sep : Char) (s : List Char) : splitOn sep s ≠ [] := by
  rw [splitOn_eq]
  exact List.splitOn_ne_nil sep s

theorem splitOn_cons {c : Char} (h : c ≠ sep) (s : List Char) :
    ∃ piece rest, splitOn sep s = piece :: rest ∧ splitOn sep (c :: s) = (c :: piece) :: rest := by
  obtain ⟨piece, rest, hs⟩ := List.exists_cons_of_ne_nil (splitOn_ne_nil sep s)
  have hstep : splitOn sep (c :: s) = splitStep sep c (splitOn sep s) := rfl
  refine ⟨piece, rest, hs, ?_⟩
  rw [hstep, hs]
  simp [splitStep, h]

theorem splitOn_eq_singleton (h : sep ∉ s) : splitOn sep s = [s] := by
  rw [splitOn_eq]
  exact List.splitOn_eq_singleton h

theorem not_mem_of_mem_splitOn {piece : List Char} (h : piece ∈ splitOn sep s) : sep ∉ piece := by
  induction s generalizing piece with
  | nil =>
      obtain rfl : piece = [] := List.mem_singleton.mp h
      exact List.not_mem_nil
  | cons c s ih =>
      by_cases hc : c = sep
      · subst hc
        rw [splitOn_self] at h
        rcases List.mem_cons.mp h with rfl | h
        · exact List.not_mem_nil
        · exact ih h
      · obtain ⟨first, rest, hs, hcons⟩ := splitOn_cons hc s
        rw [hs] at ih
        rw [hcons] at h
        rcases List.mem_cons.mp h with rfl | h
        · simpa [Ne.symm hc] using ih List.mem_cons_self
        · exact ih (List.mem_cons_of_mem first h)

theorem joinWith_eq_intercalate (sep : List Char) (pieces : List (List Char)) :
    joinWith sep pieces = sep.intercalate pieces := by
  match pieces with
  | [] => rfl
  | [s] => simp [joinWith]
  | s :: s' :: pieces =>
      rw [joinWith, joinWith_eq_intercalate sep (s' :: pieces), List.intercalate_cons_cons]
      simp

theorem joinWith_splitOn (sep : Char) (s : List Char) : joinWith [sep] (splitOn sep s) = s := by
  rw [joinWith_eq_intercalate, splitOn_eq, List.intercalate_splitOn]

theorem splitOn_joinWith {pieces : List (List Char)} (hne : pieces ≠ []) (h : ∀ piece ∈ pieces, sep ∉ piece) :
    splitOn sep (joinWith [sep] pieces) = pieces := by
  rw [joinWith_eq_intercalate, splitOn_eq, List.splitOn_intercalate sep h hne]

end EsqlAudit.Text
