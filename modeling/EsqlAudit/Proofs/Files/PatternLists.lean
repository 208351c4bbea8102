import EsqlAudit.Files.Search
import EsqlAudit.Proofs.Text.Keyword
import EsqlAudit.Proofs.Text.Pieces
import EsqlAudit.Proofs.Text.Words
import Mathlib.Data.List.Forall2

/-!
# Lists of patterns

The patterns of a list are the pieces between its semicolons without the white space at their ends; pieces of
white space do not count. Such patterns, put together with semicolons, are read back as they are.
-/

namespace EsqlAudit.Text

/-! ## White space at the ends -/

/-- No white space stands at either end. -/
structure Tight (s : List Char) : Prop where
  starts : s.head?.any isBlank = false
  ends : s.getLast?.any isBlank = false

/-- A text and what is left of it without the white space at its ends. -/
inductive Strips : List Char → List Char → Prop where
  | mk {a p b} : Blanks a → Blanks b → Tight p → Strips (a ++ (p ++ b)) p

theorem stripLeft_spec (s : List Char) : ∃ a, Blanks a ∧ s = a ++ stripLeft s ∧
    (stripLeft s).head?.any isBlank = false :=
  ⟨s.takeWhile isBlank, fun _ hc => List.mem_takeWhile_imp hc, List.takeWhile_append_dropWhile.symm,
    head?_dropWhile_any isBlank s⟩

theorem stripRight_spec (s : List Char) :
    ∃ b, Blanks b ∧ s = stripRight s ++ b ∧ (stripRight s).getLast?.any isBlank = false := by
  obtain ⟨a, ha, hs, hstarts⟩ := stripLeft_spec s.reverse
  refine ⟨a.reverse, fun c hc => ha c (List.mem_reverse.mp hc), ?_, ?_⟩
  · rw [stripRight, ← List.reverse_append, ← stripLeft, ← hs, List.reverse_reverse]
  · rw [stripRight, List.getLast?_reverse]
    exact hstarts

theorem strips_strip (s : List Char) : Strips s (strip s) := by
  obtain ⟨a, ha, hs, hstarts⟩ := stripLeft_spec s
  obtain ⟨b, hb, hx, hends⟩ := stripRight_spec (stripLeft s)
  have htight : Tight (strip s) := by
    refine ⟨?_, hends⟩
    -- What is left starts as it did before its end was cut off.
    cases hp : strip s with
    | nil => rfl
    | cons c p =>
        rw [hx, show stripRight (stripLeft s) = c :: p from hp] at hstarts
        exact hstarts
  have hcut : s = a ++ (strip s ++ b) := by rw [strip, ← hx, ← hs]
  have hstrips := Strips.mk ha hb htight
  rwa [← hcut] at hstrips

theorem Tight.strip_eq {s : List Char} (h : Tight s) : strip s = s := by
  generalize hp : strip s = p
  have hstrips := strips_strip s
  rw [hp] at hstrips
  cases hstrips with
  | @mk a p b ha hb _ =>
      obtain rfl : a = [] := by
        cases a with
        | nil => rfl
        | cons c a => simpa [ha c List.mem_cons_self] using h.starts
      obtain rfl : b = [] := by
        rcases List.eq_nil_or_concat b with hnil | ⟨b', c, hc⟩
        · exact hnil
        · have hlast : isBlank c = true := hb c (by simp [hc])
          simpa [hc, hlast] using h.ends
      simp

end EsqlAudit.Text

namespace EsqlAudit.Files
open Text

/-! ## Reading a list -/

/-- A pattern as it stands in a list that was read. -/
structure NormalPattern (p : List Char) : Prop where
  nonempty : p ≠ []
  undivided : ';' ∉ p
  tight : Tight p

theorem normalPattern_defaultPattern : NormalPattern defaultPattern :=
  ⟨by decide, by decide, by decide, by decide⟩

theorem parsePatterns_eq (s : List Char) : parsePatterns s =
    if ((splitOn ';' s).map strip).filter (!·.isEmpty) = [] then [defaultPattern]
    else ((splitOn ';' s).map strip).filter (!·.isEmpty) := by
  rw [parsePatterns]
  cases ((splitOn ';' s).map strip).filter (!·.isEmpty) <;> rfl

theorem normalPattern_strip {s p : List Char} (h : p ∈ ((splitOn ';' s).map strip).filter (!·.isEmpty)) :
    NormalPattern p := by
  obtain ⟨hp, hne⟩ := List.mem_filter.mp h
  obtain ⟨piece, hpiece, rfl⟩ := List.mem_map.mp hp
  have hsemi := not_mem_of_mem_splitOn hpiece
  have hstrips := strips_strip piece
  generalize strip piece = p at hstrips hne
  cases hstrips with
  | @mk a p b _ _ htight => exact ⟨by simpa using hne, fun hmem => hsemi (by simp [hmem]), htight⟩

theorem parsePatterns_ne_nil (s : List Char) : parsePatterns s ≠ [] := by
  rw [parsePatterns_eq]
  split
  · exact List.cons_ne_nil _ _
  · assumption

theorem normalPattern_of_mem {s p : List Char} (h : p ∈ parsePatterns s) : NormalPattern p := by
  rw [parsePatterns_eq] at h
  split at h
  · rw [List.mem_singleton.mp h]
    exact normalPattern_defaultPattern
  · exact normalPattern_strip h

/-- Patterns in their normal form are read back from the list that they make. -/
theorem parsePatterns_joinWith {ps : List (List Char)} (hne : ps ≠ []) (h : ∀ p ∈ ps, NormalPattern p) :
    parsePatterns (joinWith [';'] ps) = ps := by
  have hstrip : ps.map strip = ps :=
    (List.map_congr_left fun p hp => (h p hp).tight.strip_eq).trans (List.map_id ps)
  have hkept : ps.filter (!·.isEmpty) = ps :=
    List.filter_eq_self.mpr fun p hp => by simpa using (h p hp).nonempty
  rw [parsePatterns_eq, splitOn_joinWith hne fun p hp => (h p hp).undivided, hstrip, hkept, if_neg hne]

/-- A list of patterns is read as patterns in their normal form, at least one. They are what is left of the pieces
between the semicolons without the white space at their ends, in their order and without the empty ones, or the
default if there are none. Written down with semicolons they are read again as they are. -/
theorem parsePatterns_normalized (s : List Char) :
    parsePatterns s ≠ [] ∧
    (∀ p ∈ parsePatterns s, p ≠ [] ∧ ';' ∉ p ∧ Tight p) ∧
    (∃ pieces stripped, pieces ≠ [] ∧ (∀ piece ∈ pieces, ';' ∉ piece) ∧ joinWith [';'] pieces = s ∧
      List.Forall₂ Strips pieces stripped ∧
      parsePatterns s =
        if stripped.filter (· ≠ []) = [] then ["*.pc".toList] else stripped.filter (· ≠ [])) ∧
    parsePatterns (joinWith [';'] (parsePatterns s)) = parsePatterns s := by
  refine ⟨parsePatterns_ne_nil s, fun p hp => ?_, ⟨splitOn ';' s, (splitOn ';' s).map strip, ?_, ?_, ?_, ?_, ?_⟩, ?_⟩
  · have hnormal := normalPattern_of_mem hp
    exact ⟨hnormal.nonempty, hnormal.undivided, hnormal.tight⟩
  · exact splitOn_ne_nil ';' s
  · exact fun piece => not_mem_of_mem_splitOn
  · exact joinWith_splitOn ';' s
  · exact List.forall₂_map_right_iff.mpr (List.forall₂_same.mpr fun piece _ => strips_strip piece)
  · have hsame : ((splitOn ';' s).map strip).filter (· ≠ []) = ((splitOn ';' s).map strip).filter (!·.isEmpty) :=
      List.filter_congr fun p _ => by cases p <;> rfl
    rw [hsame]
    exact parsePatterns_eq s
  · exact parsePatterns_joinWith (parsePatterns_ne_nil s) fun p => normalPattern_of_mem

/-- Patterns between white space, an empty piece and a piece of white space. -/
theorem parsePatterns_normalized_blanks :
    let s := " *.pc ;;\t; a b.*".toList
    "a b.*".toList ∈ parsePatterns s ∧ Tight "a b.*".toList ∧ parsePatterns s = ["*.pc".toList, "a b.*".toList] := by
  intro s
  have hread : parsePatterns s = ["*.pc".toList, "a b.*".toList] := by decide
  have hmem : "a b.*".toList ∈ parsePatterns s := by rw [hread]; exact List.mem_cons_of_mem _ List.mem_cons_self
  exact ⟨hmem, ((parsePatterns_normalized s).2.1 _ hmem).2.2, hread⟩

end EsqlAudit.Files
