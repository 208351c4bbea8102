import EsqlAudit.Proofs.Text.Lines
import EsqlAudit.Proofs.Text.Occurrences

/-!
# Replacing stretches of a text

`Cuts u t spans` says that the spans are stretches of `t`, in order and apart, when `t` stands after `u`.
Occurrences that are found make such cuts, and so do some of them. The text between the cuts is kept by a
splice, and each replacement stands where `insertions` says.
-/

namespace EsqlAudit.Text

/-- The spans are stretches of the text `t` after `u`, in order and apart. -/
inductive Cuts : List Char → List Char → List Span → Prop where
  | nil {u t} : Cuts u t []
  | cons {u v w t spans} : Cuts (u ++ v ++ w) t spans →
      Cuts u (v ++ (w ++ t)) (⟨(u ++ v).length, (u ++ v ++ w).length⟩ :: spans)

theorem Cuts.extend {u w t spans} (h : Cuts (u ++ w) t spans) : Cuts u (w ++ t) spans := by
  cases h with
  | nil => exact .nil
  | @cons _ v x t spans h =>
      have hrest : Cuts (u ++ (w ++ v) ++ x) t spans := by simpa using h
      simpa using Cuts.cons hrest

theorem Pattern.Scans.cuts {p : Pattern} {u t : List Char} {os : List Occurrence} (h : Scans p u t os)
    (keep : Occurrence → Bool) : Cuts u t ((os.filter keep).map (·.span)) := by
  induction h with
  | nil => exact .nil
  | @pass u t c os _ _ ih => exact Cuts.extend (w := [c]) ih
  | @take u w t o os _ _ hspan _ ih =>
      rw [List.filter_cons]
      split
      · rw [List.map_cons, hspan]
        have hcut := Cuts.cons (u := u) (v := []) (w := w) (t := t) (by simpa using ih)
        simpa using hcut
      · exact ih.extend

/-! ## Splicing along cuts -/

/-- Where each replacement stands in the spliced text, when the text read from position `pos` is written
from position `out` on. -/
def insertionsFrom (pos out : Nat) : List (Span × List Char) → List Nat
  | [] => []
  | (span, new) :: rest =>
    (out + (span.start - pos)) :: insertionsFrom span.stop (out + (span.start - pos) + new.length) rest

/-- Where each replacement stands in the spliced text. -/
def insertions (edits : List (Span × List Char)) : List Nat :=
  insertionsFrom 0 0 edits

theorem spliceFrom_cons (u v w t new : List Char) (edits : List (Span × List Char)) :
    spliceFrom u.length (v ++ (w ++ t)) ((⟨(u ++ v).length, (u ++ v ++ w).length⟩, new) :: edits) =
      v ++ (new ++ spliceFrom (u ++ v ++ w).length t edits) := by
  have hstart : (u ++ v).length - u.length = v.length := by simp
  have hstop : (u ++ v ++ w).length - u.length = (v ++ w).length := by simp
  rw [spliceFrom, hstart, hstop, List.take_left, ← List.append_assoc v w t, List.drop_left]
  simp

/-- What stands before the first cut is kept. -/
theorem Cuts.spliceFrom_append {u w t : List Char} {edits : List (Span × List Char)}
    (h : Cuts (u ++ w) t (edits.map (·.1))) :
    spliceFrom u.length (w ++ t) edits = w ++ spliceFrom (u ++ w).length t edits := by
  cases edits with
  | nil => rfl
  | cons e edits =>
      obtain ⟨span, new⟩ := e
      rw [List.map_cons] at h
      cases h with
      | @cons _ v x t _ _ =>
          have hcut := spliceFrom_cons u (w ++ v) x t new edits
          rw [spliceFrom_cons (u ++ w) v x t new edits]
          simpa using hcut

theorem insertionsFrom_cons (u v w out new : List Char) (edits : List (Span × List Char)) :
    insertionsFrom u.length out.length ((⟨(u ++ v).length, (u ++ v ++ w).length⟩, new) :: edits) =
      (out ++ v).length :: insertionsFrom (u ++ v ++ w).length (out ++ v ++ new).length edits := by
  simp [insertionsFrom, Nat.add_assoc]

theorem length_insertionsFrom (pos out : Nat) (edits : List (Span × List Char)) :
    (insertionsFrom pos out edits).length = edits.length := by
  induction edits generalizing pos out with
  | nil => rfl
  | cons e edits ih => simp [insertionsFrom, ih]

theorem le_of_mem_insertionsFrom {pos out k : Nat} {edits : List (Span × List Char)}
    (hk : k ∈ insertionsFrom pos out edits) : out ≤ k := by
  induction edits generalizing pos out with
  | nil => cases hk
  | cons e edits ih =>
      rcases List.mem_cons.mp hk with rfl | hk
      · omega
      · have := ih hk
        omega

theorem insertionsFrom_sorted (pos out : Nat) (edits : List (Span × List Char)) :
    (insertionsFrom pos out edits).Pairwise (· ≤ ·) := by
  induction edits generalizing pos out with
  | nil => exact .nil
  | cons e edits ih =>
      refine List.pairwise_cons.mpr ⟨fun k hk => ?_, ih _ _⟩
      have := le_of_mem_insertionsFrom hk
      omega

theorem slice_append (u w t : List Char) : slice (u ++ (w ++ t)) u.length (u ++ w).length = w := by
  simp [slice]

/-- Each replacement stands in the spliced text at its place. -/
theorem insertionsFrom_stands {edits : List (Span × List Char)} {u t out : List Char}
    (h : Cuts u t (edits.map (·.1))) {i k : Nat} {e : Span × List Char} (he : edits[i]? = some e)
    (hk : (insertionsFrom u.length out.length edits)[i]? = some k) :
    ∃ a b, out ++ spliceFrom u.length t edits = a ++ (e.2 ++ b) ∧ a.length = k := by
  induction edits generalizing u t out i with
  | nil => simp at he
  | cons e₀ edits ih =>
      obtain ⟨span, new⟩ := e₀
      rw [List.map_cons] at h
      cases h with
      | @cons _ v w t _ h =>
          rw [insertionsFrom_cons] at hk
          rw [spliceFrom_cons]
          cases i with
          | zero =>
              cases he
              cases hk
              exact ⟨out ++ v, spliceFrom (u ++ v ++ w).length t edits, by simp, rfl⟩
          | succ i =>
              obtain ⟨a, b, hab, hlen⟩ := ih h he hk
              exact ⟨a, b, by simpa using hab, hlen⟩

theorem insertions_stands {edits : List (Span × List Char)} {s : List Char} (h : Cuts [] s (edits.map (·.1)))
    {i k : Nat} {e : Span × List Char} (he : edits[i]? = some e) (hk : (insertions edits)[i]? = some k) :
    ∃ a b, splice s edits = a ++ (e.2 ++ b) ∧ a.length = k :=
  @insertionsFrom_stands edits [] s [] h i k e he hk

/-! ## Lines of replacements -/

/-- How many newlines the texts before each text hold, and `d` more. -/
def newlinesBefore (d : Nat) : List (List Char) → List Nat
  | [] => []
  | s :: rest => d :: newlinesBefore (d + newlines s) rest

theorem length_newlinesBefore (d : Nat) (texts : List (List Char)) :
    (newlinesBefore d texts).length = texts.length := by
  induction texts generalizing d with
  | nil => rfl
  | cons s texts ih => simp [newlinesBefore, ih]

theorem newlinesBefore_concat (d : Nat) (texts : List (List Char)) (s : List Char) :
    newlinesBefore d (texts ++ [s]) = newlinesBefore d texts ++ [d + newlines texts.flatten] := by
  induction texts generalizing d with
  | nil => rfl
  | cons s' texts ih =>
      simp only [List.cons_append, newlinesBefore, ih, List.flatten_cons, newlines_append, Nat.add_assoc]

theorem newlinesBefore_eq_replicate {texts : List (List Char)} (d : Nat)
    (h : ∀ s ∈ texts.dropLast, '\n' ∉ s) : newlinesBefore d texts = List.replicate texts.length d := by
  match texts with
  | [] => rfl
  | [_] => rfl
  | s :: s' :: texts =>
      have hs : newlines s = 0 := newlines_eq_zero_iff.mpr (h s (by simp))
      have hrest : newlinesBefore d (s' :: texts) = List.replicate (s' :: texts).length d :=
        newlinesBefore_eq_replicate d fun t ht => h t (by simp_all)
      rw [newlinesBefore, hs, Nat.add_zero, hrest]
      rfl

theorem zipWith_add_replicate_zero (lines : List Nat) :
    List.zipWith (· + ·) lines (List.replicate lines.length 0) = lines := by
  induction lines with
  | nil => rfl
  | cons l lines ih => rw [List.length_cons, List.replicate_succ, List.zipWith_cons_cons, ih, Nat.add_zero]

/-- Replacements without newlines stand as many lines too early as the stretches replaced before them hold
newlines. -/
theorem lineAt_insertionsFrom {edits : List (Span × List Char)} {u t out : List Char} {d : Nat}
    (h : Cuts u t (edits.map (·.1))) (hnew : ∀ e ∈ edits, '\n' ∉ e.2)
    (hd : newlines u = newlines out + d) :
    edits.map (fun e => lineAt (u ++ t) e.1.start) =
      List.zipWith (· + ·)
        ((insertionsFrom u.length out.length edits).map (lineAt (out ++ spliceFrom u.length t edits)))
        (newlinesBefore d (edits.map fun e => slice (u ++ t) e.1.start e.1.stop)) := by
  induction edits generalizing u t out d with
  | nil => rfl
  | cons e edits ih =>
      obtain ⟨span, new⟩ := e
      rw [List.map_cons] at h
      cases h with
      | @cons _ v w t _ h =>
          have hv : newlines new = 0 := newlines_eq_zero_iff.mpr (hnew (_, new) List.mem_cons_self)
          have hd' : newlines (u ++ v ++ w) = newlines (out ++ v ++ new) + (d + newlines w) := by
            simp only [newlines_append]
            omega
          have hrest := ih h (fun e he => hnew e (by simp [he])) hd'
          have hcut : u ++ (v ++ (w ++ t)) = u ++ v ++ w ++ t := by simp
          have hout : out ++ (v ++ (new ++ spliceFrom (u ++ v ++ w).length t edits)) =
              out ++ v ++ new ++ spliceFrom (u ++ v ++ w).length t edits := by simp
          have hline : lineAt (u ++ v ++ w ++ t) (u ++ v).length =
              lineAt (out ++ v ++ new ++ spliceFrom (u ++ v ++ w).length t edits) (out ++ v).length + d := by
            rw [List.append_assoc (u ++ v), lineAt_append, List.append_assoc (out ++ v), lineAt_append]
            simp only [newlines_append]
            omega
          have hslice : slice (u ++ v ++ w ++ t) (u ++ v).length (u ++ v ++ w).length = w := by
            rw [List.append_assoc (u ++ v), slice_append]
          simp only [List.map_cons, insertionsFrom_cons, spliceFrom_cons, hcut, hout, hline, hslice,
            newlinesBefore, List.zipWith_cons_cons]
          rw [hrest]

theorem lineAt_insertions {edits : List (Span × List Char)} {s : List Char} (h : Cuts [] s (edits.map (·.1)))
    (hnew : ∀ e ∈ edits, '\n' ∉ e.2) : edits.map (fun e => lineAt s e.1.start) =
      List.zipWith (· + ·) ((insertions edits).map (lineAt (splice s edits)))
        (newlinesBefore 0 (edits.map fun e => slice s e.1.start e.1.stop)) :=
  @lineAt_insertionsFrom edits [] s [] 0 h hnew rfl

end EsqlAudit.Text
