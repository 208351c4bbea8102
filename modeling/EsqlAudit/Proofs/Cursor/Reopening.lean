import EsqlAudit.Cursor.Issue
import EsqlAudit.Proofs.Sql.Exec
import Mathlib.Data.List.Sort

/-!
# Reopened cursors

A cursor is reported as opened again without having been closed when it is opened more often than closed. What the
report is meant to tell is a matter of order: some opening follows another one with no closing between the two.
The two agree except for two kinds of courses, and both kinds are named here.
-/

namespace EsqlAudit.Cursor
open Text

/-! ## Courses -/

/-- What a statement does to a cursor. -/
inductive Move where
  | opens
  | closes
deriving DecidableEq, Repr

/-- The cursor is opened while an earlier opening has not been followed by a closing. -/
def Reopens (moves : List Move) : Prop :=
  ∃ a b c, moves = a ++ .opens :: (b ++ .opens :: c) ∧ .closes ∉ b

/-- Openings and closings take turns, from a first opening to a last one. -/
inductive Alternates : List Move → Prop where
  | last : Alternates [.opens]
  | turn {moves : List Move} : Alternates moves → Alternates (.opens :: .closes :: moves)

variable {m : Move} {moves : List Move}

/-- An opening right after another one is where a cursor is reopened. -/
theorem reopens_cons : Reopens (m :: moves) ↔ (m = .opens ∧ moves.head? = some .opens) ∨ Reopens moves := by
  constructor
  · rintro ⟨a, b, c, h, hb⟩
    cases a with
    | nil =>
        obtain ⟨rfl, rfl⟩ := List.cons.inj h
        cases b with
        | nil => exact .inl ⟨rfl, rfl⟩
        | cons d b =>
            cases d with
            | opens => exact .inl ⟨rfl, rfl⟩
            | closes => exact absurd List.mem_cons_self hb
    | cons d a =>
        obtain ⟨-, rfl⟩ := List.cons.inj h
        exact .inr ⟨a, b, c, rfl, hb⟩
  · rintro (⟨rfl, h⟩ | ⟨a, b, c, rfl, hb⟩)
    · obtain ⟨rest, rfl⟩ := List.head?_eq_some_iff.mp h
      exact ⟨[], [], rest, rfl, by simp⟩
    · exact ⟨m :: a, b, c, rfl, hb⟩

theorem not_reopens_nil : ¬ Reopens [] := by
  rintro ⟨a, b, c, h, -⟩
  simp at h

/-- A cursor that is not reopened is opened at most once more than it is closed, and only if it is opened first. -/
theorem count_opens_le (h : ¬ Reopens moves) : moves.count .opens ≤ moves.count .closes + 1 ∧
    (moves.head? ≠ some .opens → moves.count .opens ≤ moves.count .closes) := by
  induction moves with
  | nil => simp
  | cons m moves ih =>
      rw [reopens_cons, not_or] at h
      obtain ⟨hle, hfirst⟩ := ih h.2
      cases m with
      | opens =>
          have hnext := hfirst fun hhead => h.1 ⟨rfl, hhead⟩
          simp
          omega
      | closes =>
          simp
          omega

theorem Alternates.count {moves : List Move} (h : Alternates moves) : moves.count .closes < moves.count .opens := by
  induction h with
  | last => decide
  | turn _ ih => simpa using ih

theorem Alternates.not_reopens {moves : List Move} (h : Alternates moves) : ¬ Reopens moves := by
  induction h with
  | last => simp [reopens_cons, not_reopens_nil]
  | turn _ ih => simpa [reopens_cons] using ih

/-- Opened more often than closed and still never reopened: then openings and closings take turns. -/
theorem alternates_of_count : (moves : List Move) → moves.count .closes < moves.count .opens → ¬ Reopens moves →
    Alternates moves
  | [], hcount, _ => absurd hcount (by decide)
  | [.opens], _, _ => .last
  | .opens :: .opens :: _, _, h => absurd (reopens_cons.mpr (.inl ⟨rfl, rfl⟩)) h
  | .opens :: .closes :: moves, hcount, h => by
      have hrest : ¬ Reopens moves := fun hr => h (reopens_cons.mpr (.inr (reopens_cons.mpr (.inr hr))))
      exact .turn (alternates_of_count moves (by simpa using hcount) hrest)
  | .closes :: moves, hcount, h => by
      have hle := (count_opens_le h).2 (by simp)
      omega

/-! ## The moves of a text -/

/-- The statements that a pattern finds about a cursor, each with its position. -/
def movesBy (m : Move) (p : Pattern) (source : List Char) (name : String) : List (Nat × Move) :=
  ((uses p source).filter (·.cursor == name)).map fun u => (u.span.start, m)

/-- One move stands before another one, or at the same place. -/
def Precedes (a b : Nat × Move) : Prop :=
  a.1 ≤ b.1

instance (a b : Nat × Move) : Decidable (Precedes a b) :=
  inferInstanceAs (Decidable (a.1 ≤ b.1))

instance : Std.Total Precedes :=
  ⟨fun a b => Nat.le_total a.1 b.1⟩

instance : IsTrans (Nat × Move) Precedes :=
  ⟨fun _ _ _ => Nat.le_trans⟩

/-- The statements that open or close a cursor, in the order of the text. -/
def movesIn (source : List Char) (name : String) : List (Nat × Move) :=
  (movesBy .opens openPattern source name ++ movesBy .closes closePattern source name).insertionSort Precedes

/-- What becomes of a cursor, in the order of the text. -/
def course (source : List Char) (name : String) : List Move :=
  (movesIn source name).map (·.2)

variable {source : List Char} {name : String}

/-- A statement about a cursor starts with a head and its keyword. -/
theorem at?_namedStatement {k : String} {u x : List Char} {o : Occurrence}
    (h : (namedStatement k).at? (.between u x) = some o) :
    ∃ e v x', x = e ++ (v ++ x') ∧ Sql.ExecHead "SQL" e ∧ Spells k v := by
  obtain ⟨e, y, rfl, he, h⟩ := Sql.read_headed (q := .seq (.word k) (.seq .blanks1 (.seq (.group 1 .word1) .empty))) h
  obtain ⟨v, b, x', rfl, hv, -, -, -⟩ := Pattern.read_word_blanks1 h
  exact ⟨e, v, b ++ x', rfl, he, hv⟩

/-- No statement both opens and closes. -/
theorem open_ne_close {u x : List Char} {o o' : Occurrence} (ho : openPattern.at? (.between u x) = some o)
    (hc : closePattern.at? (.between u x) = some o') : False := by
  obtain ⟨e, v, y, rfl, he, hv⟩ := at?_namedStatement ho
  obtain ⟨e', v', y', heq, he', hv'⟩ := at?_namedStatement hc
  obtain ⟨c, w, rfl, hblank⟩ := hv.starts (by decide) (by decide)
  obtain ⟨c', w', rfl, hblank'⟩ := hv'.starts (by decide) (by decide)
  obtain ⟨-, hword⟩ := he.unique he' hblank hblank' heq
  obtain ⟨rfl, -⟩ := List.cons.inj hword
  -- The first letters of the two keywords are not the same in any case.
  have hopen : caseKey c = 'o' := (List.cons.inj hv).1
  have hclose : caseKey c = 'c' := (List.cons.inj hv').1
  rw [hopen] at hclose
  exact absurd hclose (by decide)

theorem movesBy_ordered (m : Move) (p : Pattern) : (movesBy m p source name).Pairwise fun a b => a.1 < b.1 := by
  have huses : (uses p source).Pairwise fun a b => a.span.start < b.span.start :=
    List.pairwise_map.mpr (Pattern.scans_findAll p source).ordered
  exact List.pairwise_map.mpr (huses.filter _)

theorem at?_of_mem_movesBy {m : Move} {p : Pattern} {a : Nat × Move} (h : a ∈ movesBy m p source name) :
    ∃ o, p.at? (.between (source.take a.1) (source.drop a.1)) = some o := by
  obtain ⟨u, hu, rfl⟩ := List.mem_map.mp h
  obtain ⟨o, ho, rfl⟩ := List.mem_map.mp (List.mem_filter.mp hu).1
  obtain ⟨v, w, t, rfl, -, hat, hspan⟩ := (Pattern.scans_findAll p source).mem ho
  exact ⟨o, by simpa [hspan] using hat⟩

theorem movesIn_perm (source : List Char) (name : String) : (movesIn source name).Perm
    (movesBy .opens openPattern source name ++ movesBy .closes closePattern source name) :=
  List.perm_insertionSort ..

/-- The moves stand in the order of the text, no two of them at one place. -/
theorem movesIn_ordered : (movesIn source name).Pairwise fun a b => a.1 < b.1 := by
  have hsorted : (movesIn source name).Pairwise Precedes := List.pairwise_insertionSort ..
  have hapart : (movesIn source name).Pairwise fun a b => a.1 ≠ b.1 := by
    refine ((movesIn_perm source name).pairwise_iff fun h => Ne.symm h).mpr (List.pairwise_append.mpr ⟨?_, ?_, ?_⟩)
    · exact (movesBy_ordered ..).imp fun h => Nat.ne_of_lt h
    · exact (movesBy_ordered ..).imp fun h => Nat.ne_of_lt h
    · intro a ha b hb hsame
      obtain ⟨o, ho⟩ := at?_of_mem_movesBy ha
      obtain ⟨o', ho'⟩ := at?_of_mem_movesBy hb
      rw [← hsame] at ho'
      exact open_ne_close ho ho'
  exact (hsorted.and hapart).imp fun h => Nat.lt_of_le_of_ne h.1 h.2

theorem map_movesBy (m : Move) (p : Pattern) (source : List Char) (name : String) :
    (movesBy m p source name).map (·.2) = List.replicate ((uses p source).filter (·.cursor == name)).length m := by
  rw [movesBy, List.map_map]
  exact List.map_const' ..

theorem count_course (source : List Char) (name : String) :
    (course source name).count .opens = ((uses openPattern source).filter (·.cursor == name)).length ∧
      (course source name).count .closes = ((uses closePattern source).filter (·.cursor == name)).length := by
  have hperm := (movesIn_perm source name).map (·.2)
  rw [List.map_append, map_movesBy, map_movesBy] at hperm
  simp [course, hperm.count_eq, List.count_replicate]

/-! ## The report -/

/-- The examination reports an issue of a kind with a cursor. -/
def Result.Reports (r : Result) (cursor kind : String) : Prop :=
  ∃ i ∈ r.issues, i.cursor = cursor ∧ i.problem.kind = kind

theorem mem_cursors {c : Cursor} (h : c ∈ cursors source) :
    c.openLines.length = (course source c.name).count .opens ∧
      c.closeLines.length = (course source c.name).count .closes := by
  obtain ⟨e, -, rfl⟩ := List.mem_map.mp h
  simp [linesOf, count_course]

theorem mem_reopenedIssue {c : Cursor} {i : Issue} (h : i ∈ reopenedIssue c) :
    i.cursor = c.name ∧ c.closeLines.length < c.openLines.length := by
  rw [reopenedIssue] at h
  split at h
  · split at h
    · rename_i hlt
      rw [List.mem_singleton.mp h]
      exact ⟨rfl, hlt⟩
    · cases h
  · cases h

theorem reopenedIssue_of_lt {c : Cursor} (h : c.closeLines.length < c.openLines.length) :
    ∃ i ∈ reopenedIssue c, i.cursor = c.name ∧ i.problem.kind = "reopen_no_close" := by
  cases hlast : c.openLines.getLast? with
  | none =>
      rw [List.getLast?_eq_none_iff.mp hlast] at h
      cases h
  | some line =>
      refine ⟨⟨c.name, line, .reopened c.openLines.length c.closeLines.length⟩, ?_, rfl, rfl⟩
      rw [reopenedIssue, hlast]
      simp only [h, if_true]
      exact List.mem_singleton_self _

theorem kind_of_mem_unclosedIssue {c : Cursor} {i : Issue} (h : i ∈ unclosedIssue c) :
    i.problem.kind = "unclosed_cursor" := by
  rw [unclosedIssue] at h
  split at h
  · rw [List.mem_singleton.mp h]
    rfl
  · cases h

theorem kind_of_mem_nestedIssues {fetch : Use} {i : Issue} (h : i ∈ nestedIssues source fetch) :
    i.problem.kind = "nested_cursor" := by
  rw [nestedIssues] at h
  split at h
  · cases h
  · obtain ⟨u, -, rfl⟩ := List.mem_map.mp h
    rfl

theorem kind_of_mem_uncheckedIssue {fetch : Use} {i : Issue} (h : i ∈ uncheckedIssue source fetch) :
    i.problem.kind = "fetch_no_check" := by
  rw [uncheckedIssue] at h
  split at h
  · rw [List.mem_singleton.mp h]
    rfl
  · split at h
    · rw [List.mem_singleton.mp h]
      rfl
    · cases h
  · cases h

/-- Each nested cursor is an issue and is counted once. -/
theorem foldl_addNested (is : List Issue) (r : Result) :
    is.foldl Result.addNested r = ⟨r.cursors, r.issues ++ is, r.nestedCount + is.length⟩ := by
  induction is generalizing r with
  | nil => rw [List.foldl_nil, List.append_nil, List.length_nil, Nat.add_zero]
  | cons i is ih =>
      rw [List.foldl_cons, ih, Result.addNested, List.append_assoc, List.singleton_append, List.length_cons,
        Nat.add_assoc, Nat.add_comm 1]

theorem examine_eq (source : List Char) : examine source =
    { cursors := cursors source
      issues := (cursors source).flatMap (fun c => unclosedIssue c ++ reopenedIssue c) ++
        (uses fetchPattern source).flatMap (nestedIssues source) ++
        (uses fetchPattern source).flatMap (uncheckedIssue source)
      nestedCount := ((uses fetchPattern source).flatMap (nestedIssues source)).length } := by
  rw [examine, foldl_addNested, Nat.zero_add]

/-- Only the comparison of the two counts reports a reopening. -/
theorem mem_issues_of_kind {i : Issue} (h : i ∈ (examine source).issues) (hkind : i.problem.kind = "reopen_no_close") :
    ∃ c ∈ cursors source, i ∈ reopenedIssue c := by
  rw [examine_eq] at h
  rcases List.mem_append.mp h with h | h
  · rcases List.mem_append.mp h with h | h
    · obtain ⟨c, hc, h⟩ := List.mem_flatMap.mp h
      rcases List.mem_append.mp h with h | h
      · rw [kind_of_mem_unclosedIssue h] at hkind
        exact absurd hkind (by decide)
      · exact ⟨c, hc, h⟩
    · obtain ⟨fetch, -, h⟩ := List.mem_flatMap.mp h
      rw [kind_of_mem_nestedIssues h] at hkind
      exact absurd hkind (by decide)
  · obtain ⟨fetch, -, h⟩ := List.mem_flatMap.mp h
    rw [kind_of_mem_uncheckedIssue h] at hkind
    exact absurd hkind (by decide)

theorem reports_iff (hname : name ∈ (examine source).cursors.map (·.name)) :
    (examine source).Reports name "reopen_no_close" ↔
      (course source name).count .closes < (course source name).count .opens := by
  rw [examine_eq] at hname
  constructor
  · rintro ⟨i, hi, rfl, hkind⟩
    obtain ⟨c, hc, hi⟩ := mem_issues_of_kind hi hkind
    obtain ⟨hcursor, hlt⟩ := mem_reopenedIssue hi
    obtain ⟨hopens, hcloses⟩ := mem_cursors hc
    rwa [hcursor, ← hopens, ← hcloses]
  · intro hlt
    obtain ⟨c, hc, rfl⟩ := List.mem_map.mp hname
    obtain ⟨hopens, hcloses⟩ := mem_cursors hc
    rw [← hopens, ← hcloses] at hlt
    obtain ⟨i, hi, hcursor, hkind⟩ := reopenedIssue_of_lt hlt
    refine ⟨i, ?_, hcursor, hkind⟩
    rw [examine_eq]
    exact List.mem_append_left _ (List.mem_append_left _ (List.mem_flatMap.mpr ⟨c, hc, List.mem_append_right _ hi⟩))

/-- A reopening of a declared cursor is reported if and only if the cursor is opened more often than closed. This
tells whether it is opened again without having been closed, in the order of the text, except for two kinds of
courses: a cursor whose openings and closings take turns up to a last opening is reported, and one that is
reopened but closed as often as opened is not. -/
theorem reopening_reported_iff (hname : name ∈ (examine source).cursors.map (·.name)) :
    ((movesIn source name).Pairwise fun a b => a.1 < b.1) ∧
    ((examine source).Reports name "reopen_no_close" ↔
      (course source name).count .closes < (course source name).count .opens) ∧
    (((examine source).Reports name "reopen_no_close" ↔ Reopens (course source name)) ↔
      ¬ Alternates (course source name) ∧
        (Reopens (course source name) → (course source name).count .closes < (course source name).count .opens)) := by
  refine ⟨movesIn_ordered, reports_iff hname, ?_⟩
  rw [reports_iff hname]
  constructor
  · intro h
    exact ⟨fun halt => halt.not_reopens (h.mp halt.count), h.mpr⟩
  · rintro ⟨hnot, hcounted⟩
    refine ⟨fun hlt => ?_, hcounted⟩
    exact Classical.not_not.mp fun hr => hnot (alternates_of_count _ hlt hr)

/-- The text declares a cursor `c`, and what follows are statements about it. -/
def aboutCursor (statements : List String) : List Char :=
  ("EXEC SQL DECLARE c CURSOR FOR SELECT 1;" :: statements.map fun s => "EXEC SQL " ++ s ++ " c;").flatMap String.toList

/-- Opened twice after a closing: reopened, and reported. -/
theorem reopening_reported_iff_twice :
    let source := aboutCursor ["OPEN", "CLOSE", "OPEN", "OPEN"]
    "c" ∈ (examine source).cursors.map (·.name) ∧
      ((examine source).Reports "c" "reopen_no_close" ↔ Reopens (course source "c")) := by
  intro source
  have hname : "c" ∈ (examine source).cursors.map (·.name) := by decide +kernel
  have hcourse : course source "c" = [.opens, .closes, .opens, .opens] := by decide +kernel
  obtain ⟨-, -, hiff⟩ := reopening_reported_iff hname
  rw [hcourse] at hiff ⊢
  refine ⟨hname, hiff.mpr ⟨fun halternates => ?_, fun _ => by decide⟩⟩
  exact halternates.not_reopens ⟨[.opens, .closes], [], [], rfl, by decide⟩

/-- A cursor opened once is reported as reopened, and one that is opened twice and then closed twice is not. -/
theorem reopening_misreported :
    ((examine (aboutCursor ["OPEN"])).Reports "c" "reopen_no_close" ∧ ¬ Reopens (course (aboutCursor ["OPEN"]) "c")) ∧
      ¬ (examine (aboutCursor ["OPEN", "OPEN", "CLOSE", "CLOSE"])).Reports "c" "reopen_no_close" ∧
        Reopens (course (aboutCursor ["OPEN", "OPEN", "CLOSE", "CLOSE"]) "c") := by
  have honce : course (aboutCursor ["OPEN"]) "c" = [.opens] := by decide +kernel
  have htwice : course (aboutCursor ["OPEN", "OPEN", "CLOSE", "CLOSE"]) "c" = [.opens, .opens, .closes, .closes] := by
    decide +kernel
  rw [reports_iff (by decide +kernel), reports_iff (by decide +kernel), honce, htwice]
  refine ⟨⟨by decide, Alternates.last.not_reopens⟩, by decide, ?_⟩
  exact ⟨[], [], [.closes, .closes], rfl, by decide⟩

end EsqlAudit.Cursor
