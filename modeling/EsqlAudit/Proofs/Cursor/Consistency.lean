import EsqlAudit.Proofs.Cursor.Reopening
import EsqlAudit.Proofs.Table
import EsqlAudit.Proofs.Text.Lines

/-!
# The figures of a cursor report

The cursors, the lines of their statements, the issues and their counts come from separate searches of one text.
They agree: each list of lines has one entry for each statement about the cursor, each kind of issue is reported
as often as its cause is found, and the counts are those of the issues.
-/

namespace EsqlAudit.Cursor
open Text

variable {source : List Char}

/-! ## Issues of a kind -/

/-- The issues of a kind. -/
def Result.ofKind (r : Result) (kind : String) : List Issue :=
  r.issues.filter (·.problem.kind == kind)

/-- The number of issues of a kind with a cursor. -/
def Result.countWith (r : Result) (cursor kind : String) : Nat :=
  (r.ofKind kind).countP (·.cursor == cursor)

theorem filter_kind {is : List Issue} {k : String} (h : ∀ i ∈ is, i.problem.kind = k) (kind : String) :
    is.filter (·.problem.kind == kind) = if k == kind then is else [] :=
  filter_eq_ite fun i hi => by rw [h i hi]

theorem forall_mem_flatMap {α : Type} {xs : List α} {f : α → List Issue} {k : String}
    (h : ∀ x, ∀ i ∈ f x, i.problem.kind = k) : ∀ i ∈ xs.flatMap f, i.problem.kind = k := by
  intro i hi
  obtain ⟨x, -, hi⟩ := List.mem_flatMap.mp hi
  exact h x i hi

theorem kind_of_mem_reopenedIssue {c : Cursor} {i : Issue} (h : i ∈ reopenedIssue c) :
    i.problem.kind = "reopen_no_close" := by
  rw [reopenedIssue] at h
  split at h
  · split at h
    · rw [List.mem_singleton.mp h]
      rfl
    · cases h
  · cases h

/-- Each kind of issue has one cause. -/
theorem ofKind_examine (source : List Char) (kind : String) : (examine source).ofKind kind =
    (cursors source).flatMap (fun c => (if "unclosed_cursor" == kind then unclosedIssue c else []) ++
      if "reopen_no_close" == kind then reopenedIssue c else []) ++
    (if "nested_cursor" == kind then (uses fetchPattern source).flatMap (nestedIssues source) else []) ++
    if "fetch_no_check" == kind then (uses fetchPattern source).flatMap (uncheckedIssue source) else [] := by
  have hcursors : ∀ c : Cursor, (unclosedIssue c ++ reopenedIssue c).filter (·.problem.kind == kind) =
      (if "unclosed_cursor" == kind then unclosedIssue c else []) ++
        if "reopen_no_close" == kind then reopenedIssue c else [] := by
    intro c
    rw [List.filter_append, filter_kind fun i hi => kind_of_mem_unclosedIssue hi,
      filter_kind fun i hi => kind_of_mem_reopenedIssue hi]
  rw [Result.ofKind, examine_eq, List.filter_append, List.filter_append, List.filter_flatMap,
    filter_kind (forall_mem_flatMap fun u i hi => kind_of_mem_nestedIssues hi),
    filter_kind (forall_mem_flatMap fun u i hi => kind_of_mem_uncheckedIssue hi)]
  simp only [hcursors]

/-! ## Issues with one cursor -/

theorem cursor_of_mem_unclosedIssue {c : Cursor} {i : Issue} (h : i ∈ unclosedIssue c) : i.cursor = c.name := by
  rw [unclosedIssue] at h
  split at h
  · rw [List.mem_singleton.mp h]
  · cases h

theorem countP_flatMap_cursor {cs : List Cursor} {c : Cursor} {f : Cursor → List Issue}
    (hf : ∀ c, ∀ i ∈ f c, i.cursor = c.name) (hnames : (cs.map (·.name)).Nodup) (hc : c ∈ cs) :
    (cs.flatMap f).countP (·.cursor == c.name) = (f c).length := by
  obtain ⟨before, after, rfl⟩ := List.append_of_mem hc
  -- Every issue has the name of the cursor that it comes from, and no other cursor has this one's name.
  have hnone : ∀ ds : List Cursor, (∀ d ∈ ds, d.name ≠ c.name) → (ds.flatMap f).countP (·.cursor == c.name) = 0 := by
    intro ds hds
    refine List.countP_eq_zero.mpr fun i hi => ?_
    obtain ⟨d, hd, hi⟩ := List.mem_flatMap.mp hi
    rw [hf d i hi, beq_iff_eq]
    exact hds d hd
  have hown : (f c).countP (·.cursor == c.name) = (f c).length := by
    refine List.countP_eq_length.mpr fun i hi => ?_
    rw [hf c i hi, beq_self_eq_true]
  rw [List.map_append, List.map_cons, List.nodup_append, List.nodup_cons] at hnames
  obtain ⟨-, ⟨hafter, -⟩, hbefore⟩ := hnames
  rw [List.flatMap_append, List.flatMap_cons, List.countP_append, List.countP_append, hown,
    hnone before fun d hd => hbefore d.name (List.mem_map_of_mem hd) c.name List.mem_cons_self,
    hnone after fun d hd hname => hafter (hname ▸ List.mem_map_of_mem hd)]
  omega

theorem length_unclosedIssue (c : Cursor) :
    (unclosedIssue c).length = if c.openLines ≠ [] ∧ c.closeLines = [] then 1 else 0 := by
  obtain ⟨name, declared, opens, fetches, closes⟩ := c
  cases opens <;> cases closes <;> simp [unclosedIssue]

theorem length_reopenedIssue (c : Cursor) :
    (reopenedIssue c).length = if c.closeLines.length < c.openLines.length then 1 else 0 := by
  rw [reopenedIssue]
  cases hlast : c.openLines.getLast? with
  | none => simp [List.getLast?_eq_none_iff.mp hlast]
  | some line =>
      dsimp only
      split <;> rfl

theorem names_cursors (source : List Char) : (cursors source).map (·.name) =
    ((queryDeclarations source ++ dynamicDeclarations source).map (·.1)).eraseDups := by
  have hkeys : (cursors source).map (·.name) = (declarations source).map (·.1) := by
    rw [cursors, List.map_map]
    rfl
  rw [hkeys, declarations, Table.keys_ofEntries]

theorem names_nodup (source : List Char) : ((cursors source).map (·.name)).Nodup := by
  rw [names_cursors]
  exact eraseDups_nodup _

theorem countWith_unclosed {c : Cursor} (hc : c ∈ cursors source) :
    (examine source).countWith c.name "unclosed_cursor" = if c.openLines ≠ [] ∧ c.closeLines = [] then 1 else 0 := by
  have hkind : (examine source).ofKind "unclosed_cursor" = (cursors source).flatMap unclosedIssue := by
    simp [ofKind_examine]
  rw [Result.countWith, hkind, countP_flatMap_cursor (fun _ _ hi => cursor_of_mem_unclosedIssue hi)
    (names_nodup source) hc, length_unclosedIssue]

theorem countWith_reopened {c : Cursor} (hc : c ∈ cursors source) :
    (examine source).countWith c.name "reopen_no_close" =
      if c.closeLines.length < c.openLines.length then 1 else 0 := by
  have hkind : (examine source).ofKind "reopen_no_close" = (cursors source).flatMap reopenedIssue := by
    simp [ofKind_examine]
  rw [Result.countWith, hkind, countP_flatMap_cursor (fun _ _ hi => (mem_reopenedIssue hi).1) (names_nodup source) hc,
    length_reopenedIssue]

/-! ## Lines -/

/-- The lines kept for a cursor: one for each statement about it that the pattern finds, in the order of the text,
each of them a line of the text. -/
structure Kept (source : List Char) (p : Pattern) (name : String) (ns : List Nat) : Prop where
  statements : ns =
    ((p.findAll source).filter fun o => lowered source o 1 == name).map fun o => lineAt source o.span.start
  ordered : ns.Pairwise (· ≤ ·)
  within : ∀ n ∈ ns, 1 ≤ n ∧ n ≤ (lines source).length

theorem kept_linesOf (source : List Char) (p : Pattern) (name : String) :
    Kept source p name (linesOf source (uses p source) name) := by
  have hstatements : linesOf source (uses p source) name =
      ((p.findAll source).filter fun o => lowered source o 1 == name).map fun o => lineAt source o.span.start := by
    rw [linesOf, uses, List.filter_map, List.map_map]
    rfl
  rw [hstatements]
  refine ⟨rfl, ?_, ?_⟩
  · have hordered := (Pattern.scans_findAll p source).ordered.filter fun o => lowered source o 1 == name
    exact List.pairwise_map.mpr (hordered.imp fun h => lineAt_mono source (Nat.le_of_lt h))
  · intro n hn
    obtain ⟨o, -, rfl⟩ := List.mem_map.mp hn
    exact lineAt_bounds source o.span.start

theorem lines_of_mem_cursors {c : Cursor} (hc : c ∈ cursors source) :
    Kept source openPattern c.name c.openLines ∧ Kept source fetchPattern c.name c.fetchLines ∧
      Kept source closePattern c.name c.closeLines := by
  obtain ⟨e, -, rfl⟩ := List.mem_map.mp hc
  exact ⟨kept_linesOf .., kept_linesOf .., kept_linesOf ..⟩

/-! ## Fetches -/

theorem uncheckedIssue_sublist (source : List Char) (fetch : Use) :
    ((uncheckedIssue source fetch).map fun i => (i.cursor, i.line)).Sublist
      [(fetch.cursor, lineAt source fetch.span.start)] := by
  rw [uncheckedIssue]
  split
  · exact List.Sublist.refl _
  · split
    · exact List.Sublist.refl _
    · exact List.nil_sublist _
  · exact List.nil_sublist _

theorem unchecked_sublist (source : List Char) :
    (((examine source).ofKind "fetch_no_check").map fun i => (i.cursor, i.line)).Sublist
      ((uses fetchPattern source).map fun u => (u.cursor, lineAt source u.span.start)) := by
  have hkind : (examine source).ofKind "fetch_no_check" =
      (uses fetchPattern source).flatMap (uncheckedIssue source) := by
    simp [ofKind_examine]
  rw [hkind]
  induction uses fetchPattern source with
  | nil => exact List.Sublist.refl _
  | cons fetch fetches ih =>
      rw [List.flatMap_cons, List.map_append, List.map_cons]
      exact (uncheckedIssue_sublist source fetch).append ih

/-- The number of openings of other cursors in the loop around a fetch. -/
def openingsAround (source : List Char) (fetch : Use) : Nat :=
  ((enclosingLoop? source fetch.span.start).map fun loop =>
    (uses openPattern (slice source loop.start loop.stop)).countP (·.cursor != fetch.cursor)).getD 0

theorem length_nestedIssues (source : List Char) (fetch : Use) :
    (nestedIssues source fetch).length = openingsAround source fetch := by
  rw [nestedIssues, openingsAround]
  cases enclosingLoop? source fetch.span.start with
  | none => rfl
  | some loop => simp [List.countP_eq_length_filter]

theorem nestedCount_examine (source : List Char) :
    (examine source).nestedCount = ((uses fetchPattern source).map (openingsAround source)).sum := by
  rw [examine_eq, List.length_flatMap]
  simp only [length_nestedIssues]

/-- The counter of nested cursors agrees with the issues about them. -/
theorem nestedCount_eq_length (source : List Char) :
    (examine source).nestedCount = ((examine source).ofKind "nested_cursor").length := by
  have hkind : (examine source).ofKind "nested_cursor" = (uses fetchPattern source).flatMap (nestedIssues source) := by
    simp [ofKind_examine]
  rw [hkind, examine_eq]

/-! ## Severities -/

theorem severity_eq_error_iff (p : Problem) : p.severity = .error ↔ p.kind = "nested_cursor" := by
  cases p <;> simp [Problem.severity, Problem.kind]

theorem countOf_error (r : Result) : r.countOf .error = (r.ofKind "nested_cursor").length := by
  rw [Result.countOf, Result.ofKind, ← List.countP_eq_length_filter]
  refine List.countP_congr fun i _ => ?_
  rw [beq_iff_eq, beq_iff_eq]
  exact severity_eq_error_iff i.problem

theorem severity_cases (i : Issue) : i.severity = .error ∨ i.severity = .warning ∨ i.severity = .info := by
  rw [Issue.severity]
  cases i.problem <;> simp [Problem.severity]

theorem severities_split (r : Result) : r.countOf .error + r.countOf .warning + r.countOf .info = r.issues.length := by
  obtain ⟨cs, issues, nested⟩ := r
  simp only [Result.countOf]
  induction issues with
  | nil => rfl
  | cons i issues ih =>
      simp only [List.countP_cons, List.length_cons]
      rcases severity_cases i with h | h | h
      · simp [h]; omega
      · simp [h]; omega
      · simp [h]; omega

theorem total_severities (r : Result) : (r.toRecord.members "issues_by_severity").total = r.issues.length := by
  refine (Record.total_ofNat [Severity.error, .warning, .info] (·.name) r.countOf).trans ?_
  rw [← severities_split r]
  simp [Nat.add_assoc]

/-! ## The report -/

/-- The parts of a report on the cursors of a text agree with the text and with one another. -/
structure Result.Consistent (source : List Char) (r : Result) : Prop where
  declared : r.cursors.map (·.name) = ((queryDeclarations source ++ dynamicDeclarations source).map (·.1)).eraseDups
  names : (r.cursors.map (·.name)).Nodup
  openings : ∀ c ∈ r.cursors, Kept source openPattern c.name c.openLines
  fetches : ∀ c ∈ r.cursors, Kept source fetchPattern c.name c.fetchLines
  closings : ∀ c ∈ r.cursors, Kept source closePattern c.name c.closeLines
  unclosed : ∀ c ∈ r.cursors,
    r.countWith c.name "unclosed_cursor" = if c.openLines ≠ [] ∧ c.closeLines = [] then 1 else 0
  reopened : ∀ c ∈ r.cursors, c.openLines ≠ [] → c.closeLines = [] → r.countWith c.name "reopen_no_close" = 1
  unchecked : ((r.ofKind "fetch_no_check").map fun i => (i.cursor, i.line)).Sublist
    ((fetchPattern.findAll source).map fun o => (lowered source o 1, lineAt source o.span.start))
  nested : r.nestedCount = (r.ofKind "nested_cursor").length ∧
    r.nestedCount = ((uses fetchPattern source).map (openingsAround source)).sum
  errors : (r.toRecord.members "issues_by_severity").int "error" 0 = r.nestedCount
  severities : (r.toRecord.members "issues_by_severity").total = r.issues.length

theorem mem_cursors_examine {c : Cursor} (h : c ∈ (examine source).cursors) : c ∈ cursors source := by
  rwa [examine_eq] at h

/-- The report on every text is consistent. -/
theorem examine_consistent (source : List Char) : (examine source).Consistent source where
  declared := by rw [examine_eq, names_cursors]
  names := by
    rw [examine_eq]
    exact names_nodup source
  openings c hc := (lines_of_mem_cursors (mem_cursors_examine hc)).1
  fetches c hc := (lines_of_mem_cursors (mem_cursors_examine hc)).2.1
  closings c hc := (lines_of_mem_cursors (mem_cursors_examine hc)).2.2
  unclosed c hc := countWith_unclosed (mem_cursors_examine hc)
  reopened c hc hopens hcloses := by
    have hlt : c.closeLines.length < c.openLines.length := by
      rw [hcloses]
      exact List.length_pos_iff.mpr hopens
    rw [countWith_reopened (mem_cursors_examine hc), if_pos hlt]
  unchecked := by
    have hsublist := unchecked_sublist source
    rwa [uses, List.map_map] at hsublist
  nested := ⟨nestedCount_eq_length source, nestedCount_examine source⟩
  errors := congrArg Nat.cast ((countOf_error (examine source)).trans (nestedCount_eq_length source).symm)
  severities := total_severities (examine source)

end EsqlAudit.Cursor
