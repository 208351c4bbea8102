import EsqlAudit.Proofs.Comment.Lines
import EsqlAudit.Proofs.Comment.Marks
import EsqlAudit.Report.Grading
import Mathlib.Data.List.Perm.Basic

/-!
# Where notes point

Every note points at the line of the text that it stands on, and the notes of one comment are on different lines.
In a text that is one block, the tagged lines of the block and the notes agree only if the marks `//` inside the
block make up for the lines that notes take.
-/

namespace EsqlAudit.Comment
open Text

/-! ## The lines of notes -/

/-- The note points at a line of the text: the line is there, it is the context of the note, and the tag stands on
it. -/
structure PointsAt (source : List Char) (t : Todo) : Prop where
  one_le : 1 ≤ t.line
  le_length : t.line ≤ (lines source).length
  context : (lines source)[t.line - 1]? = some t.context
  tag : ∃ w, w <:+: t.context ∧ IsTag w ∧ t.tag = String.ofList (upper w)

theorem context_of_mem {ls : List (List Char)} {c : Comment} {t : Todo} (ht : t ∈ todosOf ls c) :
    t.context = ls[t.line - 1]?.getD [] := by
  obtain ⟨o, -, rfl⟩ := List.mem_map.mp ht
  rfl

theorem pointsAt_of_mem {source : List Char} {t : Todo} (ht : t ∈ todos source) : PointsAt source t := by
  obtain ⟨c, hc, ht⟩ := List.mem_flatMap.mp ht
  have hcontext := context_of_mem ht
  have hheading : t.heading ∈ headings (linesOf c) := headings_todosOf (lines source) c ▸ List.mem_map_of_mem ht
  obtain ⟨l, hl, hfirst⟩ := List.mem_filterMap.mp hheading
  obtain ⟨i, htext, hnumber⟩ := mem_linesFrom (List.mem_filter.mp hl).1
  obtain ⟨hline, w, hw, htag, hupper⟩ := heading?_eq_some hfirst
  obtain ⟨u, rest, hsource, hstart⟩ := stands_of_mem_comments hc
  obtain ⟨whole, hwhole, hinfix⟩ := lines_infix u htext rest
  have hat : t.line = newlines u + i + 1 := by
    change t.line = l.line at hline
    omega
  rw [← hsource] at hwhole
  rw [hat, Nat.add_sub_cancel, hwhole, Option.getD_some] at hcontext
  have hlt := (List.getElem?_eq_some_iff.mp hwhole).1
  refine ⟨by omega, by omega, ?_, w, ?_, htag, hupper⟩
  · rw [hat, Nat.add_sub_cancel, hwhole, hcontext]
  · exact hcontext ▸ hw.trans hinfix

theorem pairwise_todosOf (ls : List (List Char)) (c : Comment) : (todosOf ls c).Pairwise (·.line < ·.line) := by
  have hheadings : (headings (linesOf c)).Pairwise (·.1 < ·.1) :=
    pairwise_heading? ((pairwise_linesFrom c.line false (lines c.text)).filter _)
  rwa [← headings_todosOf ls c, List.pairwise_map] at hheadings

/-! ## Priorities -/

theorem grouped_priorities (ts : List Todo) :
    grouped priorities (·.priority.name) ts = .ok ((byPriority ts).map fun g => (g.1.name, g.2)) := by
  have hforeseen : ∀ p : Priority, p.name ∈ priorities := by
    intro p
    cases p <;> decide
  have hsame : ∀ p q : Priority, (q == p) = (q.name == p.name) := by
    intro p q
    cases p <;> cases q <;> decide
  have hnone : ts.find? (fun t => !priorities.contains t.priority.name) = none := by
    rw [List.find?_eq_none]
    intro t _
    simp [hforeseen]
  rw [grouped, hnone, byPriority]
  simp only [hsame]
  rfl

theorem byPriority_perm (ts : List Todo) : ((byPriority ts).flatMap (·.2)).Perm ts := by
  induction ts with
  | nil => exact .nil
  | cons t ts ih =>
      simp only [byPriority, List.map_cons, List.map_nil, List.flatMap_cons, List.flatMap_nil, List.append_nil] at ih ⊢
      have hmiddle := ih.cons t
      cases hp : t.priority with
      | high => simpa [hp] using hmiddle
      | medium => simpa [hp] using List.perm_middle.trans hmiddle
      | low =>
          rw [← List.append_assoc] at hmiddle
          simpa [hp] using List.perm_middle.trans hmiddle

/-- Every note points at its line, and the notes of one comment are on lines further and further down. Each note
has a foreseen priority, so that grouping the notes by it cannot fail, and the groups are the notes, each once and
in order. -/
theorem todos_point_at_lines (source : List Char) :
    (∀ t ∈ todos source, PointsAt source t) ∧
    (∀ c ∈ comments source, (todosOf (lines source) c).Pairwise (·.line < ·.line)) ∧
    grouped priorities (·.priority.name) (todos source) =
      .ok ((byPriority (todos source)).map fun g => (g.1.name, g.2)) ∧
    ((byPriority (todos source)).flatMap (·.2)).Perm (todos source) ∧
    ∀ g ∈ byPriority (todos source), g.2.Sublist (todos source) ∧ ∀ t ∈ g.2, t.priority = g.1 := by
  refine ⟨fun t ht => pointsAt_of_mem ht, fun c _ => pairwise_todosOf (lines source) c, grouped_priorities _,
    byPriority_perm _, fun g hg => ?_⟩
  obtain ⟨p, -, rfl⟩ := List.mem_map.mp hg
  exact ⟨List.filter_sublist, fun t ht => by simpa using (List.mem_filter.mp ht).2⟩

example : (todos "x /* a\n todo: b */\n// WARN:".toList).map Todo.heading = [(2, "TODO"), (3, "WARN")] := by
  decide +kernel

/-! ## The notes of a text -/

theorem headings_linesOf {c : Comment} (hc : '\n' ∉ c.text) : headings (linesOf c) = (heading? c).toList := by
  rw [linesOf, lines_eq_singleton hc, linesFrom, headings_cons]
  simp [linesFrom, headings]

/-- The notes of a text: those of its block comments, and one for each line comment that has a tag. -/
theorem headings_todos (source : List Char) : (todos source).map Todo.heading =
    (found source blockPattern).flatMap (fun c => headings (linesOf c)) ++
      (lineComments 1 (lines source)).filterMap heading? := by
  have hone : ∀ c ∈ lineComments 1 (lines source), headings (linesOf c) = (heading? c).toList := by
    intro c hc
    obtain ⟨i, x, hx, hmark, -⟩ := mem_lineComments hc
    obtain ⟨v, rfl, -⟩ := append_of_afterMark?_eq_some hmark
    exact headings_linesOf fun h => newline_not_mem (List.mem_of_getElem? hx) (by simp [h])
  have hheadings : (todos source).map Todo.heading = (comments source).flatMap fun c => headings (linesOf c) := by
    rw [todos, List.map_flatMap]
    exact List.flatMap_congr fun c _ => headings_todosOf (lines source) c
  rw [hheadings, comments, List.flatMap_append, found_linePattern, List.filterMap_eq_flatMap_toList,
    List.flatMap_congr hone]

/-! ## The notes of a block -/

/-- The notes of lines together with further ones are those of all tagged lines if and only if the further ones
are those of the lines that are taken. -/
theorem perm_headings_iff {ls : List Line} {ms : List (Nat × String)} (hls : ls.Pairwise (·.line < ·.line))
    (hms : ms.Pairwise (·.1 < ·.1)) :
    (headings ls ++ ms).Perm (ls.filterMap (·.heading?)) ↔ ms = (ls.filter (·.isTaken)).filterMap (·.heading?) := by
  have hall : (headings ls ++ (ls.filter (·.isTaken)).filterMap (·.heading?)).Perm (ls.filterMap (·.heading?)) := by
    rw [headings, ← List.filterMap_append]
    exact (List.perm_append_comm.trans (List.filter_append_perm (·.isTaken) ls)).filterMap _
  constructor
  · intro h
    have hperm := (List.perm_append_left_iff _).mp (h.trans hall.symm)
    have htaken : ((ls.filter (·.isTaken)).filterMap (·.heading?)).Pairwise (·.1 < ·.1) :=
      pairwise_heading? (hls.filter _)
    exact hperm.eq_of_pairwise (fun _ _ _ _ hab hba => absurd hab (Nat.lt_asymm hba)) hms htaken
  · rintro rfl
    exact hall

/-- The notes of a text with one block are those of its tagged lines that no note takes, and those after the marks
`//`. So there is one note for each tagged line of the block, and no other, if and only if the notes after `//`
are those of the lines that are taken. -/
theorem todos_inBlock_iff {p c q : List Char} (hp : '/' ∉ p) (hc : ¬['*', '/'] <:+: c) (hq : '/' ∉ q) :
    (todos (inBlock p c q)).map Todo.heading = headings (linesOf ⟨c, newlines p + 1⟩) ++
        (lineComments 1 (lines (inBlock p c q))).filterMap heading? ∧
    (¬['/', '/'] <:+: c → lineComments 1 (lines (inBlock p c q)) = []) ∧
    (((todos (inBlock p c q)).map Todo.heading).Perm ((linesOf ⟨c, newlines p + 1⟩).filterMap (·.heading?)) ↔
      (lineComments 1 (lines (inBlock p c q))).filterMap heading? =
        ((linesOf ⟨c, newlines p + 1⟩).filter (·.isTaken)).filterMap (·.heading?)) := by
  have hnotes := headings_todos (inBlock p c q)
  rw [found_blockPattern hp hc hq, List.flatMap_singleton] at hnotes
  refine ⟨hnotes, fun hslashes => lineComments_eq_nil (mt (slashes_of_inBlock hp hq) hslashes) 1, ?_⟩
  rw [hnotes]
  exact perm_headings_iff (pairwise_linesFrom ..) (pairwise_heading? (pairwise_lineComments ..))

/-- The note on line 2 takes line 3, and the mark there makes up for it. -/
theorem todos_inBlock_iff_made_up :
    '/' ∉ "int x;\n".toList ∧ ¬['*', '/'] <:+: " TODO:\n // FIXME x\n BUG y ".toList ∧ '/' ∉ " z".toList ∧
    ((todos (inBlock "int x;\n".toList " TODO:\n // FIXME x\n BUG y ".toList " z".toList)).map Todo.heading).Perm
      [(2, "TODO"), (3, "FIXME"), (4, "BUG")] := by
  have hp : '/' ∉ "int x;\n".toList := by decide
  have hc : ¬['*', '/'] <:+: " TODO:\n // FIXME x\n BUG y ".toList := by decide +kernel
  have hq : '/' ∉ " z".toList := by decide
  have htagged : (linesOf ⟨" TODO:\n // FIXME x\n BUG y ".toList, newlines "int x;\n".toList + 1⟩).filterMap
      (·.heading?) = [(2, "TODO"), (3, "FIXME"), (4, "BUG")] := by decide +kernel
  exact ⟨hp, hc, hq, htagged ▸ (todos_inBlock_iff hp hc hq).2.2.mpr (by decide +kernel)⟩

/-- A tag after `//` makes two notes, and a tag on a line that is taken makes none. -/
theorem inBlock_repeats_and_misses :
    (todos (inBlock [] " see http://x TODO y ".toList [])).map Todo.heading = [(1, "TODO"), (1, "TODO")] ∧
    (linesOf ⟨" see http://x TODO y ".toList, 1⟩).filterMap (·.heading?) = [(1, "TODO")] ∧
    (todos (inBlock [] " TODO:\n FIXME x ".toList [])).map Todo.heading = [(1, "TODO")] ∧
    (linesOf ⟨" TODO:\n FIXME x ".toList, 1⟩).filterMap (·.heading?) = [(1, "TODO"), (2, "FIXME")] := by
  decide +kernel

end EsqlAudit.Comment
