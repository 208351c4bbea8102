import EsqlAudit.Proofs.Memory.Windows

/-!
# Marks and issues of a memory report

The passes of an examination mark the allocations and report issues as they go, each on what the ones before it
have left. All the same the two agree: the issues of each kind are those that the marks call for, in the same
order, and every issue quotes the line of the text that it is on.
-/

namespace EsqlAudit.Memory
open Text

variable {source : List Char}

/-! ## Freed variables -/

/-- The two marks of a freed allocation are set together. -/
theorem isFreed_eq_isSome {a : Allocation} (ha : a ∈ recorded source) : a.isFreed = a.freeLine.isSome := by
  obtain ⟨-, hfreed, hline⟩ := marks_of_mem ha
  rw [hfreed, hline, Option.isSome_map, Examination.any_name]

/-- The line on which an allocation is freed is that of the last call of `free` for its variable. -/
theorem freeLine_of_mem {a : Allocation} (ha : a ∈ recorded source) : a.freeLine =
    (((freePattern.findAll source).filter fun o => subject source o == a.name).getLast?).map
      fun o => lineAt source o.span.start := by
  rw [(marks_of_mem ha).2.2, frees_eq, List.filter_map, List.getLast?_map, Option.map_map]
  rfl

theorem unreset_sublist (source : List Char) :
    (unreset source).Sublist ((freePattern.findAll source).map (unresetAt source)) := by
  rw [unreset_eq]
  exact List.filter_sublist.map _

/-! ## Lines -/

theorem line_of_mem_recorded {a : Allocation} (ha : a ∈ recorded source) : ∃ pos, a.line = lineAt source pos := by
  have hsite : a.site ∈ sites source := (List.mem_filter.mp (List.mem_of_getLast? (lastSite?_of_mem ha))).1
  obtain ⟨o, -, ho⟩ := List.mem_map.mp hsite
  exact ⟨o.span.start, congrArg Site.line ho.symm⟩

theorem line_of_mem_issues {i : Issue} (hi : i ∈ (examine source).issues) :
    (∃ pos, i.line = lineAt source pos) ∧ i.snippet = lineText source i.line := by
  rw [issues_examine] at hi
  obtain ⟨f, hf, rfl⟩ := List.mem_map.mp hi
  refine ⟨?_, rfl⟩
  -- One case for each pass: the line is that of an occurrence, or of an allocation, which records one.
  simp only [List.mem_append] at hf
  rcases hf with (((hf | hf) | hf) | hf) | hf
  · obtain ⟨o, -, rfl⟩ := List.mem_map.mp ((unreset_sublist source).subset hf)
    exact ⟨o.span.start, rfl⟩
  · obtain ⟨a, ha, rfl⟩ := List.mem_map.mp hf
    exact line_of_mem_recorded (List.mem_filter.mp ha).1
  · obtain ⟨c, hc, rfl⟩ := List.mem_map.mp hf
    obtain ⟨d, -, hc⟩ := List.mem_flatMap.mp hc
    obtain ⟨o, -, rfl⟩ := List.mem_map.mp hc
    exact ⟨o.span.start, rfl⟩
  · obtain ⟨p, hp, rfl⟩ := List.mem_map.mp hf
    obtain ⟨o, -, rfl⟩ := List.mem_map.mp hp
    exact ⟨o.span.start, rfl⟩
  · obtain ⟨a, ha, rfl⟩ := List.mem_map.mp hf
    exact line_of_mem_recorded (List.mem_filter.mp ha).1

theorem snippet_of_mem {i : Issue} (hi : i ∈ (examine source).issues) :
    1 ≤ i.line ∧ (lines source)[i.line - 1]? = some i.snippet := by
  obtain ⟨⟨pos, hpos⟩, hsnippet⟩ := line_of_mem_issues hi
  rw [hsnippet, hpos]
  exact ⟨(lineAt_bounds source pos).1, lines_lineAt source pos⟩

/-! ## The report -/

/-- The marks of the allocations, the dangerous calls and the issues agree with one another and with the text. -/
structure Result.Agrees (source : List Char) (r : Result) : Prop where
  recorded : r.allocations.map (·.site) = ((sites source).map (·.name)).eraseDups.filterMap (lastSite? source)
  names : (r.allocations.map (·.name)).Nodup
  unchecked : r.findings ["malloc_unchecked"] =
    (r.allocations.filter (!·.isChecked)).map fun a => (a.line, .unchecked a.function a.name)
  unfreed : r.findings ["malloc_no_free"] =
    (r.allocations.filter (!·.isFreed)).map fun a => (a.line, .unfreed a.function a.name)
  freed : ∀ a ∈ r.allocations, a.isFreed = a.freeLine.isSome
  freeLines : ∀ a ∈ r.allocations, a.freeLine =
    (((freePattern.findAll source).filter fun o => subject source o == a.name).getLast?).map
      fun o => lineAt source o.span.start
  unreset : (r.findings ["free_no_null"]).Sublist ((freePattern.findAll source).map (unresetAt source))
  calls : r.findings ["dangerous_function", "buffer_overflow"] = r.calls.map fun c => (c.line, .dangerous c.function)
  snippets : ∀ i ∈ r.issues, 1 ≤ i.line ∧ (lines source)[i.line - 1]? = some i.snippet

/-- The marks and the issues of the report on every text agree. -/
theorem examine_agrees (source : List Char) : (examine source).Agrees source where
  recorded := by rw [allocations_examine, recorded_eq]
  names := by
    have hnames : (Memory.recorded source).map (·.name) = (latest source).map (·.name) := by
      rw [Memory.recorded, List.map_map, List.map_map]
      rfl
    rw [allocations_examine, hnames, names_latest]
    exact eraseDups_nodup _
  unchecked := by rw [findings_unchecked, allocations_examine, Memory.unchecked]
  unfreed := by rw [findings_unfreed, allocations_examine, Memory.unfreed]
  freed _ ha := isFreed_eq_isSome (allocations_examine source ▸ ha)
  freeLines _ ha := freeLine_of_mem (allocations_examine source ▸ ha)
  unreset := by
    rw [findings_unreset]
    exact unreset_sublist source
  calls := findings_calls source
  snippets _ hi := snippet_of_mem hi

end EsqlAudit.Memory
