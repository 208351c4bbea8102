import EsqlAudit.Proofs.Memory.Passes

/-!
# Issues with memory by their kinds

Five passes over a text report issues with memory, each of them issues of its own kinds. What a pass finds is read
off the issues of these kinds, in the same order.
-/

namespace EsqlAudit.Memory
open Text

/-- The lines and the problems of the issues of some kinds. -/
def Result.findings (r : Result) (kinds : List String) : List (Nat × Problem) :=
  (r.issues.filter fun i => kinds.contains i.problem.kind).map fun i => (i.line, i.problem)

theorem kind_of_mem_called {source : List Char} {f : Nat × Problem} (h : f ∈ called source) :
    f.2.kind = "buffer_overflow" ∨ f.2.kind = "dangerous_function" := by
  obtain ⟨c, -, rfl⟩ := List.mem_map.mp h
  dsimp only [Problem.kind]
  split
  · exact .inl rfl
  · exact .inr rfl

theorem contains_kind {α : Type} {xs : List α} {line : α → Nat} {p : α → Problem} {k : String} (kinds : List String)
    (hp : ∀ x, (p x).kind = k) : ∀ f ∈ xs.map (fun x => (line x, p x)), kinds.contains f.2.kind = kinds.contains k := by
  intro f hf
  obtain ⟨x, -, rfl⟩ := List.mem_map.mp hf
  rw [hp x]

/-- Each pass gives the issues of its own kinds, where the two kinds of dangerous calls are taken together. -/
theorem findings_examine (source : List Char) (kinds : List String) {b : Bool}
    (hcritical : kinds.contains "buffer_overflow" = b) (hother : kinds.contains "dangerous_function" = b) :
    (examine source).findings kinds =
      (if kinds.contains "free_no_null" then unreset source else []) ++
      (if kinds.contains "malloc_unchecked" then unchecked source else []) ++
      (if b then called source else []) ++
      (if kinds.contains "sizeof_pointer" then sized source else []) ++
      (if kinds.contains "malloc_no_free" then unfreed source else []) := by
  have hall : (examine source).findings kinds =
      (unreset source ++ unchecked source ++ called source ++ sized source ++ unfreed source).filter
        fun f => kinds.contains f.2.kind := by
    rw [Result.findings, issues_examine, List.filter_map, List.map_map]
    exact List.map_id _
  have hunreset : ∀ f ∈ unreset source, kinds.contains f.2.kind = kinds.contains "free_no_null" :=
    contains_kind kinds fun _ => rfl
  have hunchecked : ∀ f ∈ unchecked source, kinds.contains f.2.kind = kinds.contains "malloc_unchecked" :=
    contains_kind kinds fun _ => rfl
  have hcalled : ∀ f ∈ called source, kinds.contains f.2.kind = b := by
    intro f hf
    rcases kind_of_mem_called hf with hkind | hkind
    · rwa [hkind]
    · rwa [hkind]
  have hsized : ∀ f ∈ sized source, kinds.contains f.2.kind = kinds.contains "sizeof_pointer" :=
    contains_kind kinds fun _ => rfl
  have hunfreed : ∀ f ∈ unfreed source, kinds.contains f.2.kind = kinds.contains "malloc_no_free" :=
    contains_kind kinds fun _ => rfl
  rw [hall, List.filter_append, List.filter_append, List.filter_append, List.filter_append, filter_eq_ite hunreset,
    filter_eq_ite hunchecked, filter_eq_ite hcalled, filter_eq_ite hsized, filter_eq_ite hunfreed]

theorem findings_unreset (source : List Char) : (examine source).findings ["free_no_null"] = unreset source := by
  rw [findings_examine source ["free_no_null"] (b := false) (by decide) (by decide)]
  simp

theorem findings_unchecked (source : List Char) :
    (examine source).findings ["malloc_unchecked"] = unchecked source := by
  rw [findings_examine source ["malloc_unchecked"] (b := false) (by decide) (by decide)]
  simp

/-- Each dangerous call is an issue, in the same order. -/
theorem findings_calls (source : List Char) : (examine source).findings ["dangerous_function", "buffer_overflow"] =
    (examine source).calls.map fun c => (c.line, .dangerous c.function) := by
  rw [findings_examine source ["dangerous_function", "buffer_overflow"] (b := true) (by decide) (by decide),
    calls_examine]
  simp [called]

theorem findings_unfreed (source : List Char) : (examine source).findings ["malloc_no_free"] = unfreed source := by
  rw [findings_examine source ["malloc_no_free"] (b := false) (by decide) (by decide)]
  simp

end EsqlAudit.Memory
