import EsqlAudit.Memory.Examination
import EsqlAudit.Proofs.Table
import Mathlib.Data.List.Nodup

/-!
# The passes of an examination of memory

An examination goes through a text six times. Each pass is a run of steps, and what it leaves is told by what it
starts with and what it goes through: one equation for a step, and by induction one for the run. The allocations
are changed entry by entry, so that after all passes each is the one that was recorded last under its variable,
with marks that the text alone decides.
-/

namespace EsqlAudit.Memory
open Text

/-- The issue about a problem on a line. -/
def issueAt (source : List Char) (f : Nat × Problem) : Issue :=
  ⟨f.1, f.2, lineText source f.1⟩

namespace Examination

variable {source : List Char}

/-! ## Allocations -/

theorem foldl_allocate (as : List Allocation) (x : Examination) : as.foldl allocate x =
    { x with allocations := as.foldl (fun t a => t.set a.name a) x.allocations } := by
  induction as generalizing x with
  | nil => rfl
  | cons a as ih => rw [List.foldl_cons, ih, allocate, List.foldl_cons]

/-! ## Calls of `free` -/

/-- The entry after some calls of `free`: the last one that names the variable counts. -/
def freedBy (fs : List Free) (e : String × Allocation) : String × Allocation :=
  match (fs.filter (·.name == e.1)).getLast? with
  | some f => (e.1, e.2.freedOn f.line)
  | none => e

theorem free_eq (x : Examination) (f : Free) : free source x f =
    { x with
      allocations := x.allocations.map (freedBy [f])
      issues := x.issues ++ if f.isReset then [] else [issueAt source (f.line, .notReset f.name)] } := by
  have hmarked : x.allocations.modify f.name (·.freedOn f.line) = x.allocations.map (freedBy [f]) := by
    refine List.map_congr_left fun e _ => ?_
    rw [freedBy, List.filter_singleton, BEq.comm (a := f.name)]
    cases hname : e.1 == f.name <;> simp [hname]
  rw [free, hmarked]
  cases f.isReset with
  | true => simp
  | false => rfl

theorem freedBy_cons (f : Free) (fs : List Free) (e : String × Allocation) :
    freedBy fs (freedBy [f] e) = freedBy (f :: fs) e := by
  cases hname : f.name == e.1 with
  | false =>
      have hkept : freedBy [f] e = e := by simp [freedBy, hname]
      rw [hkept, freedBy, freedBy, List.filter_cons_of_neg (by simp [hname])]
  | true =>
      -- A later call for the variable takes the place of this one.
      have hmarked : freedBy [f] e = (e.1, e.2.freedOn f.line) := by simp [freedBy, hname]
      have hcalls : (f :: fs).filter (·.name == e.1) = f :: fs.filter (·.name == e.1) := List.filter_cons_of_pos hname
      rw [hmarked, freedBy, freedBy, hcalls, List.getLast?_cons]
      cases (fs.filter (·.name == e.1)).getLast? <;> rfl

theorem foldl_free (fs : List Free) (x : Examination) : fs.foldl (free source) x =
    { x with
      allocations := x.allocations.map (freedBy fs)
      issues := x.issues ++
        ((fs.filter (!·.isReset)).map fun f => (f.line, Problem.notReset f.name)).map (issueAt source) } := by
  induction fs generalizing x with
  | nil =>
      have hentries : freedBy [] = id := rfl
      simp [hentries]
  | cons f fs ih =>
      have hentries : freedBy fs ∘ freedBy [f] = freedBy (f :: fs) := funext fun e => freedBy_cons f fs e
      rw [List.foldl_cons, ih, free_eq, List.map_map, hentries, List.filter_cons]
      cases f.isReset <;> simp

/-! ## Checks -/

/-- The entry after a search for checks of some entries. -/
def checkedAmong (source : List Char) (es : List (String × Allocation)) (e : String × Allocation) :
    String × Allocation :=
  (e.1, { e.2 with
    isChecked := e.2.isChecked || es.any fun e' => e'.1 == e.1 && Memory.isChecked source e'.1 e'.2.line })

theorem verify_eq (x : Examination) (e : String × Allocation) : verify source x e =
    { x with
      allocations := x.allocations.map (checkedAmong source [e])
      issues := x.issues ++ if Memory.isChecked source e.1 e.2.line then []
        else [issueAt source (e.2.line, .unchecked e.2.function e.1)] } := by
  rw [verify]
  cases hchecked : Memory.isChecked source e.1 e.2.line with
  | true =>
      have hmarked : x.allocations.modify e.1 (·.checked) = x.allocations.map (checkedAmong source [e]) := by
        refine List.map_congr_left fun d _ => ?_
        rw [checkedAmong, List.any_cons, List.any_nil, Bool.or_false, hchecked, Bool.and_true, BEq.comm (a := e.1)]
        cases hname : d.1 == e.1 <;> simp [hname, Allocation.checked]
      simp [hmarked]
  | false =>
      have hkept : x.allocations.map (checkedAmong source [e]) = x.allocations := by
        conv_rhs => rw [← List.map_id x.allocations]
        refine List.map_congr_left fun d _ => ?_
        simp [checkedAmong, hchecked]
      rw [hkept]
      rfl

theorem foldl_verify (es : List (String × Allocation)) (x : Examination) : es.foldl (verify source) x =
    { x with
      allocations := x.allocations.map (checkedAmong source es)
      issues := x.issues ++ ((es.filter fun e => !Memory.isChecked source e.1 e.2.line).map
        fun e => (e.2.line, Problem.unchecked e.2.function e.1)).map (issueAt source) } := by
  induction es generalizing x with
  | nil =>
      have hentries : checkedAmong source [] = id := by
        funext d
        simp [checkedAmong]
      simp [hentries]
  | cons e es ih =>
      have hentries : checkedAmong source es ∘ checkedAmong source [e] = checkedAmong source (e :: es) := by
        funext d
        simp [checkedAmong, Bool.or_assoc]
      rw [List.foldl_cons, ih, verify_eq, List.map_map, hentries, List.filter_cons]
      cases Memory.isChecked source e.1 e.2.line <;> simp

/-! ## Passes that only report -/

theorem foldl_call (cs : List Call) (x : Examination) : cs.foldl (call source) x =
    { x with
      issues := x.issues ++ (cs.map fun c => (c.line, Problem.dangerous c.function)).map (issueAt source)
      calls := x.calls ++ cs } := by
  induction cs generalizing x with
  | nil => simp
  | cons c cs ih =>
      rw [List.foldl_cons, ih]
      simp [call, report, issueAt]

theorem foldl_size (ss : List PointerSize) (x : Examination) : ss.foldl (size source) x =
    { x with issues := x.issues ++ (ss.map fun s => (s.line, Problem.pointerSize s.name)).map (issueAt source) } := by
  induction ss generalizing x with
  | nil => simp
  | cons s ss ih =>
      rw [List.foldl_cons, ih]
      simp [size, report, issueAt]

theorem foldl_leak (es : List (String × Allocation)) (x : Examination) : es.foldl (leak source) x =
    { x with
      issues := x.issues ++ ((es.filter (!·.2.isFreed)).map
        fun e => (e.2.line, Problem.unfreed e.2.function e.1)).map (issueAt source) } := by
  induction es generalizing x with
  | nil => simp
  | cons e es ih =>
      rw [List.foldl_cons, ih, List.filter_cons, leak]
      cases e.2.isFreed <;> simp [report, issueAt]

/-! ## The table after all passes -/

/-- Allocations under their variables. -/
def entries (as : List Allocation) : Table Allocation :=
  as.map fun a => (a.name, a)

theorem map_entries {β : Type} (f : String × Allocation → β) (as : List Allocation) :
    (entries as).map f = as.map fun a => f (a.name, a) :=
  List.map_map

/-- An allocation with the marks that calls of `free` give it. -/
def markFreed (fs : List Free) (a : Allocation) : Allocation :=
  { a with
    isFreed := fs.any (·.name == a.name)
    freeLine := ((fs.filter (·.name == a.name)).getLast?).map (·.line) }

/-- An allocation with the mark that its check gives it. -/
def markChecked (source : List Char) (a : Allocation) : Allocation :=
  { a with isChecked := Memory.isChecked source a.name a.line }

theorem any_name (fs : List Free) (name : String) :
    fs.any (·.name == name) = ((fs.filter (·.name == name)).getLast?).isSome := by
  rw [Bool.eq_iff_iff, List.any_eq_true, List.getLast?_isSome, ne_eq, List.filter_eq_nil_iff]
  simp

theorem freedBy_fresh {a : Allocation} (hfreed : a.isFreed = false) (hline : a.freeLine = none) (fs : List Free) :
    freedBy fs (a.name, a) = (a.name, markFreed fs a) := by
  obtain ⟨name, line, function, checked, freed, freeLine⟩ := a
  rw [freedBy, markFreed, any_name]
  dsimp only at hfreed hline ⊢
  cases (fs.filter (·.name == name)).getLast? with
  | none => rw [hfreed, hline]; rfl
  | some f => rfl

theorem map_freedBy {as : List Allocation} (h : ∀ a ∈ as, a.isFreed = false ∧ a.freeLine = none) (fs : List Free) :
    (entries as).map (freedBy fs) = entries (as.map (markFreed fs)) := by
  rw [map_entries, List.map_congr_left fun a ha => freedBy_fresh (h a ha).1 (h a ha).2 fs, entries, List.map_map]
  rfl

/-- An entry is marked as checked by its own check only, for no other entry has its name. -/
theorem any_own_check {as : List Allocation} (hnames : (as.map (·.name)).Nodup) {a : Allocation} (ha : a ∈ as) :
    ((entries as).any fun e => e.1 == a.name && Memory.isChecked source e.1 e.2.line) =
      Memory.isChecked source a.name a.line := by
  rw [entries, List.any_map, Bool.eq_iff_iff, List.any_eq_true]
  constructor
  · rintro ⟨b, hb, hchecked⟩
    rw [Function.comp_apply, Bool.and_eq_true, beq_iff_eq] at hchecked
    obtain rfl := List.inj_on_of_nodup_map hnames hb ha hchecked.1
    exact hchecked.2
  · intro hchecked
    exact ⟨a, ha, Bool.and_eq_true_iff.mpr ⟨beq_self_eq_true a.name, hchecked⟩⟩

theorem map_checkedAmong {as : List Allocation} (hnames : (as.map (·.name)).Nodup) (h : ∀ a ∈ as, a.isChecked = false) :
    (entries as).map (checkedAmong source (entries as)) = entries (as.map (markChecked source)) := by
  have hentry : ∀ a ∈ as, checkedAmong source (entries as) (a.name, a) = (a.name, markChecked source a) := by
    intro a ha
    rw [checkedAmong, any_own_check hnames ha, h a ha]
    rfl
  rw [map_entries, List.map_congr_left hentry, entries, List.map_map]
  rfl

end Examination

/-! ## The recorded allocations -/

open Examination

variable {source : List Char}

/-- Of the allocations to each variable the last one, as it is found. -/
def latest (source : List Char) : List Allocation :=
  (Table.ofEntries (entries (allocations source))).map (·.2)

/-- The allocations that are recorded, with all marks. -/
def recorded (source : List Char) : List Allocation :=
  ((latest source).map (markFreed (frees source))).map (markChecked source)

theorem getLast?_entries (as : List Allocation) (name : String) :
    ((entries as).filter (·.1 == name)).getLast? =
      ((as.filter (·.name == name)).getLast?).map fun a => (a.name, a) := by
  rw [entries, List.filter_map, List.getLast?_map]
  rfl

theorem latest_eq (source : List Char) : latest source =
    ((allocations source).map (·.name)).eraseDups.filterMap fun name =>
      ((allocations source).filter (·.name == name)).getLast? := by
  rw [latest, Table.ofEntries_eq, List.map_filterMap, map_entries]
  refine List.filterMap_congr fun name _ => ?_
  rw [getLast?_entries, Option.map_map]
  exact congrFun Option.map_id _

theorem getLast?_of_mem_latest {a : Allocation} (ha : a ∈ latest source) :
    ((allocations source).filter (·.name == a.name)).getLast? = some a := by
  rw [latest_eq] at ha
  obtain ⟨name, -, hlast⟩ := List.mem_filterMap.mp ha
  rwa [← eq_of_beq (List.mem_filter.mp (List.mem_of_getLast? hlast)).2] at hlast

theorem table_eq (source : List Char) : Table.ofEntries (entries (allocations source)) = entries (latest source) := by
  rw [Table.ofEntries_eq, latest_eq, entries.eq_def (List.filterMap _ _), List.map_filterMap, map_entries]
  exact List.filterMap_congr fun name _ => getLast?_entries (allocations source) name

theorem names_latest (source : List Char) :
    (latest source).map (·.name) = ((allocations source).map (·.name)).eraseDups := by
  have hkeys := Table.keys_ofEntries (entries (allocations source))
  rwa [table_eq, map_entries, map_entries] at hkeys

/-- No allocation has marks when it is found. -/
theorem fresh_of_mem_latest {a : Allocation} (ha : a ∈ latest source) :
    a.isChecked = false ∧ a.isFreed = false ∧ a.freeLine = none := by
  obtain ⟨o, -, rfl⟩ := List.mem_map.mp (List.mem_filter.mp (List.mem_of_getLast? (getLast?_of_mem_latest ha))).1
  exact ⟨rfl, rfl, rfl⟩

/-! ## The examination -/

/-- Variables that are freed and not set to `NULL`. -/
def unreset (source : List Char) : List (Nat × Problem) :=
  ((frees source).filter (!·.isReset)).map fun f => (f.line, .notReset f.name)

/-- Allocations that are not checked. -/
def unchecked (source : List Char) : List (Nat × Problem) :=
  ((recorded source).filter (!·.isChecked)).map fun a => (a.line, .unchecked a.function a.name)

/-- Calls of dangerous functions. -/
def called (source : List Char) : List (Nat × Problem) :=
  (dangerousCalls source).map fun c => (c.line, .dangerous c.function)

/-- Allocations of the size of a pointer. -/
def sized (source : List Char) : List (Nat × Problem) :=
  (pointerSizes source).map fun s => (s.line, .pointerSize s.name)

/-- Allocations that are not freed. -/
def unfreed (source : List Char) : List (Nat × Problem) :=
  ((recorded source).filter (!·.isFreed)).map fun a => (a.line, .unfreed a.function a.name)

theorem filter_unchecked (source : List Char) : ((entries ((latest source).map (markFreed (frees source)))).filter
    fun e => !isChecked source e.1 e.2.line).map (fun e => (e.2.line, Problem.unchecked e.2.function e.1)) =
      unchecked source := by
  simp only [unchecked, recorded, entries, List.filter_map, List.map_map]
  rfl

theorem filter_unfreed (source : List Char) : ((entries (recorded source)).filter (!·.2.isFreed)).map
    (fun e => (e.2.line, Problem.unfreed e.2.function e.1)) = unfreed source := by
  simp only [unfreed, entries, List.filter_map, List.map_map]
  rfl

/-- The passes one after the other: each goes through what the ones before it have left. -/
theorem ofText_eq (source : List Char) : ofText source =
    { allocations := entries (recorded source)
      issues := (unreset source ++ unchecked source ++ called source ++ sized source ++ unfreed source).map
        (issueAt source)
      calls := dangerousCalls source } := by
  have htable : (allocations source).foldl (fun (t : Table Allocation) a => t.set a.name a) [] =
      entries (latest source) := by
    rw [← table_eq, Table.ofEntries, entries.eq_def, List.foldl_map]
  have hfreed : ∀ a ∈ latest source, a.isFreed = false ∧ a.freeLine = none := fun a ha => (fresh_of_mem_latest ha).2
  have hnames : (((latest source).map (markFreed (frees source))).map (·.name)).Nodup := by
    have hsame : ((latest source).map (markFreed (frees source))).map (·.name) = (latest source).map (·.name) := by
      rw [List.map_map]
      rfl
    rw [hsame, names_latest]
    exact eraseDups_nodup _
  have hchecked : ∀ a ∈ (latest source).map (markFreed (frees source)), a.isChecked = false := by
    intro a ha
    obtain ⟨b, hb, rfl⟩ := List.mem_map.mp ha
    exact (fresh_of_mem_latest hb).1
  rw [ofText, foldl_allocate, htable, foldl_free, map_freedBy hfreed, foldl_verify, map_checkedAmong hnames hchecked,
    filter_unchecked, foldl_call, foldl_size, foldl_leak, ← recorded, filter_unfreed]
  simp only [List.nil_append, List.map_append]
  rfl

theorem allocations_examine (source : List Char) : (examine source).allocations = recorded source := by
  rw [examine, ofText_eq]
  exact (map_entries _ _).trans (List.map_id _)

theorem issues_examine (source : List Char) : (examine source).issues =
    (unreset source ++ unchecked source ++ called source ++ sized source ++ unfreed source).map (issueAt source) := by
  rw [examine, ofText_eq]

theorem calls_examine (source : List Char) : (examine source).calls = dangerousCalls source := by
  rw [examine, ofText_eq]

end EsqlAudit.Memory
