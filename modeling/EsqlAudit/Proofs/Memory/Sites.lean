import EsqlAudit.Proofs.Memory.Findings

/-!
# Allocation sites

A text may give memory to one variable at several sites. Of these only the last is recorded, so a site is lost,
with all that would be reported about it, when a later one has the same variable.
-/

namespace EsqlAudit.Memory
open Text Examination

/-- A place where a variable is given memory. -/
structure Site where
  name : String
  line : Nat
  function : String
deriving DecidableEq

/-- The sites of a text, in its order. -/
def sites (source : List Char) : List Site :=
  (allocationPattern.findAll source).map fun o =>
    { name := String.ofList (o.groupText source 1)
      line := lineAt source o.span.start
      function := String.ofList (lower (o.groupText source 2)) }

/-- The last site of a variable. -/
def lastSite? (source : List Char) (name : String) : Option Site :=
  ((sites source).filter (·.name == name)).getLast?

/-- The site that an allocation records. -/
def Allocation.site (a : Allocation) : Site :=
  ⟨a.name, a.line, a.function⟩

variable {source : List Char}

/-! ## The recorded sites -/

theorem sites_eq (source : List Char) : sites source = (allocations source).map (·.site) := by
  rw [allocations, List.map_map]
  rfl

theorem names_sites (source : List Char) : (sites source).map (·.name) = (allocations source).map (·.name) := by
  rw [sites_eq, List.map_map]
  rfl

theorem lastSite?_eq (source : List Char) (name : String) :
    lastSite? source name = (((allocations source).filter (·.name == name)).getLast?).map (·.site) := by
  rw [lastSite?, sites_eq, List.filter_map, List.getLast?_map]
  rfl

theorem map_site_recorded (source : List Char) : (recorded source).map (·.site) = (latest source).map (·.site) := by
  rw [recorded, List.map_map, List.map_map]
  rfl

/-- Of each variable the last site is recorded, in the order in which the variables first come. -/
theorem recorded_eq (source : List Char) :
    (recorded source).map (·.site) = ((sites source).map (·.name)).eraseDups.filterMap (lastSite? source) := by
  rw [map_site_recorded, latest_eq, List.map_filterMap, names_sites]
  exact List.filterMap_congr fun name _ => (lastSite?_eq source name).symm

theorem recorded_eq_sites_iff (source : List Char) :
    (recorded source).map (·.site) = sites source ↔ ((sites source).map (·.name)).Nodup := by
  rw [names_sites, map_site_recorded]
  constructor
  · intro h
    have hnames := congrArg (List.map (·.name)) h
    rw [names_sites, List.map_map] at hnames
    rw [← hnames]
    exact (names_latest source) ▸ eraseDups_nodup _
  · intro h
    have hkeys : ((entries (allocations source)).map (·.1)).Nodup := by rwa [map_entries]
    rw [sites_eq, latest, Table.ofEntries_eq_self_iff.mpr hkeys, map_entries, List.map_id']

theorem lastSite?_of_mem {a : Allocation} (ha : a ∈ recorded source) : lastSite? source a.name = some a.site := by
  have hsite : a.site ∈ (recorded source).map (·.site) := List.mem_map_of_mem ha
  rw [recorded_eq] at hsite
  obtain ⟨name, -, hlast⟩ := List.mem_filterMap.mp hsite
  have hname : a.site.name = name := eq_of_beq (List.mem_filter.mp (List.mem_of_getLast? hlast)).2
  rwa [← hname] at hlast

theorem exists_of_lastSite? {s : Site} (h : lastSite? source s.name = some s) : ∃ a ∈ recorded source, a.site = s := by
  have hs : s ∈ sites source := (List.mem_filter.mp (List.mem_of_getLast? h)).1
  have hrecorded : s ∈ (recorded source).map (·.site) := by
    rw [recorded_eq]
    exact List.mem_filterMap.mpr ⟨s.name, List.mem_eraseDups.mpr (List.mem_map_of_mem hs), h⟩
  exact List.mem_map.mp hrecorded

/-! ## What is reported about a site -/

/-- The marks of a recorded allocation. -/
theorem marks_of_mem {a : Allocation} (ha : a ∈ recorded source) :
    a.isChecked = isChecked source a.name a.line ∧ a.isFreed = (frees source).any (·.name == a.name) ∧
      a.freeLine = (((frees source).filter (·.name == a.name)).getLast?).map (·.line) := by
  obtain ⟨b, hb, rfl⟩ := List.mem_map.mp ha
  obtain ⟨c, -, rfl⟩ := List.mem_map.mp hb
  exact ⟨rfl, rfl, rfl⟩

theorem isFreed_eq_false_iff {a : Allocation} (ha : a ∈ recorded source) :
    a.isFreed = false ↔ ∀ f ∈ frees source, f.name ≠ a.name := by
  rw [(marks_of_mem ha).2.1, List.any_eq_false]
  simp

/-- What a pass over the allocations would report about a site is reported if and only if the site is recorded. -/
theorem mem_flagged_iff {s : Site} {flag : Allocation → Bool} {p : String → String → Problem}
    (hp : ∀ {f n f' n'}, p f n = p f' n' → f = f' ∧ n = n')
    (hflag : ∀ a ∈ recorded source, a.site = s → flag a = true) :
    (s.line, p s.function s.name) ∈ ((recorded source).filter flag).map (fun a => (a.line, p a.function a.name)) ↔
      lastSite? source s.name = some s := by
  constructor
  · intro hs
    obtain ⟨a, ha, heq⟩ := List.mem_map.mp hs
    obtain ⟨hline, hproblem⟩ := Prod.mk.inj heq
    obtain ⟨hfunction, hname⟩ := hp hproblem
    have hsite : a.site = s := by
      rw [Allocation.site, hline, hfunction, hname]
    rw [← hname, ← hsite]
    exact lastSite?_of_mem (List.mem_filter.mp ha).1
  · intro hlast
    obtain ⟨a, ha, rfl⟩ := exists_of_lastSite? hlast
    exact List.mem_map.mpr ⟨a, List.mem_filter.mpr ⟨ha, hflag a ha rfl⟩, rfl⟩

theorem unchecked_site_iff {s : Site} (h : isChecked source s.name s.line = false) :
    (s.line, Problem.unchecked s.function s.name) ∈ (examine source).findings ["malloc_unchecked"] ↔
      lastSite? source s.name = some s := by
  rw [findings_unchecked]
  refine mem_flagged_iff Problem.unchecked.inj fun a ha hsite => ?_
  subst hsite
  have hflag : a.isChecked = false := (marks_of_mem ha).1.trans h
  rw [hflag]
  rfl

theorem unfreed_site_iff {s : Site} (h : ∀ f ∈ frees source, f.name ≠ s.name) :
    (s.line, Problem.unfreed s.function s.name) ∈ (examine source).findings ["malloc_no_free"] ↔
      lastSite? source s.name = some s := by
  rw [findings_unfreed]
  refine mem_flagged_iff Problem.unfreed.inj fun a ha hsite => ?_
  subst hsite
  have hflag : a.isFreed = false := (isFreed_eq_false_iff ha).mpr h
  rw [hflag]
  rfl

/-- The allocations record the last site of each variable. So each site is recorded, in the order of the text, if
and only if no variable is given memory twice, and a site that has no check or no call of `free` is reported if
and only if it is the last one of its variable. -/
theorem sites_recorded_iff (source : List Char) :
    (examine source).allocations.map (·.site) =
      ((sites source).map (·.name)).eraseDups.filterMap (lastSite? source) ∧
    ((examine source).allocations.map (·.site) = sites source ↔ ((sites source).map (·.name)).Nodup) ∧
    ∀ s ∈ sites source,
      (isChecked source s.name s.line = false →
        ((s.line, Problem.unchecked s.function s.name) ∈ (examine source).findings ["malloc_unchecked"] ↔
          lastSite? source s.name = some s)) ∧
      ((∀ f ∈ frees source, f.name ≠ s.name) →
        ((s.line, Problem.unfreed s.function s.name) ∈ (examine source).findings ["malloc_no_free"] ↔
          lastSite? source s.name = some s)) := by
  rw [allocations_examine]
  exact ⟨recorded_eq source, recorded_eq_sites_iff source, fun _ _ => ⟨unchecked_site_iff, unfreed_site_iff⟩⟩

/-- Two functions give memory to variables of one name: the first site is not recorded, and neither that it is not
checked nor that it is not freed is reported. -/
theorem first_site_lost :
    let source := "void f()\x7b\np=malloc(1);\n\x7d\nvoid g()\x7b\np=malloc(2);\n\x7d\n".toList
    sites source = [⟨"p", 2, "malloc"⟩, ⟨"p", 5, "malloc"⟩] ∧
      (examine source).allocations.map (·.site) = [⟨"p", 5, "malloc"⟩] ∧
      isChecked source "p" 2 = false ∧ frees source = [] ∧
      ((examine source).findings ["malloc_unchecked", "malloc_no_free"]).map (·.1) = [5, 5] := by
  decide +kernel

end EsqlAudit.Memory
