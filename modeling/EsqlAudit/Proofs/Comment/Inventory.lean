import EsqlAudit.Comment.Inventory
import EsqlAudit.Proofs.Table
import Mathlib.Data.List.Nodup

/-!
# The two indexes of an inventory

An inventory lists its modules by file and by directory. By file it keeps the last module of each path, by
directory every module that was added, so the two agree if and only if no path was added twice.
-/

namespace EsqlAudit.Comment.Inventory

/-- The inventory to which the modules were added one after the other. -/
def ofModules (ms : List Module) : Inventory :=
  ms.foldl add empty

/-- The modules by directory, each with the name it is listed under. -/
def byDirectory (i : Inventory) : List (String × Module) :=
  i.directories.listed

/-- The modules by directory are the modules by file, each once and under its own directory. -/
structure Agree (i : Inventory) : Prop where
  once : (i.byDirectory.map (·.2)).Nodup
  same : ∀ m, m ∈ i.byDirectory.map (·.2) ↔ m ∈ i.modules.map (·.2)
  own : ∀ e ∈ i.byDirectory, e.1 = directoryOf e.2

/-! ## What adding keeps -/

/-- What the indexes hold after the modules were added. -/
structure Holds (i : Inventory) (ms : List Module) : Prop where
  paths : i.modules.map (·.1) = (ms.map (·.filepath)).eraseDups
  latest : ∀ path, i.modules.lookup path = (ms.filter (·.filepath == path)).getLast?
  names : i.directories.map (·.1) = (ms.map directoryOf).eraseDups
  members : ∀ d, (i.directories.lookup d).getD [] = ms.filter (directoryOf · == d)
  listing : i.byDirectory.Perm (ms.map fun m => (directoryOf m, m))

variable {i : Inventory} {ms : List Module}

theorem holds_empty : Holds empty [] :=
  ⟨rfl, fun _ => rfl, rfl, fun _ => rfl, .nil⟩

theorem Holds.add (h : Holds i ms) (m : Module) : Holds (i.add m) (ms ++ [m]) := by
  have hdirectories : (i.directories.map (·.1)).Nodup := h.names ▸ eraseDups_nodup _
  refine ⟨?_, fun path => ?_, ?_, fun d => ?_, ?_⟩
  · rw [List.map_append, List.map_singleton]
    exact Table.keys_update_eraseDups h.paths m.filepath fun _ => m
  · rw [Inventory.add, Table.set, Table.lookup_update, h.latest, List.filter_append, List.filter_singleton]
    by_cases hpath : path = m.filepath
    · simp [hpath]
    · simp [beq_false_of_ne hpath, beq_false_of_ne (Ne.symm hpath)]
  · rw [List.map_append, List.map_singleton]
    exact Table.keys_update_eraseDups h.names (directoryOf m) fun items => items.getD [] ++ [m]
  · rw [Inventory.add, Table.lookup_update, List.filter_append, List.filter_singleton]
    by_cases hd : d = directoryOf m
    · simp [hd, h.members]
    · simp [beq_false_of_ne hd, beq_false_of_ne (Ne.symm hd), h.members]
  · rw [List.map_append]
    exact (Table.listed_update i.directories (directoryOf m) m hdirectories).trans (h.listing.append_right _)

theorem holds_ofModules (ms : List Module) : Holds (ofModules ms) ms := by
  suffices hrun : ∀ i seen, Holds i seen → Holds (ms.foldl Inventory.add i) (seen ++ ms) from
    hrun empty [] holds_empty
  induction ms with
  | nil =>
      intro i seen h
      rwa [List.append_nil]
  | cons m ms ih =>
      intro i seen h
      have hrest := ih (i.add m) (seen ++ [m]) (h.add m)
      rwa [List.append_assoc, List.singleton_append] at hrest

/-! ## When the indexes agree -/

theorem Holds.perm (h : Holds i ms) : (i.byDirectory.map (·.2)).Perm ms := by
  have hperm := h.listing.map (·.2)
  rwa [List.map_map, show (fun e : String × Module => e.2) ∘ (fun m => (directoryOf m, m)) = id from rfl,
    List.map_id] at hperm

/-- A module by file was added, and stands under its own path. -/
theorem Holds.entry (h : Holds i ms) {e : String × Module} (he : e ∈ i.modules) : e.2 ∈ ms ∧ e.2.filepath = e.1 := by
  have hkeys : (i.modules.map (·.1)).Nodup := h.paths ▸ eraseDups_nodup _
  have hlast := Table.lookup_of_mem hkeys he
  rw [h.latest] at hlast
  obtain ⟨hmem, hpath⟩ := List.mem_filter.mp (List.mem_of_getLast? hlast)
  exact ⟨hmem, eq_of_beq hpath⟩

theorem Holds.modules_nodup (h : Holds i ms) : (i.modules.map (·.2)).Nodup := by
  have hpaths : (i.modules.map (·.2)).map (·.filepath) = i.modules.map (·.1) := by
    rw [List.map_map]
    exact List.map_congr_left fun e he => (h.entry he).2
  refine List.Nodup.of_map (·.filepath) ?_
  rw [hpaths, h.paths]
  exact eraseDups_nodup _

/-- A module whose path was added once is the module of that path. -/
theorem Holds.mem_modules (h : Holds i ms) (hpaths : (ms.map (·.filepath)).Nodup) {m : Module} :
    m ∈ ms ↔ m ∈ i.modules.map (·.2) := by
  constructor
  · intro hm
    have hne : ms.filter (·.filepath == m.filepath) ≠ [] :=
      List.ne_nil_of_mem (List.mem_filter.mpr ⟨hm, beq_self_eq_true _⟩)
    have hlast := List.getLast?_eq_some_getLast hne
    rw [← h.latest] at hlast
    have hentry := Table.mem_of_lookup hlast
    obtain ⟨hmem, hpath⟩ := h.entry hentry
    exact List.mem_map.mpr ⟨_, hentry, List.inj_on_of_nodup_map hpaths hmem hm hpath⟩
  · intro hm
    obtain ⟨e, he, rfl⟩ := List.mem_map.mp hm
    exact (h.entry he).1

theorem Holds.length_modules (h : Holds i ms) : i.modules.length = (ms.map (·.filepath)).eraseDups.length := by
  rw [← h.paths, List.length_map]

theorem Holds.agree_iff (h : Holds i ms) : i.Agree ↔ (ms.map (·.filepath)).Nodup := by
  constructor
  · intro hagree
    have hperm : (i.byDirectory.map (·.2)).Perm (i.modules.map (·.2)) :=
      (List.perm_ext_iff_of_nodup hagree.once h.modules_nodup).mpr hagree.same
    have hlength := hperm.length_eq.symm.trans h.perm.length_eq
    rw [List.length_map, h.length_modules] at hlength
    exact length_eraseDups_eq_iff.mp (by rw [hlength, List.length_map])
  · intro hpaths
    refine ⟨h.perm.nodup_iff.mpr (.of_map _ hpaths), fun m => ?_, fun e he => ?_⟩
    · rw [h.perm.mem_iff, h.mem_modules hpaths]
    · obtain ⟨m, -, rfl⟩ := List.mem_map.mp (h.listing.mem_iff.mp he)
      rfl

/-! ## The summary -/

theorem Holds.total_modules (h : Holds i ms) :
    i.summary.int "total_modules" 0 = (ms.map (·.filepath)).eraseDups.length := by
  rw [← h.length_modules]
  rfl

theorem Holds.modules_per_directory (h : Holds i ms) :
    (i.summary.members "modules_per_directory").total = ms.length := by
  have hcount := h.listing.length_eq
  rw [byDirectory, Table.length_listed, List.length_map] at hcount
  rw [← hcount]
  exact Record.total_ofNat i.directories (·.1) (·.2.length)

/-- The two indexes of an inventory agree if and only if no path was added twice, and only then does the summary
state as many modules as it counts by directory. In any case a path has the last module that was added for it, and
a directory all modules that were added for it, in their order. -/
theorem indexes_agree_iff (ms : List Module) :
    ((ofModules ms).Agree ↔ (ms.map (·.filepath)).Nodup) ∧
    ((ofModules ms).summary.int "total_modules" 0 =
        ((ofModules ms).summary.members "modules_per_directory").total ↔ (ms.map (·.filepath)).Nodup) ∧
    ((ofModules ms).summary.members "modules_per_directory").total = ms.length ∧
    (ofModules ms).modules.map (·.1) = (ms.map (·.filepath)).eraseDups ∧
    (∀ path, (ofModules ms).modules.lookup path = (ms.filter (·.filepath == path)).getLast?) ∧
    ∀ d, ((ofModules ms).directories.lookup d).getD [] = ms.filter (directoryOf · == d) := by
  have h := holds_ofModules ms
  refine ⟨h.agree_iff, ?_, h.modules_per_directory, h.paths, h.latest, h.members⟩
  rw [h.total_modules, h.modules_per_directory, Int.ofNat_inj, ← length_eraseDups_eq_iff, List.length_map]

/-- A file that is analyzed twice is one module by file and two by directory. -/
theorem indexes_disagree_readded :
    let m := Module.ofSource "int x;".toList "lib/a.pc"
    (ofModules [m, m]).summary.int "total_modules" 0 = 1 ∧
      ((ofModules [m, m]).summary.members "modules_per_directory").total = 2 ∧ ¬ (ofModules [m, m]).Agree := by
  intro m
  have h := holds_ofModules [m, m]
  refine ⟨?_, h.modules_per_directory, h.agree_iff.not.mpr (by simp)⟩
  rw [h.total_modules, List.map_cons, List.eraseDups_cons]
  simp

end EsqlAudit.Comment.Inventory
