import EsqlAudit.Report.Basic
import Mathlib.Algebra.GroupWithZero.Nat
import Mathlib.Algebra.Order.Group.Nat
import Mathlib.Algebra.Ring.Int.Defs
import Mathlib.Data.List.Induction
import Mathlib.Data.List.Perm.Subperm

/-!
# Tables and records

A table keeps its names in the order in which they were first given; an update changes what is found under one
name and nothing else, so that of the entries set one after the other each name keeps the last. The whole numbers
of a record are summed.
-/

namespace EsqlAudit

/-! ## Filters and repetitions -/

/-- A filter that judges all members alike keeps all of them or none. -/
theorem filter_eq_ite {α : Type} {xs : List α} {q : α → Bool} {b : Bool} (h : ∀ x ∈ xs, q x = b) :
    xs.filter q = if b then xs else [] := by
  cases b with
  | true => exact List.filter_eq_self.mpr h
  | false =>
      refine List.filter_eq_nil_iff.mpr fun x hx => ?_
      rw [h x hx]
      exact Bool.false_ne_true

section
variable {α : Type} [BEq α] [LawfulBEq α]

/-- A change of what stands under a name leaves entries with other names as they are. -/
theorem map_entry_of_ne {β : Type} {es : List (α × β)} (key : α) (new : β → β) (h : ∀ e ∈ es, e.1 ≠ key) :
    es.map (fun e => if e.1 == key then (e.1, new e.2) else (e.1, e.2)) = es := by
  conv_rhs => rw [← List.map_id es]
  refine List.map_congr_left fun e he => ?_
  rw [if_neg (by simpa using h e he)]
  rfl

theorem eraseDups_nodup (xs : List α) : xs.eraseDups.Nodup := by
  cases xs with
  | nil => simp
  | cons x xs =>
      rw [List.eraseDups_cons, List.nodup_cons]
      refine ⟨fun h => ?_, eraseDups_nodup _⟩
      simp at h
termination_by xs.length
decreasing_by exact Nat.lt_succ_of_le (List.length_filter_le ..)

theorem eraseDups_concat (xs : List α) (x : α) :
    (xs ++ [x]).eraseDups = if xs.contains x then xs.eraseDups else xs.eraseDups ++ [x] := by
  rw [List.eraseDups_append, List.removeAll, List.filter_singleton, ← List.contains]
  cases xs.contains x with
  | true => exact List.append_nil _
  | false => rfl

theorem eraseDups_subperm (xs : List α) : xs.eraseDups.Subperm xs :=
  (eraseDups_nodup xs).subperm fun _ hx => List.mem_eraseDups.mp hx

theorem length_eraseDups_le (xs : List α) : xs.eraseDups.length ≤ xs.length :=
  (eraseDups_subperm xs).length_le

/-- A list has no repetitions if it does not get shorter without them. -/
theorem length_eraseDups_eq_iff {xs : List α} : xs.eraseDups.length = xs.length ↔ xs.Nodup := by
  constructor
  · intro h
    exact ((eraseDups_subperm xs).perm_of_length_le h.ge).nodup_iff.mp (eraseDups_nodup xs)
  · intro h
    have hall : xs.Subperm xs.eraseDups := h.subperm fun _ hx => List.mem_eraseDups.mpr hx
    exact le_antisymm (length_eraseDups_le xs) hall.length_le

end

namespace Table

variable {α : Type}

/-! ## Updates -/

theorem keys_modify (t : Table α) (key : String) (new : α → α) : (t.modify key new).map (·.1) = t.map (·.1) := by
  rw [modify, List.map_map]
  apply List.map_congr_left
  intro e _
  dsimp only [Function.comp_apply]
  split <;> rfl

theorem keys_update (t : Table α) (key : String) (new : Option α → α) :
    (t.update key new).map (·.1) =
      if (t.map (·.1)).contains key then t.map (·.1) else t.map (·.1) ++ [key] := by
  have hany : (t.map (·.1)).contains key = t.any (·.1 == key) := by
    rw [List.contains_eq_any_beq, List.any_map]
    congr 1
    funext e
    exact Bool.beq_comm
  rw [update, hany]
  split
  · exact keys_modify t key _
  · rw [List.map_append]
    rfl

/-- The names of a table are kept in the order in which they were first given. -/
theorem keys_update_eraseDups {t : Table α} {keys : List String} (h : t.map (·.1) = keys.eraseDups) (key : String)
    (new : Option α → α) : (t.update key new).map (·.1) = (keys ++ [key]).eraseDups := by
  have hmem : (keys.eraseDups).contains key = keys.contains key := by
    rw [Bool.eq_iff_iff, List.contains_iff_mem, List.contains_iff_mem, List.mem_eraseDups]
  rw [keys_update, h, eraseDups_concat, hmem]

theorem lookup_modify (t : Table α) (key k : String) (new : α → α) :
    (t.modify key new).lookup k = if k == key then (t.lookup key).map new else t.lookup k := by
  induction t with
  | nil => simp [modify]
  | cons e t ih =>
      obtain ⟨k₀, a⟩ := e
      rw [modify] at ih
      rw [modify, List.map_cons, List.lookup_cons, List.lookup_cons, List.lookup_cons, ih]
      by_cases hk : k = key
      · subst hk
        by_cases h₀ : k₀ = k
        · subst h₀
          simp
        · simp [h₀, beq_false_of_ne (Ne.symm h₀)]
      · by_cases h₀ : k₀ = key
        · subst h₀
          simp [beq_false_of_ne hk]
        · simp [h₀, hk]

/-- An update changes what is found under its name, and nothing else. -/
theorem lookup_update (t : Table α) (key k : String) (new : Option α → α) :
    (t.update key new).lookup k = if k == key then some (new (t.lookup key)) else t.lookup k := by
  rw [update]
  split
  · rename_i h
    obtain ⟨e, he, hkey⟩ := List.any_eq_true.mp h
    have hsome : t.lookup key ≠ none := by
      intro hnone
      have := List.lookup_eq_none_iff.mp hnone e he
      simp_all
    obtain ⟨a, ha⟩ := Option.ne_none_iff_exists'.mp hsome
    rw [lookup_modify, ha]
    rfl
  · rename_i h
    have hnone : t.lookup key = none := by
      rw [List.lookup_eq_none_iff]
      intro e he
      have hne : e.1 ≠ key := fun hkey => h (List.any_eq_true.mpr ⟨e, he, beq_iff_eq.mpr hkey⟩)
      simpa using Ne.symm hne
    rw [List.lookup_append, hnone]
    by_cases hk : k = key
    · subst hk
      simp [hnone]
    · simp [beq_false_of_ne hk, List.lookup_cons]

theorem lookup_of_mem {t : Table α} {e : String × α} (hkeys : (t.map (·.1)).Nodup) (he : e ∈ t) :
    t.lookup e.1 = some e.2 := by
  obtain ⟨before, after, rfl⟩ := List.append_of_mem he
  refine List.lookup_eq_some_iff.mpr ⟨before, after, rfl, fun x hx => ?_⟩
  rw [List.map_append, List.nodup_append] at hkeys
  have hne := hkeys.2.2 x.1 (List.mem_map_of_mem hx) e.1 (by simp)
  simpa using Ne.symm hne

theorem mem_of_lookup {t : Table α} {k : String} {a : α} (h : t.lookup k = some a) : (k, a) ∈ t := by
  obtain ⟨before, after, rfl, -⟩ := List.lookup_eq_some_iff.mp h
  simp

/-! ## Entries set one after the other -/

theorem ofEntries_concat (entries : List (String × α)) (e : String × α) :
    ofEntries (entries ++ [e]) = (ofEntries entries).set e.1 e.2 := by
  rw [ofEntries, List.foldl_append]
  rfl

theorem keys_ofEntries (entries : List (String × α)) :
    (ofEntries entries).map (·.1) = (entries.map (·.1)).eraseDups := by
  induction entries using List.reverseRecOn with
  | nil => rfl
  | append_singleton entries e ih =>
      rw [ofEntries_concat, List.map_append, List.map_singleton]
      exact keys_update_eraseDups ih e.1 fun _ => e.2

theorem nodup_ofEntries (entries : List (String × α)) : ((ofEntries entries).map (·.1)).Nodup := by
  rw [keys_ofEntries]
  exact eraseDups_nodup _

/-- Of the entries of a name the last one is found. -/
theorem lookup_ofEntries (entries : List (String × α)) (k : String) :
    (ofEntries entries).lookup k = ((entries.filter (·.1 == k)).getLast?).map (·.2) := by
  induction entries using List.reverseRecOn with
  | nil => rfl
  | append_singleton entries e ih =>
      rw [ofEntries_concat, set, lookup_update, ih, List.filter_append, List.filter_singleton]
      by_cases hk : k = e.1
      · simp [hk]
      · simp [beq_false_of_ne hk, beq_false_of_ne (Ne.symm hk)]

theorem getLast?_of_mem_ofEntries {entries : List (String × α)} {e : String × α} (he : e ∈ ofEntries entries) :
    (entries.filter (·.1 == e.1)).getLast? = some e := by
  have hlookup := lookup_of_mem (nodup_ofEntries entries) he
  rw [lookup_ofEntries] at hlookup
  obtain ⟨last, hlast, hvalue⟩ := Option.map_eq_some_iff.mp hlookup
  have hkey : last.1 = e.1 := eq_of_beq (List.mem_filter.mp (List.mem_of_getLast? hlast)).2
  rw [hlast, Prod.ext hkey hvalue]

/-- The table holds the last entry of each name, in the order in which the names first come. -/
theorem ofEntries_eq (entries : List (String × α)) :
    ofEntries entries = (entries.map (·.1)).eraseDups.filterMap fun k => (entries.filter (·.1 == k)).getLast? := by
  rw [← keys_ofEntries, List.filterMap_map]
  conv_lhs => rw [← List.filterMap_some (l := ofEntries entries)]
  exact List.filterMap_congr fun e he => (getLast?_of_mem_ofEntries he).symm

theorem ofEntries_eq_self_iff {entries : List (String × α)} :
    ofEntries entries = entries ↔ (entries.map (·.1)).Nodup := by
  constructor
  · intro h
    have hkeys := nodup_ofEntries entries
    rwa [h] at hkeys
  · intro h
    induction entries using List.reverseRecOn with
    | nil => rfl
    | append_singleton entries e ih =>
        rw [List.map_append, List.nodup_append] at h
        have hnew : entries.any (·.1 == e.1) = false := by
          rw [List.any_eq_false]
          intro e' he' hkey
          exact h.2.2 e'.1 (List.mem_map_of_mem he') e.1 (by simp) (eq_of_beq hkey)
        rw [ofEntries_concat, ih h.1, set, update, hnew]
        rfl

/-! ## Lists under names -/

/-- The items of a table of lists, each with the name it stands under. -/
def listed (t : Table (List α)) : List (String × α) :=
  t.flatMap fun e => e.2.map (Prod.mk e.1)

theorem listed_map_update (t : Table (List α)) (key : String) (a : α) (hkeys : (t.map (·.1)).Nodup)
    (hmem : key ∈ t.map (·.1)) :
    (listed (t.map fun e => if e.1 == key then (e.1, (some e.2).getD [] ++ [a]) else (e.1, e.2))).Perm
      (listed t ++ [(key, a)]) := by
  induction t with
  | nil => cases hmem
  | cons e t ih =>
      obtain ⟨k₀, as⟩ := e
      rw [List.map_cons, List.nodup_cons] at hkeys
      by_cases h₀ : k₀ = key
      · -- The name does not come again, so the rest of the table stays as it is.
        subst h₀
        rw [List.map_cons, map_entry_of_ne k₀ (fun items => (some items).getD [] ++ [a])
          fun e he hname => hkeys.1 (List.mem_map.mpr ⟨e, he, hname⟩)]
        simp only [listed, List.flatMap_cons, beq_self_eq_true, if_true, Option.getD_some, List.map_append,
          List.append_assoc]
        exact List.Perm.append_left _ List.perm_append_comm
      · have hrest : key ∈ t.map (·.1) := by simpa [Ne.symm h₀] using hmem
        have hperm := ih hkeys.2 hrest
        rw [List.map_cons]
        simp only [listed, List.flatMap_cons, beq_eq_false_iff_ne.mpr h₀, Bool.false_eq_true, if_false,
          List.append_assoc] at hperm ⊢
        exact hperm.append_left _

/-- An item that is added to the list under a name is listed once more than before, and nothing else is. -/
theorem listed_update (t : Table (List α)) (key : String) (a : α) (hkeys : (t.map (·.1)).Nodup) :
    (listed (t.update key fun items => items.getD [] ++ [a])).Perm (listed t ++ [(key, a)]) := by
  rw [update]
  split
  · rename_i h
    obtain ⟨e, he, hkey⟩ := List.any_eq_true.mp h
    exact listed_map_update t key a hkeys (eq_of_beq hkey ▸ List.mem_map_of_mem he)
  · simp [listed]

theorem length_listed (t : Table (List α)) : (listed t).length = (t.map (·.2.length)).sum := by
  rw [listed, List.length_flatMap]
  simp

end Table

/-! ## Counters -/

namespace Counter

variable {α : Type}

theorem total_eq_sum (c : Counter α) : c.total = (c.map (·.2)).sum := by
  rw [total, List.sum_eq_foldl, List.foldl_map]

/-- The items in the order in which they first appear, with how often each appears. -/
def tally [BEq α] (items : List α) : Counter α :=
  items.eraseDups.map fun a => (a, items.count a)

theorem keys_tally [BEq α] (items : List α) : (tally items).map (·.1) = items.eraseDups := by
  rw [tally, List.map_map]
  exact List.map_id _

theorem length_tally [BEq α] (items : List α) : (tally items).length = items.eraseDups.length :=
  List.length_map _

section
variable [BEq α] [LawfulBEq α]

theorem total_add {c : Counter α} (hkeys : (c.map (·.1)).Nodup) (item : α) : (c.add item).total = c.total + 1 := by
  rw [total_eq_sum, total_eq_sum, add]
  split
  · rename_i h
    obtain ⟨e, he, hkey⟩ := List.any_eq_true.mp h
    obtain rfl := eq_of_beq hkey
    -- The item stands in one place, and the entries on both sides of it stay.
    obtain ⟨before, after, rfl⟩ := List.append_of_mem he
    rw [List.map_append, List.map_cons, List.nodup_append, List.nodup_cons] at hkeys
    obtain ⟨-, ⟨hafter, -⟩, hbefore⟩ := hkeys
    rw [List.map_append, List.map_cons,
      map_entry_of_ne e.1 (· + 1) fun d hd => hbefore d.1 (List.mem_map_of_mem hd) e.1 (by simp),
      map_entry_of_ne e.1 (· + 1) fun d hd hname => hafter (hname ▸ List.mem_map_of_mem hd)]
    simp only [beq_self_eq_true, if_true, List.map_append, List.map_cons, List.sum_append, List.sum_cons]
    omega
  · simp

/-- One more item is counted: the counter stays the tally of what it has counted. -/
theorem add_tally (items : List α) (item : α) : (tally items).add item = tally (items ++ [item]) := by
  have hany : (tally items).any (·.1 == item) = items.contains item := by
    rw [tally, List.any_map, Bool.eq_iff_iff, List.any_eq_true, List.contains_iff_mem]
    constructor
    · rintro ⟨a, ha, heq⟩
      exact eq_of_beq heq ▸ List.mem_eraseDups.mp ha
    · intro ha
      exact ⟨item, List.mem_eraseDups.mpr ha, beq_self_eq_true item⟩
  rw [add, hany, tally, tally, eraseDups_concat]
  split
  · rw [List.map_map]
    apply List.map_congr_left
    intro a _
    by_cases ha : a = item
    · simp [ha]
    · simp [ha, List.count_append, Ne.symm ha]
  · rename_i hnew
    rw [List.map_append]
    congr 1
    · apply List.map_congr_left
      intro a ha
      have hne : item ≠ a := by
        rintro rfl
        exact hnew (List.contains_iff_mem.mpr (List.mem_eraseDups.mp ha))
      simp [List.count_append, hne]
    · simp only [List.contains_iff_mem] at hnew
      simp [List.count_append, List.count_eq_zero_of_not_mem hnew]

theorem foldl_add_tally (items seen : List α) : items.foldl add (tally seen) = tally (seen ++ items) := by
  induction items generalizing seen with
  | nil => rw [List.foldl_nil, List.append_nil]
  | cons a items ih => rw [List.foldl_cons, add_tally, ih, List.append_assoc, List.singleton_append]

/-- Each occurrence is counted under one item. -/
theorem total_tally (items : List α) : (tally items).total = items.length := by
  induction items using List.reverseRecOn with
  | nil => rfl
  | append_singleton items a ih =>
      have hkeys : ((tally items).map (·.1)).Nodup := by
        rw [keys_tally]
        exact eraseDups_nodup items
      rw [← add_tally, total_add hkeys, ih, List.length_append, List.length_singleton]

end

end Counter

/-! ## Sums -/

theorem totalOf_natCast {α : Type} (xs : List α) (n : α → Nat) :
    totalOf (xs.map fun x => (n x : Int)) = ((xs.map n).sum : Nat) := by
  rw [totalOf, ← List.sum_eq_foldl]
  induction xs with
  | nil => rfl
  | cons x xs ih => rw [List.map_cons, List.sum_cons, ih, List.map_cons, List.sum_cons, Int.natCast_add]

/-- The sum of the members that are whole numbers. -/
def Record.total (r : Record) : Int :=
  totalOf (r.map fun e => match e.2 with
    | .int n => n
    | _ => 0)

theorem Record.total_ofNat {α : Type} (xs : List α) (name : α → String) (n : α → Nat) :
    Record.total (xs.map fun x => (name x, .ofNat (n x))) = ((xs.map n).sum : Nat) := by
  rw [Record.total, List.map_map]
  exact totalOf_natCast xs n

end EsqlAudit
