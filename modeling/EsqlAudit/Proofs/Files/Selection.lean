import EsqlAudit.Files.Search
import EsqlAudit.Proofs.Outcome
import EsqlAudit.Proofs.Table
import Mathlib.Data.List.Sort

/-!
# Lists of selected files

A list of selected files is in order and has no file twice, so it is fixed by which files are in it. All paths in
it start at the root of the directory that was searched; without that, two paths with the same names need not be
the same.
-/

namespace EsqlAudit.Files

/-! ## The order of paths -/

theorem namesBefore_iff (as bs : List (List Char)) : namesBefore as bs = true ↔ as < bs ∨ as = bs := by
  induction as generalizing bs with
  | nil => cases bs <;> simp [namesBefore]
  | cons a as ih =>
      cases bs with
      | nil => simp [namesBefore]
      | cons b bs =>
          rw [namesBefore, List.cons_lt_cons_iff, List.cons.injEq]
          by_cases h : a = b
          · subst h
            have hirrefl : ¬ a < a := List.lt_irrefl a
            simp only [beq_self_eq_true, if_true, ih, hirrefl, true_and, false_or]
          · simp only [beq_iff_eq, h, if_false, false_and, or_false, decide_eq_true_iff, String.lt_iff,
              String.toList_ofList]

theorem namesBefore_trans {as bs cs : List (List Char)} (h : namesBefore as bs = true) (h' : namesBefore bs cs = true) :
    namesBefore as cs = true := by
  rw [namesBefore_iff] at *
  rcases h with h | rfl
  · rcases h' with h' | rfl
    · exact .inl (List.lt_trans h h')
    · exact .inl h
  · exact h'

theorem namesBefore_total (as bs : List (List Char)) : (namesBefore as bs || namesBefore bs as) = true := by
  rw [Bool.or_eq_true, namesBefore_iff, namesBefore_iff]
  by_cases h : as < bs
  · exact .inl (.inl h)
  · exact .inr (List.le_iff_lt_or_eq.mp (List.not_lt.mp h))

/-- Paths in order, each once. -/
def Increasing (paths : List Path) : Prop :=
  paths.Pairwise fun p q => p.parts < q.parts

instance (paths : List Path) : Decidable (Increasing paths) :=
  inferInstanceAs (Decidable (paths.Pairwise fun p q => p.parts < q.parts))

theorem Increasing.eq_of_mem_iff {xs ys : List Path} (hx : Increasing xs) (hy : Increasing ys)
    (h : ∀ p, p ∈ xs ↔ p ∈ ys) : xs = ys := by
  have : Std.Irrefl fun p q : Path => p.parts < q.parts := ⟨fun p => List.lt_irrefl p.parts⟩
  have : Std.Antisymm fun p q : Path => p.parts < q.parts := ⟨fun p q hpq hqp => absurd hqp (List.lt_asymm hpq)⟩
  exact List.Pairwise.eq_of_mem_iff hx hy h

theorem mem_sortedPaths {paths : List Path} {p : Path} : p ∈ sortedPaths paths ↔ p ∈ paths := by
  rw [sortedPaths, List.mem_mergeSort, List.mem_eraseDups]

theorem increasing_sortedPaths (root : List Char) {paths : List Path} (h : ∀ p ∈ paths, p.root = root) :
    Increasing (sortedPaths paths) := by
  have hsorted : (sortedPaths paths).Pairwise fun p q => namesBefore p.parts q.parts = true := by
    refine List.pairwise_mergeSort (fun p q r => ?_) (fun p q => ?_) paths.eraseDups
    · exact namesBefore_trans
    · exact namesBefore_total p.parts q.parts
  have hdistinct : (sortedPaths paths).Nodup :=
    (List.mergeSort_perm ..).nodup_iff.mpr (eraseDups_nodup paths)
  refine (hsorted.and hdistinct).imp_of_mem fun {p q} hp hq hpq => ?_
  rcases (namesBefore_iff ..).mp hpq.1 with hlt | hparts
  · exact hlt
  -- With the same root as well, it would be one path twice.
  · have hroot : p.root = q.root := (h p (mem_sortedPaths.mp hp)).trans (h q (mem_sortedPaths.mp hq)).symm
    exact absurd (by cases p; cases q; simp_all) hpq.2

/-! ## The roots of the paths found -/

theorem Path.child_root (path : Path) (name : List Char) : (path.child name).root = path.root := rfl

mutual
theorem directories_root {path : Path} {t : Tree} {e : Path × Tree} (h : e ∈ directories path t) :
    e.1.root = path.root := by
  match t with
  | .file _ => cases h
  | .directory entries =>
      rcases List.mem_cons.mp h with rfl | h
      · rfl
      · exact directoriesAmong_root h

theorem directoriesAmong_root {path : Path} {entries : List (String × Tree)} {e : Path × Tree}
    (h : e ∈ directoriesAmong path entries) : e.1.root = path.root := by
  match entries with
  | [] => cases h
  | (name, t) :: rest =>
      rcases List.mem_append.mp h with h | h
      · exact (directories_root h).trans (path.child_root _)
      · exact directoriesAmong_root h
end

mutual
theorem allFiles_root {path p : Path} {t : Tree} (h : p ∈ allFiles path t) : p.root = path.root := by
  match t with
  | .file _ => rw [List.mem_singleton.mp h]
  | .directory entries => exact allFilesAmong_root h

theorem allFilesAmong_root {path p : Path} {entries : List (String × Tree)} (h : p ∈ allFilesAmong path entries) :
    p.root = path.root := by
  match entries with
  | [] => cases h
  | (name, t) :: rest =>
      rcases List.mem_append.mp h with h | h
      · exact (allFiles_root h).trans (path.child_root _)
      · exact allFilesAmong_root h
end

theorem select_root {disk : Disk} {steps : List Selector} {path : Path} {t : Tree} {e : Path × Tree}
    (h : e ∈ select disk steps path t) : e.1.root = path.root := by
  induction steps generalizing path t with
  | nil => rw [List.mem_singleton.mp h]
  | cons step rest ih =>
      cases step with
      | here => rw [List.mem_singleton.mp h]
      | anywhere =>
          obtain ⟨d, hd, he⟩ := List.mem_flatMap.mp h
          exact (ih he).trans (directories_root hd)
      | fitting pattern =>
          cases t with
          | file _ => cases h
          | directory entries =>
              obtain ⟨d, -, he⟩ := List.mem_flatMap.mp h
              obtain ⟨-, he⟩ := List.mem_ite_nil_right.mp he
              exact (ih he).trans (path.child_root _)
      | exactly name =>
          simp only [select] at h
          split at h
          · split at h
            · exact (ih h).trans (path.child_root _)
            · cases h
          · cases h

theorem globFiles_root {disk : Disk} {path p : Path} {recursive : Bool} {pattern : List Char} {found : List Path}
    (h : globFiles disk path recursive pattern = .ok found) (hp : p ∈ found) : p.root = path.root := by
  rw [globFiles] at h
  obtain ⟨steps, -, h⟩ := of_bind_ok h
  split at h
  · cases h
    obtain ⟨e, he, rfl⟩ := List.mem_map.mp hp
    exact select_root (List.mem_filter.mp he).1
  · cases h
    cases hp

/-! ## What the searches give -/

section

variable {disk : Disk} {path : Path} {recursive : Bool} {patterns : List (List Char)} {glob : List Char → List Path}

theorem findFiles_of_glob (h : ∀ p ∈ patterns, globFiles disk path recursive p = .ok (glob p)) :
    ∃ found, findFiles disk path recursive patterns = .ok found ∧ Increasing found ∧
      ∀ q, q ∈ found ↔ ∃ p ∈ patterns, q ∈ glob p := by
  refine ⟨sortedPaths (patterns.map glob).flatten, ?_, increasing_sortedPaths path.root fun q hq => ?_, fun q => ?_⟩
  · rw [findFiles, mapM_of_ok h]
    rfl
  · obtain ⟨p, hp, hq⟩ := List.mem_flatMap.mp (List.flatMap_def .. ▸ hq)
    exact globFiles_root (h p hp) hq
  · rw [mem_sortedPaths, ← List.flatMap_def, List.mem_flatMap]

/-- The search gives the one list in order, without repetitions, of the files that the patterns select. -/
theorem findFiles_eq {found : List Path} (h : ∀ p ∈ patterns, globFiles disk path recursive p = .ok (glob p))
    (hfound : Increasing found) (hmem : ∀ q, q ∈ found ↔ ∃ p ∈ patterns, q ∈ glob p) :
    findFiles disk path recursive patterns = .ok found := by
  obtain ⟨found', heq, hfound', hmem'⟩ := findFiles_of_glob h
  rw [heq, hfound.eq_of_mem_iff hfound' fun q => (hmem q).trans (hmem' q).symm]

end

theorem increasing_findFilesFolded (disk : Disk) (path : Path) (recursive : Bool) (patterns : List (List Char)) :
    Increasing (findFilesFolded disk path recursive patterns) := by
  rw [findFilesFolded]
  split
  next entries _ =>
    refine increasing_sortedPaths path.root fun p hp => ?_
    cases recursive with
    | true => exact allFilesAmong_root (List.mem_filter.mp hp).1
    | false =>
        obtain ⟨e, -, rfl⟩ := List.mem_map.mp (List.mem_filter.mp hp).1
        exact path.child_root _
  · exact .nil

end EsqlAudit.Files
