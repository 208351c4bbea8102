import EsqlAudit.Command.Run
import EsqlAudit.Proofs.Analysis.History
import EsqlAudit.Proofs.Files.Selection

/-!
# Ways to analyze a set of files

The files of a directory that patterns select, the same files given one by one, and the files of a search for which
letter case does not count make one report, if they are the same files. A listener does not change it.
-/

namespace EsqlAudit.Analysis
open Files

/-- What a listener is told of some files. -/
def notices (paths : List String) : List Notice :=
  paths.mapIdx fun i path => ⟨path, i + 1, paths.length⟩

section

variable {σ : Type} (a : Analyzer) (w : Surroundings) (tell : σ → Notice → σ) (kept : σ)

theorem eachTelling_eq (total number : Nat) (paths : List String) :
    a.eachTelling w tell total number kept paths =
      (((a.each w paths).1, (paths.mapIdx fun i path => ⟨path, i + number, total⟩).foldl tell kept),
        (a.each w paths).2) := by
  -- The analyzer, the number and what is kept all move on with each file.
  induction paths generalizing a number kept with
  | nil => rfl
  | cons path rest ih =>
      simp only [Analyzer.eachTelling, ih, Analyzer.each, List.mapIdx_cons, List.foldl_cons, Nat.zero_add,
        Nat.add_assoc, Nat.add_comm 1]

theorem surveyTelling_eq (paths : List String) :
    a.surveyTelling w tell kept paths =
      (((a.survey w paths).1, (notices paths).foldl tell kept), (a.survey w paths).2) := by
  rw [Analyzer.surveyTelling, eachTelling_eq]
  rfl

end

section

variable {a b : Analyzer} (w : Surroundings)

theorem each_congr (h : a.options = b.options) (paths : List String) : (a.each w paths).1 = (b.each w paths).1 := by
  induction paths generalizing a b with
  | nil => rfl
  | cons path rest ih =>
      have hrest : (a.file w path).2.options = (b.file w path).2.options :=
        (file_follows a w path).options.trans (h.trans (file_follows b w path).options.symm)
      change (a.file w path).1 :: ((a.file w path).2.each w rest).1 = _
      rw [file_congr w h path, ih hrest]
      rfl

theorem survey_of_off (h : a.options.todos = false) (paths : List String) :
    (a.survey w paths).1 = ⟨(a.each w paths).1, none⟩ := by
  rw [Analyzer.survey]
  simp only [(each_follows a w paths).options, h]
  rfl

/-- An inventory that no report shows need not be cleared. -/
theorem survey_cleared (a : Analyzer) (paths : List String) :
    ((if a.options.todos then a.clear else a).survey w paths).1 = (a.files w paths).1 := by
  cases h : a.options.todos with
  | true => rfl
  | false =>
      have heach : (a.each w paths).1 = (a.clear.each w paths).1 :=
        each_congr w (show a.options = a.clear.options from rfl) paths
      rw [if_neg Bool.false_ne_true, Analyzer.files, survey_of_off w h, survey_of_off w (a := a.clear) h, heach]

end

/-! ## The files of a directory -/

section

variable {w : Surroundings} {directory : String} {recursive : Bool} {patterns : List (List Char)} {found : List Path}

/-- The paths of files as texts. -/
def pathTexts (found : List Path) : List String :=
  found.map fun p => String.ofList p.text

theorem selectPaths_eq {entries : List (String × Tree)}
    (hdir : w.disk.find? (Path.ofText directory.toList) = some (.directory entries))
    (h : findFiles w.disk (Path.ofText directory.toList) recursive patterns = .ok found) :
    selectPaths w.disk (Path.ofText directory.toList) recursive patterns = .ok (some (pathTexts found)) := by
  simp only [selectPaths, hdir, h]
  rfl

theorem directory_eq (a : Analyzer) {paths : List String}
    (h : selectPaths w.disk (Path.ofText directory.toList) recursive patterns = .ok (some paths)) :
    (a.directory w directory recursive patterns).1 = .ok ((a.files w paths).1, paths) := by
  rw [Analyzer.directory, h]
  rfl

theorem directoryTelling_eq (a : Analyzer) {σ : Type} (tell : σ → Notice → σ) (kept : σ) {paths : List String}
    (h : selectPaths w.disk (Path.ofText directory.toList) recursive patterns = .ok (some paths)) :
    (a.directoryTelling w tell kept directory recursive patterns).1 =
      .ok ((a.files w paths).1, (notices paths).foldl tell kept) := by
  unfold Analyzer.directoryTelling
  simp only [h, surveyTelling_eq]
  rfl

end

section

variable (a : Analyzer) (w : Surroundings) {s : Command.Settings} (directory : String) (found : List Path)

theorem survey_of_found {entries : List (String × Tree)}
    (hdir : w.disk.find? (Path.ofText directory.toList) = some (.directory entries)) (hne : found ≠ [])
    (h : Command.selectFiles w.disk (Path.ofText directory.toList) s = .ok found) :
    (Command.survey a w s directory).1 =
      (Command.surveyFound a w s directory found).1.map fun r => (Command.framed found r.1 r.2, r.1) := by
  obtain ⟨p, rest, rfl⟩ := List.exists_cons_of_ne_nil hne
  unfold Command.survey
  simp only [hdir, h]

theorem surveyFound_folded {folded : String} (hs : s.foldedPattern = some folded) :
    ∃ announced, (Command.surveyFound a w s directory found).1 = .ok ((a.files w (pathTexts found)).1, announced) := by
  rw [Command.surveyFound, hs]
  dsimp only
  rw [surveyTelling_eq, survey_cleared]
  exact ⟨_, rfl⟩

end

/-- The report on a directory is the report on the files that its patterns select, in order and each once,
whatever the analyzer was asked before. It depends on the patterns as a set, and a listener hears of each file
in turn. A search for which letter case does not count leads to the same report if it finds the same files,
and some. -/
theorem directory_eq_files (a b : Analyzer) (hoptions : a.options = b.options) (w : Surroundings) (directory : String)
    (entries : List (String × Tree))
    (hdir : w.disk.find? (Path.ofText directory.toList) = some (.directory entries)) (recursive : Bool)
    (glob : List Char → List Path) (patterns : List (List Char))
    (hglob : ∀ p ∈ patterns, globFiles w.disk (Path.ofText directory.toList) recursive p = .ok (glob p)) :
    ∃ found : List Path, Increasing found ∧ (∀ q, q ∈ found ↔ ∃ p ∈ patterns, q ∈ glob p) ∧
      (∀ patterns' : List (List Char), (∀ p, p ∈ patterns' ↔ p ∈ patterns) →
        (a.directory w directory recursive patterns').1 = .ok ((b.files w (pathTexts found)).1, pathTexts found) ∧
        ∀ (σ : Type) (tell : σ → Notice → σ) (kept : σ),
          (a.directoryTelling w tell kept directory recursive patterns').1 =
            .ok ((b.files w (pathTexts found)).1, (notices (pathTexts found)).foldl tell kept)) ∧
      ∀ (s : Command.Settings) (folded : String), s.foldedPattern = some folded → found ≠ [] →
        (∀ q, q ∈ findFilesFolded w.disk (Path.ofText directory.toList) s.recursive (parsePatterns folded.toList) ↔
          q ∈ found) →
        ∃ shown, (Command.survey a w s directory).1 = .ok (shown, (b.files w (pathTexts found)).1) := by
  obtain ⟨found, -, hfound, hmem⟩ := findFiles_of_glob hglob
  simp only [← files_congr w hoptions]
  refine ⟨found, hfound, hmem, fun patterns' hsame => ?_, fun s folded hs hne hset => ?_⟩
  · have hfind : findFiles w.disk (Path.ofText directory.toList) recursive patterns' = .ok found :=
      findFiles_eq (fun p hp => hglob p ((hsame p).mp hp)) hfound (by simp only [hmem, hsame, implies_true])
    have hselect := selectPaths_eq hdir hfind
    exact ⟨directory_eq a hselect, fun σ tell kept => directoryTelling_eq a tell kept hselect⟩
  · have hselect : Command.selectFiles w.disk (Path.ofText directory.toList) s = .ok found := by
      rw [Command.selectFiles, hs]
      exact congrArg Except.ok ((increasing_findFilesFolded ..).eq_of_mem_iff hfound hset)
    obtain ⟨announced, hsurvey⟩ := surveyFound_folded a w directory found hs
    refine ⟨Command.framed found (a.files w (pathTexts found)).1 announced, ?_⟩
    rw [survey_of_found a w directory found hdir hne hselect, hsurvey]
    rfl

/-- Files in a directory of the root, not in their order. Another directory is the working one. -/
def shelf : Surroundings where
  disk := ⟨.directory [("d", .directory [("b.pc", .file []), ("a.pc", .file []), ("c", .directory []),
    ("n.txt", .file [])]), ("home", .empty)], ["home"]⟩
  parse _ _ := none

/-- The path of the directory starts at the root. The second pattern selects a file that the first one selects
too. The analyzer of the directory was used before. -/
theorem directory_eq_files_shelf :
    ∃ used report, used = ((Analyzer.new .all).file shelf "/d/b.pc").2 ∧
      report = ((Analyzer.new .all).files shelf ["/d/a.pc", "/d/b.pc"]).1 ∧
      (used.directoryTelling shelf (fun told n => told ++ [n]) [] "/d" true
        [defaultPattern, ['a', '*'], defaultPattern]).1 = .ok (report, [⟨"/d/a.pc", 1, 2⟩, ⟨"/d/b.pc", 2, 2⟩]) ∧
      ∃ shown, (Command.survey used shelf { Command.Settings.default with foldedPattern := some "*.PC" } "/d").1 =
        .ok (shown, report) := by
  refine ⟨_, _, rfl, rfl, ?_⟩
  let a : Path := ⟨['/'], [['d'], "a.pc".toList]⟩
  let b : Path := ⟨['/'], [['d'], "b.pc".toList]⟩
  have hne : defaultPattern ≠ ['a', '*'] := by decide
  obtain ⟨found, hfound, hmem, hdirectory, hfolded⟩ :=
    directory_eq_files ((Analyzer.new .all).file shelf "/d/b.pc").2 (.new .all)
      (file_follows (.new .all) shelf "/d/b.pc").options shelf "/d" _ rfl true
      (fun p => if p = ['a', '*'] then [a] else [b, a]) [defaultPattern, ['a', '*']] (by decide +kernel)
  obtain rfl : found = [a, b] :=
    hfound.eq_of_mem_iff (by decide) fun q => by
      rw [hmem]
      simp only [List.mem_cons, List.not_mem_nil, or_false, exists_eq_or_imp, exists_eq_left, if_neg hne, if_true]
      tauto
  have hfits : [b, a, ⟨['/'], [['d'], "n.txt".toList]⟩].filter (fun p =>
      (parsePatterns "*.PC".toList).any fun pattern => matchesFolded pattern p.name) = [b, a] := by
    decide +kernel
  have hset (q : Path) :
      q ∈ findFilesFolded shelf.disk (Path.ofText "/d".toList) true (parsePatterns "*.PC".toList) ↔ q ∈ [a, b] := by
    have hfolded : findFilesFolded shelf.disk (Path.ofText "/d".toList) true (parsePatterns "*.PC".toList) =
        sortedPaths [b, a] := congrArg sortedPaths hfits
    rw [hfolded, mem_sortedPaths, List.mem_cons, List.mem_singleton, List.mem_cons, List.mem_singleton, or_comm]
  have hsame (p : List Char) :
      p ∈ [defaultPattern, ['a', '*'], defaultPattern] ↔ p ∈ [defaultPattern, ['a', '*']] := by
    simp only [List.mem_cons, List.not_mem_nil, or_false]
    tauto
  exact ⟨(hdirectory _ hsame).2 _ _ _, hfolded _ _ rfl (by simp) hset⟩

end EsqlAudit.Analysis
