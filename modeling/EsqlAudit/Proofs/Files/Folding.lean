import EsqlAudit.Files.Search
import EsqlAudit.Proofs.Files.Selection
import EsqlAudit.Proofs.Text.Keyword
import EsqlAudit.Proofs.Text.Lines

/-!
# Names that fit when letter case does not count

A pattern of stars and literal characters covers a name if the name is the pattern with some text in place of each
star. Folding replaces each character by some others, and no other character by a star, so a covered name is still
covered when both are folded, although folding may change their lengths. A search without regard to letter case
therefore finds what the other one finds.
-/

namespace EsqlAudit.Files
open Text

/-- No character of the pattern but the star has a meaning of its own. -/
def Plain (pattern : List Char) : Prop :=
  ∀ c ∈ pattern, c ≠ '?' ∧ c ≠ '['

instance (pattern : List Char) : Decidable (Plain pattern) :=
  decidableForallMem pattern _

/-- The name is the pattern with some text in place of each star. -/
inductive Covers : List Char → List Char → Prop
  | nil : Covers [] []
  | star (u : List Char) {pattern name : List Char} (h : Covers pattern name) : Covers ('*' :: pattern) (u ++ name)
  | literal {c : Char} (hc : c ≠ '*') {pattern name : List Char} (h : Covers pattern name) :
      Covers (c :: pattern) (c :: name)

/-! ## Matching is covering -/

/-- The part of a pattern that a character other than a question mark or a bracket stands for. -/
def partOf (c : Char) : NamePart :=
  if c = '*' then .star else .literal c

theorem itemsOf_plain {fuel : Nat} {pattern : List Char} (h : Plain pattern) (hfuel : pattern.length ≤ fuel) :
    itemsOf fuel pattern = pattern.map partOf := by
  induction pattern generalizing fuel with
  | nil => cases fuel <;> rfl
  | cons c rest ih =>
      obtain ⟨hany, hset⟩ := h c List.mem_cons_self
      cases fuel with
      | zero => cases hfuel
      | succ fuel =>
          have hrest := ih (fun d hd => h d (List.mem_cons_of_mem c hd)) (Nat.le_of_succ_le_succ hfuel)
          by_cases hstar : c = '*'
          · subst hstar
            rw [itemsOf, hrest]
            rfl
          · rw [itemsOf, hrest, List.map_cons, partOf, if_neg hstar]
            · exact hstar
            · exact hany
            · exact hset

theorem items_plain {pattern : List Char} (h : Plain pattern) : items pattern = pattern.map partOf :=
  itemsOf_plain h (Nat.le_refl _)

theorem fits_star_iff {rest : List NamePart} {s : List Char} :
    fits (.star :: rest) s = true ↔ ∃ u v, s = u ++ v ∧ fits rest v = true := by
  induction s with
  | nil =>
      rw [fits]
      constructor
      · exact fun h => ⟨[], [], rfl, h⟩
      · rintro ⟨u, v, huv, h⟩
        obtain ⟨rfl, rfl⟩ := List.append_eq_nil_iff.mp huv.symm
        exact h
  | cons c s ih =>
      rw [fits, Bool.or_eq_true, ih]
      constructor
      · rintro (h | ⟨u, v, rfl, h⟩)
        · exact ⟨[], c :: s, rfl, h⟩
        · exact ⟨c :: u, v, rfl, h⟩
      · rintro ⟨u, v, huv, h⟩
        cases u with
        | nil =>
            rw [List.nil_append] at huv
            exact .inl (huv ▸ h)
        | cons d u =>
            obtain ⟨rfl, rfl⟩ := List.cons.inj huv
            exact .inr ⟨u, v, rfl, h⟩

theorem fits_literal_iff {c : Char} {rest : List NamePart} {s : List Char} :
    fits (.literal c :: rest) s = true ↔ ∃ v, s = c :: v ∧ fits rest v = true := by
  cases s with
  | nil => simp [fits]
  | cons d s => simp [fits, NamePart.admits, and_assoc]

theorem fits_parts_iff {pattern name : List Char} : fits (pattern.map partOf) name = true ↔ Covers pattern name := by
  constructor
  · intro h
    induction pattern generalizing name with
    | nil =>
        rw [List.map_nil, fits, List.isEmpty_iff] at h
        subst h
        exact .nil
    | cons c rest ih =>
        rw [List.map_cons, partOf] at h
        split at h
        · rename_i hstar
          obtain ⟨u, v, rfl, hrest⟩ := fits_star_iff.mp h
          exact hstar ▸ .star u (ih hrest)
        · rename_i hstar
          obtain ⟨v, rfl, hrest⟩ := fits_literal_iff.mp h
          exact .literal hstar (ih hrest)
  · intro h
    induction h with
    | nil => rw [List.map_nil, fits]; rfl
    | star u _ ih => exact fits_star_iff.mpr ⟨u, _, rfl, ih⟩
    | literal hc _ ih =>
        rw [List.map_cons, partOf, if_neg hc]
        exact fits_literal_iff.mpr ⟨_, rfl, ih⟩

theorem matchesName_iff_covers {pattern name : List Char} (h : Plain pattern) :
    matchesName pattern name = true ↔ Covers pattern name := by
  rw [matchesName, items_plain h, fits_parts_iff]

/-! ## What folding makes of the marks of a pattern -/

/-- The characters with a meaning in patterns. -/
def marks : List Char := ['*', '?', '[']

/-- A run of letters is folded to letters beyond ASCII, or it is one letter that is folded to no mark. -/
theorem foldRuns_beyond_ascii : ∀ r ∈ foldRuns,
    (128 : Int) ≤ r.first + r.shift ∨ (r.first = r.last ∧ Char.ofNat (r.first + r.shift).toNat ∉ marks) := by
  decide +kernel

theorem foldExpansions_unmarked : ∀ e ∈ foldExpansions, ∀ n ∈ e.2, Char.ofNat n ∉ marks := by
  decide +kernel

/-- Nothing but a mark itself is folded to a mark. -/
theorem eq_of_mem_foldChar {c m : Char} (hm : m ∈ marks) (h : m ∈ foldChar c) : c = m := by
  have hascii : ∀ m ∈ marks, m.toNat < 128 ∧ m.toNat ≠ 0 := by decide
  rw [foldChar] at h
  split at h
  next hc =>
    have hself := of_ascii (P := fun c => ∀ m ∈ marks, m = c.toLower → c = m) (by decide) hc
    exact hself m hm (List.mem_singleton.mp h)
  next hc =>
    rw [otherCase] at h
    split at h
    next e cs hfound =>
      obtain ⟨n, hn, rfl⟩ := List.mem_map.mp h
      exact absurd hm (foldExpansions_unmarked _ (List.mem_of_find?_eq_some hfound) n hn)
    next =>
      have hshift := List.mem_singleton.mp h
      cases hrun : shiftBy foldRuns c.toNat with
      | none =>
          rw [hrun] at hshift
          exact hshift.symm
      | some n =>
          rw [hrun, Option.map_some, Option.getD_some] at hshift
          obtain ⟨r, hr, hfirst, hlast, rfl⟩ := shiftBy_eq_some hrun
          rcases foldRuns_beyond_ascii r hr with hbeyond | ⟨hsingle, hunmarked⟩
          · exact absurd hshift.symm (ofNat_ne_of_large (by omega) (hascii m hm).1 (hascii m hm).2)
          · have hn : c.toNat = r.first := by omega
            rw [hshift, hn] at hm
            exact absurd hm hunmarked

theorem Plain.fold {pattern : List Char} (h : Plain pattern) : Plain (fold pattern) := by
  intro d hd
  obtain ⟨c, hc, hd⟩ := List.mem_flatMap.mp hd
  constructor
  · rintro rfl
    exact (h c hc).1 (eq_of_mem_foldChar (by decide) hd)
  · rintro rfl
    exact (h c hc).2 (eq_of_mem_foldChar (by decide) hd)

/-! ## Folding keeps names covered -/

theorem Covers.literals {w pattern name : List Char} (hw : '*' ∉ w) (h : Covers pattern name) :
    Covers (w ++ pattern) (w ++ name) := by
  induction w with
  | nil => exact h
  | cons c w ih =>
      have hc : '*' ≠ c := List.ne_of_not_mem_cons hw
      exact .literal hc.symm (ih (List.not_mem_of_not_mem_cons hw))

/-- The text in place of a star is folded with the name, and a literal character is folded alike in both. -/
theorem Covers.fold {pattern name : List Char} (h : Covers pattern name) : Covers (fold pattern) (fold name) := by
  induction h with
  | nil => exact .nil
  | @star u pattern name _ ih =>
      have hname : Text.fold (u ++ name) = Text.fold u ++ Text.fold name := List.flatMap_append
      rw [hname]
      exact .star _ ih
  | @literal c hc pattern name _ ih =>
      have hunmarked : '*' ∉ foldChar c := fun hstar => hc (eq_of_mem_foldChar (by decide) hstar)
      exact .literals hunmarked ih

theorem matchesFolded_iff_covers {pattern name : List Char} (h : Plain pattern) :
    matchesFolded pattern name = true ↔ Covers (fold pattern) (fold name) :=
  matchesName_iff_covers h.fold

theorem matchesFolded_of_matchesName {pattern name : List Char} (h : Plain pattern)
    (hmatch : matchesName pattern name = true) : matchesFolded pattern name = true :=
  (matchesFolded_iff_covers h).mpr ((matchesName_iff_covers h).mp hmatch).fold

/-! ## Searches -/

/-- A pattern of stars and literal characters for the names of files, with at least one star. -/
structure StarPattern (pattern : List Char) : Prop where
  plain : Plain pattern
  star : '*' ∈ pattern
  slash : '/' ∉ pattern

/-- The files that are looked at below a path. -/
def searched (path : Path) (recursive : Bool) (entries : List (String × Tree)) : List Path :=
  if recursive then allFilesAmong path entries else directFiles path entries

theorem mem_findFilesFolded {disk : Disk} {path p : Path} {recursive : Bool} {patterns : List (List Char)}
    {entries : List (String × Tree)} (hdisk : disk.find? path = some (.directory entries)) :
    p ∈ findFilesFolded disk path recursive patterns ↔
      p ∈ searched path recursive entries ∧ ∃ pattern ∈ patterns, matchesFolded pattern p.name = true := by
  simp only [findFilesFolded, hdisk, mem_sortedPaths, List.mem_filter, List.any_eq_true, searched]

theorem name_child (path : Path) (name : List Char) : (path.child name).name = name := by
  simp [Path.name, Path.child]

theorem child_mem_allFilesAmong {path : Path} {entries : List (String × Tree)} {name : String} {bytes : List UInt8}
    (h : (name, .file bytes) ∈ entries) : path.child name.toList ∈ allFilesAmong path entries := by
  induction entries with
  | nil => cases h
  | cons e rest ih =>
      rw [allFilesAmong, List.mem_append]
      rcases List.mem_cons.mp h with rfl | h
      · exact .inl List.mem_cons_self
      · exact .inr (ih h)

mutual
/-- What is listed below a path are directories, and their files are files below the path. -/
theorem files_of_directories {path : Path} {t : Tree} {d : Path × Tree} (h : d ∈ directories path t) :
    ∃ entries, d.2 = .directory entries ∧ ∀ q ∈ allFilesAmong d.1 entries, q ∈ allFiles path t := by
  cases t with
  | file bytes => cases h
  | directory entries =>
      rcases List.mem_cons.mp h with rfl | h
      · exact ⟨entries, rfl, fun q hq => hq⟩
      · exact files_of_directoriesAmong h

theorem files_of_directoriesAmong {path : Path} {entries : List (String × Tree)} {d : Path × Tree}
    (h : d ∈ directoriesAmong path entries) :
    ∃ below, d.2 = .directory below ∧ ∀ q ∈ allFilesAmong d.1 below, q ∈ allFilesAmong path entries := by
  cases entries with
  | nil => cases h
  | cons e rest =>
      rw [allFilesAmong]
      rcases List.mem_append.mp h with h | h
      · obtain ⟨below, hbelow, hfiles⟩ := files_of_directories h
        exact ⟨below, hbelow, fun q hq => List.mem_append_left _ (hfiles q hq)⟩
      · obtain ⟨below, hbelow, hfiles⟩ := files_of_directoriesAmong h
        exact ⟨below, hbelow, fun q hq => List.mem_append_right _ (hfiles q hq)⟩
end

section Star

variable {disk : Disk} {path p : Path} {recursive : Bool} {pattern : List Char} {entries : List (String × Tree)}

theorem StarPattern.ofText (h : StarPattern pattern) : Path.ofText pattern = ⟨[], [pattern]⟩ := by
  have hroot : Path.rootOf pattern = [] := by
    unfold Path.rootOf
    split
    · exact absurd List.mem_cons_self h.slash
    · exact absurd List.mem_cons_self h.slash
    · exact absurd List.mem_cons_self h.slash
    · rfl
  have hne : pattern ≠ [] := List.ne_nil_of_mem h.star
  have hdot : pattern ≠ ['.'] := by
    rintro rfl
    exact absurd h.star (by decide)
  rw [Path.ofText, hroot, splitOn_eq_singleton h.slash]
  simp [hne, hdot]

/-- A name with a star is looked for among names, unless it is two stars. -/
theorem StarPattern.selectorOf (h : StarPattern pattern) {step : Selector}
    (hstep : Files.selectorOf pattern = .ok step) :
    step = .anywhere ∨ step = .fitting pattern := by
  have hany : (pattern.any fun c => c == '*' || c == '?' || c == '[') = true :=
    List.any_eq_true.mpr ⟨'*', h.star, rfl⟩
  rw [Files.selectorOf, if_pos hany] at hstep
  split at hstep
  · exact .inl (Except.ok.inj hstep).symm
  · split at hstep
    · cases hstep
    · exact .inr (Except.ok.inj hstep).symm

/-- The steps of such a pattern are one for its names, and before it one for all directories in a search below them. -/
theorem StarPattern.selectors (h : StarPattern pattern) {steps : List Selector}
    (hsteps : Files.selectors recursive pattern = .ok steps) :
    ∃ step, (step = .anywhere ∨ step = .fitting pattern) ∧
      steps = (if recursive then [.anywhere] else []) ++ [step] := by
  have hempty : pattern.isEmpty = false := List.isEmpty_eq_false_iff.mpr (List.ne_nil_of_mem h.star)
  have hlast : (pattern.getLast? == some '/') = false :=
    beq_false_of_ne fun hlast => h.slash (List.mem_of_getLast? hlast)
  simp only [Files.selectors, h.ofText, hempty, hlast, Bool.false_and, Bool.false_eq_true, if_false, List.isEmpty_nil,
    Bool.not_true, List.append_nil] at hsteps
  obtain ⟨chosen, hchosen, hsteps⟩ := of_bind_ok hsteps
  rw [List.mapM_cons] at hchosen
  obtain ⟨step, hstep, hchosen⟩ := of_bind_ok hchosen
  cases hchosen
  refine ⟨step, h.selectorOf hstep, ?_⟩
  rw [if_neg (by simp)] at hsteps
  exact (Except.ok.inj hsteps).symm

/-- The files that the step for the names leads to are files of the directory with a name that fits. -/
theorem select_names {step : Selector} (hstep : step = .anywhere ∨ step = .fitting pattern) {e : Path × Tree}
    (he : e ∈ select disk [step] path (.directory entries)) (hfile : e.2.isFile = true) :
    ∃ name bytes, (name, .file bytes) ∈ entries ∧ matchesName pattern name.toList = true ∧
      e.1 = path.child name.toList := by
  rcases hstep with rfl | rfl
  · obtain ⟨d, hd, he⟩ := List.mem_flatMap.mp he
    obtain ⟨below, hbelow, -⟩ := files_of_directories hd
    rw [List.mem_singleton.mp he, hbelow] at hfile
    cases hfile
  · obtain ⟨⟨name, child⟩, hmem, he⟩ := List.mem_flatMap.mp he
    obtain ⟨hfits, he⟩ := List.mem_ite_nil_right.mp he
    obtain rfl := List.mem_singleton.mp he
    cases child with
    | directory below => cases hfile
    | file bytes => exact ⟨name, bytes, hmem, by simpa using hfits, rfl⟩

theorem globFiles_star (h : StarPattern pattern) (hdisk : disk.find? path = some (.directory entries))
    {found : List Path}
    (hfound : globFiles disk path recursive pattern = .ok found) (hp : p ∈ found) :
    p ∈ searched path recursive entries ∧ matchesName pattern p.name = true := by
  rw [globFiles] at hfound
  obtain ⟨steps, hsteps, hfound⟩ := of_bind_ok hfound
  obtain ⟨step, hstep, rfl⟩ := h.selectors hsteps
  rw [hdisk] at hfound
  cases hfound
  obtain ⟨e, he, rfl⟩ := List.mem_map.mp hp
  obtain ⟨he, hfile⟩ := List.mem_filter.mp he
  cases recursive with
  | true =>
      obtain ⟨⟨path', t⟩, hd, he⟩ := List.mem_flatMap.mp he
      obtain ⟨below, rfl, hfiles⟩ := files_of_directories hd
      obtain ⟨name, bytes, hmem, hfits, hpath⟩ := select_names hstep he hfile
      rw [hpath, name_child]
      exact ⟨hfiles _ (child_mem_allFilesAmong hmem), hfits⟩
  | false =>
      obtain ⟨name, bytes, hmem, hfits, hpath⟩ := select_names hstep he hfile
      rw [hpath, name_child]
      exact ⟨List.mem_map.mpr ⟨_, List.mem_filter.mpr ⟨hmem, rfl⟩, rfl⟩, hfits⟩

theorem globFiles_nowhere (hdisk : ∀ entries, disk.find? path ≠ some (.directory entries)) {found : List Path}
    (hfound : globFiles disk path recursive pattern = .ok found) : found = [] := by
  rw [globFiles] at hfound
  obtain ⟨steps, -, hfound⟩ := of_bind_ok hfound
  split at hfound
  · exact absurd ‹_› (hdisk _)
  · exact (Except.ok.inj hfound).symm

/-- Each file that a search finds is found by the search without regard to letter case. -/
theorem findFiles_subset_folded {patterns : List (List Char)} (h : ∀ pattern ∈ patterns, StarPattern pattern)
    {found : List Path} (hfound : findFiles disk path recursive patterns = .ok found) (hp : p ∈ found) :
    p ∈ findFilesFolded disk path recursive patterns := by
  obtain ⟨lists, hlists, rfl⟩ := of_map_ok hfound
  obtain ⟨list, hlist, hp⟩ := List.mem_flatten.mp (mem_sortedPaths.mp hp)
  obtain ⟨pattern, hpattern, hglob⟩ := mem_of_mapM hlists hlist
  by_cases hdisk : ∃ entries, disk.find? path = some (.directory entries)
  · obtain ⟨entries, hdisk⟩ := hdisk
    obtain ⟨hsearched, hfits⟩ := globFiles_star (h pattern hpattern) hdisk hglob hp
    exact (mem_findFilesFolded hdisk).mpr
      ⟨hsearched, pattern, hpattern, matchesFolded_of_matchesName (h pattern hpattern).plain hfits⟩
  · rw [globFiles_nowhere (not_exists.mp hdisk) hglob] at hp
    cases hp

end Star

/-- A name that fits a pattern of stars and literal characters fits it also if letter case does not count. Whether
it does so depends on the folded name and the folded pattern only: the one has to be the other with some text in
place of each star. A search without regard to case finds all files that the search with regard to it finds. -/
theorem matchesFolded_plain :
    (∀ pattern name, Plain pattern →
      (matchesName pattern name = true ↔ Covers pattern name) ∧
      (matchesFolded pattern name = true ↔ Covers (fold pattern) (fold name)) ∧
      (matchesName pattern name = true → matchesFolded pattern name = true) ∧
      ∀ pattern' name', fold pattern' = fold pattern → fold name' = fold name →
        matchesFolded pattern' name' = matchesFolded pattern name) ∧
    ∀ disk path recursive patterns found, (∀ pattern ∈ patterns, StarPattern pattern) →
      findFiles disk path recursive patterns = .ok found →
        ∀ p ∈ found, p ∈ findFilesFolded disk path recursive patterns := by
  refine ⟨fun pattern name h => ?_,
    fun disk path recursive patterns found h hfound p => findFiles_subset_folded h hfound⟩
  refine ⟨matchesName_iff_covers h, matchesFolded_iff_covers h, matchesFolded_of_matchesName h, ?_⟩
  intro pattern' name' hpattern hname
  rw [matchesFolded, matchesFolded, hpattern, hname]

/-- A letter that is folded to two: the name in capitals has another length, and fits only if letter case does not
count. -/
theorem matchesFolded_plain_sharp_s :
    let pattern := "*ß*.PC".toList
    let name := "Straße.PC".toList
    let capitals := "STRASSE.pc".toList
    let disk : Disk := ⟨.directory [("Straße.PC", .file [])], []⟩
    Plain pattern ∧ matchesName pattern name = true ∧ matchesName pattern capitals = false ∧
      capitals.length ≠ name.length ∧ matchesFolded pattern capitals = true ∧
      findFiles disk ⟨[], []⟩ true [pattern] = .ok [⟨[], [name]⟩] ∧
      ⟨[], [name]⟩ ∈ findFilesFolded disk ⟨[], []⟩ true [pattern] := by
  intro pattern name capitals disk
  have hplain : Plain pattern := by decide
  have hstar : StarPattern pattern := ⟨hplain, by decide, by decide⟩
  have hmatch : matchesName pattern name = true := by decide +kernel
  have hfold : fold capitals = fold name := by decide +kernel
  have hfound : findFiles disk ⟨[], []⟩ true [pattern] = .ok [⟨[], [name]⟩] := by decide +kernel
  obtain ⟨-, -, hfolded, hsame⟩ := matchesFolded_plain.1 pattern name hplain
  refine ⟨hplain, hmatch, by decide +kernel, by decide, (hsame pattern capitals rfl hfold).trans (hfolded hmatch),
    hfound, ?_⟩
  exact matchesFolded_plain.2 disk ⟨[], []⟩ true [pattern] _ (by simpa using hstar) hfound _ List.mem_cons_self

end EsqlAudit.Files
