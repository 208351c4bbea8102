import EsqlAudit.Proofs.Memory.Findings
import EsqlAudit.Proofs.Text.Words
import Mathlib.Data.List.Nodup
import Mathlib.Data.List.Sort
import Mathlib.Data.List.TakeWhile

/-!
# Calls of dangerous functions

The dangerous functions are searched for one after the other, and the names of some are parts of the names of
others. All the same each call is found once: a name is taken only as a whole word, so it cannot start inside
another name, and the run of word characters at a place spells at most one of the names.
-/

namespace EsqlAudit.Memory
open Text

/-! ## Calls at a place -/

/-- At the place after `u` and before `x` the function is called: no word character stands before its name, in any
letter case, and white space and a parenthesis come after it. -/
def StartsCall (name : String) (u x : List Char) : Prop :=
  u.getLast?.any isWord = false ∧ ∃ v b t, x = v ++ (b ++ '(' :: t) ∧ Spells name v ∧ Blanks b

/-- The function is called at a position of the text. -/
def CalledAt (name : String) (source : List Char) (pos : Nat) : Prop :=
  StartsCall name (source.take pos) (source.drop pos)

variable {name name' : String} {u x : List Char}

theorem startsCall_iff : StartsCall name u x ↔ u.getLast?.any isWord = false ∧ Spells name (x.take name.toList.length) ∧
    ((x.drop name.toList.length).dropWhile isBlank).head? = some '(' := by
  refine and_congr_right fun _ => ?_
  constructor
  · rintro ⟨v, b, t, rfl, hv, hb⟩
    rw [← hv.length_eq, List.take_left, List.drop_left, List.dropWhile_append_of_pos hb]
    exact ⟨hv, rfl⟩
  · rintro ⟨hv, hopen⟩
    obtain ⟨t, ht⟩ := List.head?_eq_some_iff.mp hopen
    refine ⟨_, (x.drop name.toList.length).takeWhile isBlank, t, ?_, hv, fun c hc => List.mem_takeWhile_imp hc⟩
    rw [← ht, List.takeWhile_append_dropWhile, List.take_append_drop]

instance (name : String) (u x : List Char) : Decidable (StartsCall name u x) :=
  decidable_of_iff _ startsCall_iff.symm

instance (name : String) (source : List Char) (pos : Nat) : Decidable (CalledAt name source pos) :=
  inferInstanceAs (Decidable (StartsCall name (source.take pos) (source.drop pos)))

theorem head?_blanks {b : List Char} (hb : Blanks b) (t : List Char) : (b ++ '(' :: t).head?.any isWord = false := by
  cases b with
  | nil => exact (by decide : isWord '(' = false)
  | cons c b => exact isWord_of_isBlank (hb c List.mem_cons_self)

/-- What is found at a place ends with the parenthesis. -/
theorem at?_callPattern (hname : Lettered name) {o : Occurrence} (ho : (callPattern name).at? (.between u x) = some o) :
    u.getLast?.any isWord = false ∧ ∃ v b t, x = v ++ (b ++ '(' :: t) ∧ Spells name v ∧ Blanks b ∧
      o.span = ⟨u.length, u.length + (v.length + b.length + 1)⟩ := by
  obtain ⟨_, t, rfl, hfits, hspan⟩ := Pattern.at?_sound ho
  obtain ⟨_, _, _, rfl, hfits₁, hfits⟩ := Pattern.fits_seq.mp hfits
  obtain ⟨rfl, hedge, rfl⟩ := Pattern.fits_wordEdge.mp hfits₁
  obtain ⟨v, _, _, rfl, hfits₂, hfits⟩ := Pattern.fits_seq.mp hfits
  obtain ⟨hv, rfl⟩ := Pattern.fits_word.mp hfits₂
  obtain ⟨b, _, _, rfl, hfits₃, hfits⟩ := Pattern.fits_seq.mp hfits
  obtain ⟨hb, rfl⟩ := Pattern.fits_blanks.mp hfits₃
  obtain ⟨_, _, _, rfl, hfits₄, hfits⟩ := Pattern.fits_seq.mp hfits
  obtain ⟨rfl, rfl⟩ := Pattern.fits_exactly.mp hfits₄
  obtain ⟨rfl, -⟩ := Pattern.fits_empty.mp hfits
  refine ⟨?_, v, b, t, by simp, hv, hb, by simpa [Nat.add_assoc] using hspan⟩
  simpa [isWordEdge_before (hv.ne_nil hname) (hv.isWord hname)] using hedge

theorem at?_callPattern_complete (hname : Lettered name) (h : StartsCall name u x) :
    ∃ o, (callPattern name).at? (.between u x) = some o := by
  obtain ⟨hbefore, v, b, t, rfl, hv, hb⟩ := h
  have hedge : (Place.between u (v ++ (b ++ '(' :: t))).isWordEdge = true :=
    (isWordEdge_before (hv.ne_nil hname) (hv.isWord hname)).mpr hbefore
  have hfits : Pattern.Fits (callPattern name) u ([] ++ (v ++ (b ++ ("(".toList ++ [])))) t [] [] :=
    .seq (.wordEdge (by simpa using hedge)) <| .seq (Pattern.fits_word.mpr ⟨hv, rfl⟩) <|
      .seq (Pattern.fits_blanks.mpr ⟨hb, rfl⟩) <| .seq (Pattern.fits_exactly.mpr ⟨rfl, rfl⟩) .empty
  obtain ⟨o, ho⟩ := Pattern.at?_complete hfits
  exact ⟨o, by simpa using ho⟩

/-! ## Calls apart from each other -/

theorem StartsCall.starts (hname : Lettered name) (h : StartsCall name u x) : ∃ c y, x = c :: y ∧ isWord c = true := by
  obtain ⟨-, v, b, t, rfl, hv, -⟩ := h
  obtain ⟨c, v', rfl⟩ := List.exists_cons_of_ne_nil (hv.ne_nil hname)
  exact ⟨c, _, rfl, hv.isWord hname c List.mem_cons_self⟩

/-- No call starts inside another one. -/
theorem not_startsCall_inside (hname : Lettered name) {v b y z t : List Char} (hv : ∀ c ∈ v, isWord c = true)
    (hb : Blanks b) (hy : y ≠ []) (hz : z ≠ []) (h : v ++ (b ++ ['(']) = y ++ z) :
    ¬ StartsCall name (u ++ y) (z ++ t) := by
  intro hcall
  obtain ⟨c, z, rfl⟩ := List.exists_cons_of_ne_nil hz
  obtain ⟨_, _, hx, hword⟩ := hcall.starts hname
  obtain ⟨rfl, -⟩ := List.cons.inj hx
  rcases List.append_eq_append_iff.mp h with ⟨a, rfl, ha⟩ | ⟨a, rfl, -⟩
  · -- The character at the place is white space or the parenthesis.
    have hmem : c ∈ b ++ ['('] := by simp [ha]
    rcases List.mem_append.mp hmem with hc | hc
    · simp [isWord_of_isBlank (hb c hc)] at hword
    · obtain rfl := List.mem_singleton.mp hc
      exact absurd hword (by decide)
  · -- The character before the place is one of the name.
    have hlast := any_getLast?_append (u := u) hy fun d hd => hv d (List.mem_append_left a hd)
    rw [hcall.1] at hlast
    cases hlast

theorem CalledAt.lt_length (hname : Lettered name) {source : List Char} {pos : Nat} (h : CalledAt name source pos) :
    pos < source.length := by
  obtain ⟨c, y, hx, -⟩ := StartsCall.starts hname h
  refine Nat.lt_of_not_le fun hle => ?_
  rw [List.drop_eq_nil_of_le hle] at hx
  cases hx

theorem CalledAt.apart (hname : Lettered name) {source v b t : List Char} {pos pos' : Nat}
    (h : CalledAt name source pos')
    (hx : source.drop pos = v ++ (b ++ '(' :: t)) (hv : ∀ c ∈ v, isWord c = true) (hb : Blanks b) (hlt : pos < pos') :
    pos + (v.length + b.length + 1) ≤ pos' := by
  refine Nat.le_of_not_lt fun hinside => ?_
  obtain ⟨k, rfl⟩ := Nat.exists_eq_add_of_le (Nat.le_of_lt hlt)
  have hlength : (v ++ (b ++ ['('])).length = v.length + b.length + 1 := by simp [Nat.add_assoc]
  have hx' : source.drop pos = (v ++ (b ++ ['('])) ++ t := by simp [hx]
  have hy : (v ++ (b ++ ['('])).take k ≠ [] := by
    rw [ne_eq, List.take_eq_nil_iff]
    simp
    omega
  have hz : (v ++ (b ++ ['('])).drop k ≠ [] := by
    rw [ne_eq, List.drop_eq_nil_iff]
    omega
  refine not_startsCall_inside (u := source.take pos) (t := t) hname hv hb hy hz (List.take_append_drop ..).symm ?_
  rw [CalledAt, List.take_add, ← List.drop_drop, hx', List.take_append_of_le_length (by omega),
    List.drop_append_of_le_length (by omega)] at h
  exact h

/-! ## The positions that are found -/

/-- The positions that the search for one function finds. -/
def starts (name : String) (source : List Char) : List Nat :=
  ((callPattern name).findAll source).map (·.span.start)

theorem mem_starts_iff (hname : Lettered name) {source : List Char} {pos : Nat} :
    pos ∈ starts name source ↔ CalledAt name source pos := by
  have hscans := Pattern.scans_findAll (callPattern name) source
  constructor
  · intro h
    obtain ⟨o, ho, rfl⟩ := List.mem_map.mp h
    obtain ⟨v, w, t, rfl, -, hat, hspan⟩ := hscans.mem ho
    obtain ⟨hbefore, v', b, t', hx, hv, hb, -⟩ := at?_callPattern hname hat
    rw [hspan, CalledAt, List.nil_append, List.take_left, List.drop_left]
    exact ⟨hbefore, v', b, t', hx, hv, hb⟩
  · intro h
    have hlt := h.lt_length hname
    obtain ⟨o, ho⟩ := at?_callPattern_complete hname h
    obtain ⟨-, v, b, t, -, -, -, hspan⟩ := at?_callPattern hname ho
    have hpos : (source.take pos).length = pos := by simp; omega
    obtain ⟨o', ho', hle, hstop⟩ := hscans.covers (List.take_append_drop pos source).symm (by simpa using ho)
      (by simp [hspan])
    rw [List.nil_append, hpos] at hle hstop
    -- The occurrence found there starts at the position itself, for no call starts inside another one.
    obtain ⟨v₀, w₀, t₀, hsource, -, hat, hspan₀⟩ := hscans.mem ho'
    obtain ⟨-, v', b', t', hx, hv, hb, hspan'⟩ := at?_callPattern hname hat
    rw [List.nil_append] at hspan'
    have hdrop : source.drop v₀.length = v' ++ (b' ++ '(' :: t') := by rw [hsource, List.drop_left, hx]
    rw [hspan'] at hle hstop
    rcases Nat.eq_or_lt_of_le hle with heq | hinside
    · exact List.mem_map.mpr ⟨o', ho', by rw [hspan']; exact heq⟩
    · exact absurd (h.apart hname hdrop (hv.isWord hname) hb hinside) (Nat.not_le.mpr hstop)

theorem starts_eq (hname : Lettered name) (source : List Char) :
    starts name source = (List.range source.length).filter fun pos => decide (CalledAt name source pos) := by
  have hsorted : (starts name source).Pairwise (· < ·) :=
    (Pattern.scans_findAll (callPattern name) source).ordered.map _ fun _ _ h => h
  refine hsorted.eq_of_mem_iff (List.pairwise_lt_range.filter _) fun pos => ?_
  rw [mem_starts_iff hname, List.mem_filter, List.mem_range, decide_eq_true_eq]
  exact ⟨fun h => ⟨h.lt_length hname, h⟩, fun h => h.2⟩

/-! ## The dangerous functions -/

theorem lettered_of_mem : ∀ d ∈ dangerous, Lettered d.name := by
  decide

theorem nodup_keys : (dangerous.map fun d => d.name.toList.map caseKey).Nodup := by
  decide

/-- At most one of the functions is called at a place: the word there spells its name. -/
theorem eq_of_startsCall {d d' : Dangerous} (hd : d ∈ dangerous) (hd' : d' ∈ dangerous) (h : StartsCall d.name u x)
    (h' : StartsCall d'.name u x) : d = d' := by
  have hword : ∀ {e : Dangerous}, e ∈ dangerous → StartsCall e.name u x → Spells e.name (x.takeWhile isWord) := by
    rintro e he ⟨-, v, b, t, rfl, hv, hb⟩
    rwa [takeWhile_run (hv.isWord (lettered_of_mem e he)) (head?_blanks hb t)]
  exact List.inj_on_of_nodup_map nodup_keys hd hd' ((hword hd h).symm.trans (hword hd' h'))

/-- The positions that the searches for the dangerous functions find, function by function. -/
def matched (source : List Char) : List Nat :=
  dangerous.flatMap fun d => starts d.name source

/-- Some dangerous function is called at a position of the text. -/
def DangerousAt (source : List Char) (pos : Nat) : Prop :=
  ∃ d ∈ dangerous, CalledAt d.name source pos

instance (source : List Char) (pos : Nat) : Decidable (DangerousAt source pos) :=
  inferInstanceAs (Decidable (∃ d ∈ dangerous, CalledAt d.name source pos))

theorem mem_matched_iff {source : List Char} {pos : Nat} : pos ∈ matched source ↔ DangerousAt source pos := by
  rw [matched, List.mem_flatMap]
  exact exists_congr fun d => and_congr_right fun hd => mem_starts_iff (lettered_of_mem d hd)

theorem nodup_matched (source : List Char) : (matched source).Nodup := by
  refine List.nodup_flatMap.mpr ⟨fun d hd => ?_, ?_⟩
  · rw [starts_eq (lettered_of_mem d hd)]
    exact List.nodup_range.filter _
  · have hkeys : dangerous.Pairwise fun d d' => d.name.toList.map caseKey ≠ d'.name.toList.map caseKey :=
      List.pairwise_map.mp nodup_keys
    refine hkeys.imp_of_mem fun {d d'} hd hd' hne pos hpos hpos' => hne ?_
    have hcall := (mem_starts_iff (lettered_of_mem d hd)).mp hpos
    have hcall' := (mem_starts_iff (lettered_of_mem d' hd')).mp hpos'
    rw [eq_of_startsCall hd hd' hcall hcall']

theorem length_matched (source : List Char) :
    (matched source).length = (List.range source.length).countP fun pos => decide (DangerousAt source pos) := by
  have hperm : (matched source).Perm
      ((List.range source.length).filter fun pos => decide (DangerousAt source pos)) := by
    refine (List.perm_ext_iff_of_nodup (nodup_matched source) (List.nodup_range.filter _)).mpr fun pos => ?_
    rw [mem_matched_iff, List.mem_filter, List.mem_range, decide_eq_true_eq]
    refine ⟨fun h => ⟨?_, h⟩, fun h => h.2⟩
    obtain ⟨d, hd, hcall⟩ := h
    exact hcall.lt_length (lettered_of_mem d hd)
  rw [hperm.length_eq, List.countP_eq_length_filter]

/-! ## The calls that are reported -/

theorem calls_eq (source : List Char) : (examine source).calls = dangerous.flatMap fun d =>
    ((List.range source.length).filter fun pos => decide (CalledAt d.name source pos)).map
      fun pos => ⟨d, lineAt source pos⟩ := by
  rw [calls_examine, dangerousCalls]
  refine List.flatMap_congr fun d hd => ?_
  rw [← starts_eq (lettered_of_mem d hd), starts, List.map_map]
  rfl

theorem length_calls (source : List Char) : (examine source).calls.length = (matched source).length := by
  have hlines : (examine source).calls.map (·.line) = (matched source).map (lineAt source) := by
    rw [calls_examine]
    simp only [dangerousCalls, matched, starts, List.map_flatMap, List.map_map]
    rfl
  simpa using congrArg List.length hlines

/-- The searches for the dangerous functions find each position at which one of them is called, and no other, and
each of them once. The calls that are reported are these, function by function in the order of the text, with
their lines, and there is one issue for each. No listed name starts inside a call of another one. -/
theorem dangerousCalls_exact (source : List Char) :
    (matched source).Nodup ∧ (∀ pos, pos ∈ matched source ↔ DangerousAt source pos) ∧
    (examine source).calls = (dangerous.flatMap fun d =>
      ((List.range source.length).filter fun pos => decide (CalledAt d.name source pos)).map
        fun pos => ⟨d, lineAt source pos⟩) ∧
    (examine source).calls.length = ((List.range source.length).countP fun pos => decide (DangerousAt source pos)) ∧
    (examine source).findings ["dangerous_function", "buffer_overflow"] =
      (examine source).calls.map (fun c => (c.line, .dangerous c.function)) ∧
    ∀ d ∈ dangerous, ∀ d' ∈ dangerous, ∀ pos pos', CalledAt d.name source pos → CalledAt d'.name source pos' →
      (pos = pos' → d = d') ∧ (pos < pos' → pos + d.name.length < pos') := by
  refine ⟨nodup_matched source, fun _ => mem_matched_iff, calls_eq source, ?_, findings_calls source, ?_⟩
  · rw [length_calls, length_matched]
  · intro d hd d' hd' pos pos' h h'
    constructor
    · rintro rfl
      exact eq_of_startsCall hd hd' h h'
    · intro hlt
      obtain ⟨-, v, b, t, hx, hv, hb⟩ := h
      have hapart := h'.apart (lettered_of_mem d' hd') hx (hv.isWord (lettered_of_mem d hd)) hb hlt
      have hlength : v.length = d.name.length := hv.length_eq.trans String.length_toList
      omega

example : (examine "fscanf(f);\nVSprintf (s);gets(x)".toList).calls.map (fun c => (c.function.name, c.line)) =
    [("gets", 2), ("vsprintf", 2), ("fscanf", 1)] := by
  decide +kernel

end EsqlAudit.Memory
