import EsqlAudit.Proofs.Memory.Sites
import EsqlAudit.Proofs.Text.Lines
import EsqlAudit.Proofs.Text.Occurrences
import Mathlib.Data.List.Basic

/-!
# Checks and resets within reach

A check of a variable is looked for in the text from its allocation on, a reset in the text after its freeing. Of
the checks of one form only the first is looked at, and of the resets only the first, so that one of another
variable hides all that follow.
-/

namespace EsqlAudit.Memory
open Text

/-! ## Occurrences about a variable -/

/-- The variable that an occurrence is about. -/
def subject (s : List Char) (o : Occurrence) : String :=
  String.ofList (o.groupText s 1)

/-- Some occurrence of the pattern is about the variable. -/
def Mentions (p : Pattern) (s : List Char) (name : String) : Prop :=
  ∃ o ∈ p.findAll s, subject s o = name

/-- Some occurrence of the pattern is about the variable, and so are all that stand before it. -/
def MentionsFirst (p : Pattern) (s : List Char) (name : String) : Prop :=
  ∃ o ∈ p.findAll s, subject s o = name ∧ ∀ o' ∈ p.findAll s, o'.span.start < o.span.start → subject s o' = name

instance (p : Pattern) (s : List Char) (name : String) : Decidable (Mentions p s name) :=
  inferInstanceAs (Decidable (∃ o ∈ p.findAll s, subject s o = name))

instance (p : Pattern) (s : List Char) (name : String) : Decidable (MentionsFirst p s name) :=
  inferInstanceAs (Decidable (∃ o ∈ p.findAll s, subject s o = name ∧
    ∀ o' ∈ p.findAll s, o'.span.start < o.span.start → subject s o' = name))

variable {p : Pattern} {s source : List Char} {name : String}

theorem MentionsFirst.mentions (h : MentionsFirst p s name) : Mentions p s name := by
  obtain ⟨o, ho, hname, -⟩ := h
  exact ⟨o, ho, hname⟩

theorem mentionsFirst_iff (hp : p.isNullable = false) :
    MentionsFirst p s name ↔ ∃ o, p.find? s = some o ∧ subject s o = name := by
  have hordered := (Pattern.scans_findAll p s).ordered
  rw [Pattern.find?_eq_head? hp, MentionsFirst]
  cases hall : p.findAll s with
  | nil => simp
  | cons first rest =>
      rw [hall, List.pairwise_cons] at hordered
      -- The first occurrence stands before every other, so what holds of all before some occurrence holds of it.
      constructor
      · rintro ⟨o, ho, hname, hbefore⟩
        refine ⟨first, rfl, ?_⟩
        rcases List.mem_cons.mp ho with rfl | ho
        · exact hname
        · exact hbefore first List.mem_cons_self (hordered.1 o ho)
      · rintro ⟨o, ho, hname⟩
        cases ho
        refine ⟨first, List.mem_cons_self, hname, fun o' ho' hlt => ?_⟩
        rcases List.mem_cons.mp ho' with rfl | ho'
        · exact hname
        · exact absurd (hordered.1 o' ho') (Nat.lt_asymm hlt)

/-! ## Checks -/

/-- The text in which a check of an allocation is expected: what stands from the start of its line on, as far as
it is in reach. -/
def checkText (source : List Char) (line : Nat) : List Char :=
  (joinWith ['\n'] ((lines source).drop (line - 1))).take checkReach

/-- Some condition in reach checks the variable of the allocation. -/
def HasCheck (source : List Char) (a : Allocation) : Prop :=
  ∃ p ∈ checkPatterns, Mentions p (checkText source a.line) a.name

/-- Some condition in reach checks the variable of the allocation, and none of its form before it checks another. -/
def HasFirstCheck (source : List Char) (a : Allocation) : Prop :=
  ∃ p ∈ checkPatterns, MentionsFirst p (checkText source a.line) a.name

instance (source : List Char) (a : Allocation) : Decidable (HasCheck source a) :=
  inferInstanceAs (Decidable (∃ p ∈ checkPatterns, Mentions p (checkText source a.line) a.name))

theorem HasFirstCheck.hasCheck {a : Allocation} (h : HasFirstCheck source a) : HasCheck source a := by
  obtain ⟨p, hp, h⟩ := h
  exact ⟨p, hp, h.mentions⟩

theorem checkPatterns_take : ∀ p ∈ checkPatterns, p.isNullable = false := by
  decide

theorem isChecked_iff (source : List Char) (name : String) (line : Nat) :
    isChecked source name line = true ↔ ∃ p ∈ checkPatterns, MentionsFirst p (checkText source line) name := by
  have htext : slice source (linePosition source line) (linePosition source line + checkReach) =
      checkText source line := by
    rw [slice, Nat.add_sub_cancel_left, drop_linePosition, checkText]
  rw [isChecked, htext, List.any_eq_true]
  refine exists_congr fun p => and_congr_right fun hp => ?_
  rw [mentionsFirst_iff (checkPatterns_take p hp)]
  cases p.find? (checkText source line) with
  | none => simp
  | some o => simp [subject]

theorem checked_iff {a : Allocation} (ha : a ∈ (examine source).allocations) :
    a.isChecked = true ↔ HasFirstCheck source a := by
  rw [allocations_examine] at ha
  rw [(marks_of_mem ha).1]
  exact isChecked_iff source a.name a.line

/-! ## Resets -/

/-- The text in which a variable that is freed is expected to be set to `NULL`. -/
def resetText (source : List Char) (o : Occurrence) : List Char :=
  (source.drop o.span.stop).take resetReach

/-- The variable that is freed is set to `NULL` in reach. -/
def HasReset (source : List Char) (o : Occurrence) : Prop :=
  Mentions resetPattern (resetText source o) (subject source o)

/-- The variable that is freed is set to `NULL` in reach, and no other variable before it. -/
def HasFirstReset (source : List Char) (o : Occurrence) : Prop :=
  MentionsFirst resetPattern (resetText source o) (subject source o)

instance (source : List Char) (o : Occurrence) : Decidable (HasReset source o) :=
  inferInstanceAs (Decidable (Mentions resetPattern (resetText source o) (subject source o)))

instance (source : List Char) (o : Occurrence) : Decidable (HasFirstReset source o) :=
  inferInstanceAs (Decidable (MentionsFirst resetPattern (resetText source o) (subject source o)))

theorem frees_eq (source : List Char) : frees source = (freePattern.findAll source).map fun o =>
    ⟨subject source o, lineAt source o.span.start, decide (HasFirstReset source o)⟩ := by
  rw [frees]
  refine List.map_congr_left fun o _ => ?_
  have htext : slice source o.span.stop (o.span.stop + resetReach) = resetText source o := by
    rw [slice, Nat.add_sub_cancel_left, resetText]
  have hreset : HasFirstReset source o ↔
      ∃ r, resetPattern.find? (resetText source o) = some r ∧ subject (resetText source o) r = subject source o :=
    mentionsFirst_iff (by decide)
  simp only [htext, hreset, subject]
  cases resetPattern.find? (resetText source o) with
  | none => simp
  | some r =>
      rw [Free.mk.injEq, Bool.eq_iff_iff]
      simp [String.ofList_inj]

/-- What is reported of a call of `free`. -/
def unresetAt (source : List Char) (o : Occurrence) : Nat × Problem :=
  (lineAt source o.span.start, .notReset (subject source o))

theorem unreset_eq (source : List Char) : unreset source =
    ((freePattern.findAll source).filter fun o => !decide (HasFirstReset source o)).map (unresetAt source) := by
  rw [unreset, frees_eq, List.filter_map, List.map_map]
  rfl

theorem filter_map_eq_iff {α β : Type} {xs : List α} {f : α → β} {q r : α → Bool} (h : ∀ x, r x = true → q x = true) :
    (xs.filter q).map f = (xs.filter r).map f ↔ ∀ x ∈ xs, q x = true → r x = true := by
  constructor
  · intro heq x hx hq
    have hlength : (xs.filter r).length = (xs.filter q).length := by
      simpa using congrArg List.length heq.symm
    -- What the stronger condition keeps is part of what the weaker one keeps, and as much of it.
    have hsame : xs.filter r = xs.filter q := (List.monotone_filter_right xs h).eq_of_length hlength
    have hmem : x ∈ xs.filter r := hsame ▸ List.mem_filter.mpr ⟨hx, hq⟩
    exact (List.mem_filter.mp hmem).2
  · intro hall
    have hsame : xs.filter q = xs.filter r :=
      List.filter_congr fun x hx => Bool.eq_iff_iff.mpr ⟨hall x hx, h x⟩
    rw [hsame]

/-! ## What is seen -/

/-- An allocation counts as checked if and only if a condition in reach checks its variable and no condition of
the same form before it checks another. So the flag tells whether the variable is checked in reach if and only if,
where it is, some check of it comes first among those of its form. In the same way a call of `free` is reported if
and only if its variable is not set to `NULL` in reach before any other is, and these are the calls after which
the variable is not set to `NULL` in reach at all if and only if, wherever it is, it comes first. -/
theorem checks_and_resets_seen_iff (source : List Char) :
    (∀ a ∈ (examine source).allocations,
      (a.isChecked = true ↔ HasFirstCheck source a) ∧
      ((a.isChecked = true ↔ HasCheck source a) ↔ (HasCheck source a → HasFirstCheck source a))) ∧
    (examine source).findings ["free_no_null"] =
      ((freePattern.findAll source).filter fun o => !decide (HasFirstReset source o)).map (unresetAt source) ∧
    ((examine source).findings ["free_no_null"] =
        ((freePattern.findAll source).filter fun o => !decide (HasReset source o)).map (unresetAt source) ↔
      ∀ o ∈ freePattern.findAll source, HasReset source o → HasFirstReset source o) := by
  have hfound : (examine source).findings ["free_no_null"] =
      ((freePattern.findAll source).filter fun o => !decide (HasFirstReset source o)).map (unresetAt source) :=
    (findings_unreset source).trans (unreset_eq source)
  refine ⟨fun a ha => ?_, hfound, ?_⟩
  · rw [checked_iff ha]
    exact ⟨Iff.rfl, fun h => h.mpr, fun h => ⟨HasFirstCheck.hasCheck, h⟩⟩
  · have hweaker : ∀ o, (!decide (HasReset source o)) = true → (!decide (HasFirstReset source o)) = true := by
      intro o h
      simp only [Bool.not_eq_true', decide_eq_false_iff_not] at h ⊢
      exact fun hfirst => h hfirst.mentions
    rw [hfound, filter_map_eq_iff hweaker]
    refine forall_congr' fun o => forall_congr' fun _ => ?_
    simp only [Bool.not_eq_true', decide_eq_false_iff_not]
    exact not_imp_not

/-- A check and a reset in reach are missed, because another variable is checked and reset before. -/
theorem check_and_reset_missed :
    let source := "p=malloc(1);if(!q);if(!p);free(p);q=NULL;p=NULL;".toList
    (∃ a ∈ (examine source).allocations, HasCheck source a ∧ a.isChecked = false) ∧
      (∀ o ∈ freePattern.findAll source, HasReset source o) ∧
      ((examine source).findings ["free_no_null"]).map (·.1) = [1] := by
  decide +kernel

end EsqlAudit.Memory
