import EsqlAudit.Comment.Todo
import EsqlAudit.Proofs.Text.Splice
import EsqlAudit.Proofs.Text.Words

/-!
# Tags at a place

A note starts where a word of the text is a tag. It takes the tag, the colons and white space after it, newlines
included, and the rest of the line that is reached then.
-/

namespace EsqlAudit.Comment
open Text

/-! ## Tags -/

/-- The word is one of the tags, in any letter case. -/
def IsTag (w : List Char) : Prop :=
  ∃ t ∈ tags, Spells t.1 w

instance (w : List Char) : Decidable (IsTag w) :=
  inferInstanceAs (Decidable (∃ t ∈ tags, Spells t.1 w))

theorem lettered_of_mem_tags : ∀ t ∈ tags, Lettered t.1 := by
  decide

theorem IsTag.isWord {w : List Char} (h : IsTag w) : ∀ c ∈ w, isWord c = true := by
  obtain ⟨t, ht, hw⟩ := h
  exact hw.isWord (lettered_of_mem_tags t ht)

theorem IsTag.ne_nil {w : List Char} (h : IsTag w) : w ≠ [] := by
  obtain ⟨t, ht, hw⟩ := h
  exact hw.ne_nil (lettered_of_mem_tags t ht)

/-- A tag stands between the texts `u` and `z` as a whole word. -/
structure TagBetween (u w z : List Char) : Prop where
  isTag : IsTag w
  before : u.getLast?.any isWord = false
  after : z.head?.any isWord = false

variable {u w z : List Char}

theorem TagBetween.takeWhile (h : TagBetween u w z) : (w ++ z).takeWhile isWord = w :=
  takeWhile_run h.isTag.isWord h.after

/-- A tag stands as a whole word at the start of `x`, after the text `u`. -/
def IsTagAt (u x : List Char) : Prop :=
  u.getLast?.any isWord = false ∧ IsTag (x.takeWhile isWord)

theorem TagBetween.isTagAt (h : TagBetween u w z) : IsTagAt u (w ++ z) :=
  ⟨h.before, h.takeWhile.symm ▸ h.isTag⟩

theorem IsTagAt.tagBetween {x : List Char} (h : IsTagAt u x) : TagBetween u (x.takeWhile isWord) (x.dropWhile isWord) :=
  ⟨h.2, h.1, head?_dropWhile_any isWord x⟩

theorem isTagAt_append {x t : List Char} (ht : t.head?.any isWord = false) : IsTagAt u (x ++ t) ↔ IsTagAt u x := by
  rw [IsTagAt, IsTagAt, takeWhile_append_of_head ht]

/-- A tag stays one in front of a text that does not start with a word character. -/
theorem TagBetween.append {t : List Char} (h : TagBetween u w z) (ht : t.head?.any isWord = false) :
    TagBetween u w (z ++ t) := by
  refine ⟨h.isTag, h.before, ?_⟩
  cases z with
  | nil => exact ht
  | cons c z => exact h.after

/-! ## What a note takes -/

/-- What may stand between a tag and its message. -/
def isFiller (c : Char) : Bool :=
  c == ':' || isBlank c

/-- What a note takes after its tag. -/
def noteRest (z : List Char) : List Char :=
  z.takeWhile isFiller ++ (z.dropWhile isFiller).takeWhile notNewline

/-- What stands after a note, given the text after its tag. -/
def afterNote (z : List Char) : List Char :=
  (z.dropWhile isFiller).dropWhile notNewline

theorem noteRest_append_afterNote (z : List Char) : noteRest z ++ afterNote z = z := by
  rw [noteRest, afterNote, List.append_assoc, List.takeWhile_append_dropWhile, List.takeWhile_append_dropWhile]

theorem isLineEnd_afterNote (u z : List Char) : (Place.between u (afterNote z)).isLineEnd = true :=
  (isLineEnd_between u _).mpr (head?_dropWhile_any notNewline _)

/-- The end of the pattern reads as much as it can. -/
theorem read_noteRest {α : Type} {next : Reading → Option α} {a : α} {gs : List (Nat × Span)} (u z : List Char)
    (h : next ⟨.between (u ++ noteRest z) (afterNote z),
      (2, ⟨(u ++ z.takeWhile isFiller).length, (u ++ noteRest z).length⟩) :: gs⟩ = some a) :
    (Pattern.all [.greedy isFiller, .group 2 (.greedy notNewline), .lineEnd]).read ⟨.between u z, gs⟩ next =
      some a := by
  have hend := isLineEnd_afterNote (u ++ noteRest z) z
  refine greedyRun_longest u z ?_
  refine greedyRun_longest (u ++ z.takeWhile isFiller) (z.dropWhile isFiller) ?_
  rw [List.append_assoc]
  change (if (Place.between (u ++ noteRest z) (afterNote z)).isLineEnd then _ else none) = some a
  rw [if_pos hend]
  exact h

theorem todoPattern_eq : todoPattern = .seq .wordEdge (.seq (.group 1 (.any (tags.map fun t => .word t.1)))
    (.seq .wordEdge (.all [.greedy isFiller, .group 2 (.greedy notNewline), .lineEnd]))) :=
  rfl

theorem fits_tags {t : List Char} {gs gs' : List (Nat × Span)} :
    Pattern.Fits (.any (tags.map fun t => .word t.1)) u w t gs gs' ↔ IsTag w ∧ gs' = gs := by
  rw [Pattern.fits_any]
  constructor
  · rintro ⟨p, hp, hfits⟩
    obtain ⟨tag, htag, rfl⟩ := List.mem_map.mp hp
    obtain ⟨hspells, rfl⟩ := Pattern.fits_word.mp hfits
    exact ⟨⟨tag, htag, hspells⟩, rfl⟩
  · rintro ⟨⟨tag, htag, hspells⟩, rfl⟩
    exact ⟨_, List.mem_map_of_mem htag, Pattern.fits_word.mpr ⟨hspells, rfl⟩⟩

/-- What is found at a place is a note with the tag there. -/
theorem at?_todoPattern {x : List Char} {o : Occurrence} (ho : todoPattern.at? (.between u x) = some o) :
    ∃ w z, x = w ++ z ∧ TagBetween u w z ∧ o.span = ⟨u.length, (u ++ (w ++ noteRest z)).length⟩ ∧
      o.groupText (u ++ x) 1 = w := by
  rw [todoPattern_eq, Pattern.at?] at ho
  obtain ⟨_, _, _, rfl, hfits₁, hread₁⟩ := Pattern.read_seq ho
  obtain ⟨rfl, hbefore, rfl⟩ := Pattern.fits_wordEdge.mp hfits₁
  obtain ⟨w, _, _, rfl, hfits₂, hread₂⟩ := Pattern.read_seq hread₁
  obtain ⟨_, hfits₃, rfl⟩ := Pattern.fits_group.mp hfits₂
  obtain ⟨htag, rfl⟩ := fits_tags.mp hfits₃
  obtain ⟨_, z, _, rfl, hfits₄, hread₃⟩ := Pattern.read_seq hread₂
  obtain ⟨rfl, hafter, rfl⟩ := Pattern.fits_wordEdge.mp hfits₄
  cases hread₃.symm.trans (read_noteRest _ z rfl)
  refine ⟨w, z, by simp, ⟨htag, ?_, ?_⟩, ?_, ?_⟩
  · simpa [isWordEdge_before htag.ne_nil htag.isWord] using hbefore
  · simpa [isWordEdge_after htag.ne_nil htag.isWord] using hafter
  · simp [Place.between]
  · change slice _ _ _ = w
    simpa using slice_append u w z

theorem fits_noteRest (u z : List Char) (gs : List (Nat × Span)) : ∃ gs',
    Pattern.Fits (.all [.greedy isFiller, .group 2 (.greedy notNewline), .lineEnd]) u (noteRest z)
      (afterNote z) gs gs' := by
  have hfiller : ∀ c ∈ z.takeWhile isFiller, isFiller c = true := fun _ hc => List.mem_takeWhile_imp hc
  have hmessage : ∀ c ∈ (z.dropWhile isFiller).takeWhile notNewline, notNewline c = true :=
    fun _ hc => List.mem_takeWhile_imp hc
  have hend := isLineEnd_afterNote (u ++ noteRest z) z
  have hfits : Pattern.Fits (.all [.greedy isFiller, .group 2 (.greedy notNewline), .lineEnd]) u
      (z.takeWhile isFiller ++ ((z.dropWhile isFiller).takeWhile notNewline ++ ([] ++ []))) (afterNote z) gs _ :=
    .seq (.greedy hfiller) <| .seq (.group (.greedy hmessage)) <|
      .seq (.lineEnd (by simpa [noteRest] using hend)) .empty
  rw [List.append_nil, List.append_nil] at hfits
  exact ⟨_, hfits⟩

theorem at?_todoPattern_complete (h : TagBetween u w z) : ∃ o, todoPattern.at? (.between u (w ++ z)) = some o := by
  have hbefore : (Place.between u (w ++ z)).isWordEdge = true :=
    (isWordEdge_before h.isTag.ne_nil h.isTag.isWord).mpr h.before
  have hafter : (Place.between (u ++ w) z).isWordEdge = true :=
    (isWordEdge_after h.isTag.ne_nil h.isTag.isWord).mpr h.after
  obtain ⟨gs', hrest⟩ := fits_noteRest (u ++ [] ++ w ++ []) z [(1, ⟨(u ++ []).length, (u ++ [] ++ w).length⟩)]
  have hfits : Pattern.Fits todoPattern u ([] ++ (w ++ ([] ++ noteRest z))) (afterNote z) [] gs' :=
    .seq (.wordEdge (by simpa [noteRest_append_afterNote] using hbefore)) <|
      .seq (.group (fits_tags.mpr ⟨h.isTag, rfl⟩)) <|
      .seq (.wordEdge (by simpa [noteRest_append_afterNote] using hafter)) hrest
  obtain ⟨o, ho⟩ := Pattern.at?_complete hfits
  exact ⟨o, by simpa [noteRest_append_afterNote] using ho⟩

/-- Where a tag stands, its note is found. -/
theorem TagBetween.at? (h : TagBetween u w z) : ∃ o, todoPattern.at? (.between u (w ++ z)) = some o ∧
    o.span = ⟨u.length, (u ++ (w ++ noteRest z)).length⟩ ∧ o.groupText (u ++ (w ++ z)) 1 = w := by
  obtain ⟨o, ho⟩ := at?_todoPattern_complete h
  obtain ⟨w', z', hx, h', hspan, htext⟩ := at?_todoPattern ho
  obtain rfl : w = w' := by rw [← h.takeWhile, hx, h'.takeWhile]
  obtain rfl : z = z' := List.append_cancel_left hx
  exact ⟨o, ho, hspan, htext⟩

theorem at?_todoPattern_eq_none {x : List Char} (h : ¬IsTagAt u x) : todoPattern.at? (.between u x) = none := by
  rw [Option.eq_none_iff_forall_ne_some]
  intro o ho
  obtain ⟨w, z, rfl, htag, -⟩ := at?_todoPattern ho
  exact h htag.isTagAt

end EsqlAudit.Comment
