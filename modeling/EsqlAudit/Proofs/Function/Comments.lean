import EsqlAudit.Function.BeginEnd
import EsqlAudit.Proofs.Text.Keyword
import EsqlAudit.Proofs.Text.Splice

/-!
# Lines without comments

A block comment that is taken out of a line brings the characters before and behind it together. They make no new
comment: in a text without `//` no slash stands before the slash that starts the comment, and none behind the
slash that ends it.
-/

namespace EsqlAudit.Function
open Text Pattern

/-- A block comment without a newline inside. -/
inductive BlockComment : List Char → Prop where
  | mk {b : List Char} : '\n' ∉ b → BlockComment ('/' :: '*' :: (b ++ ['*', '/']))

/-- Neither `//` nor a block comment without a newline inside stands in the text. -/
structure CommentFree (s : List Char) : Prop where
  line : ¬ ['/', '/'] <:+: s
  block : ¬ ∃ w, BlockComment w ∧ w <:+: s

/-! ## Up to the first `//` -/

theorem beforeLineComment_isPrefix (s : List Char) : beforeLineComment s <+: s := by
  fun_induction beforeLineComment s with
  | case1 => exact List.prefix_rfl
  | case2 c rest => exact List.nil_prefix
  | case3 c rest _ ih => exact (List.prefix_cons_inj c).mpr ih

theorem slashes_not_infix_beforeLineComment (s : List Char) : ¬ ['/', '/'] <:+: beforeLineComment s := by
  fun_induction beforeLineComment s with
  | case1 => simp
  | case2 c rest => simp
  | case3 c rest hnone ih =>
      intro hinside
      rcases List.infix_cons_iff.mp hinside with hfront | hinside
      · have hkept : c :: beforeLineComment rest <+: c :: rest :=
          (List.prefix_cons_inj c).mpr (beforeLineComment_isPrefix rest)
        exact hnone (List.isPrefixOf_iff_prefix.mpr (hfront.trans hkept))
      · exact ih hinside

theorem beforeLineComment_eq_self {s : List Char} (h : ¬ ['/', '/'] <:+: s) : beforeLineComment s = s := by
  fun_induction beforeLineComment s with
  | case1 => rfl
  | case2 c rest hstarts => exact absurd (List.isPrefixOf_iff_prefix.mp hstarts).isInfix h
  | case3 c rest _ ih => rw [ih fun hinside => h (List.infix_cons hinside)]

/-! ## Taking out block comments -/

theorem fits_blockCommentPattern {u w t : List Char} {gs gs' : List (Nat × Span)} :
    Fits blockCommentPattern u w t gs gs' ↔ BlockComment w ∧ gs' = gs := by
  have hclass : ∀ b : List Char, (∀ c ∈ b, notNewline c = true) ↔ '\n' ∉ b := by
    intro b
    simp only [notNewline, bne_iff_ne]
    exact ⟨fun h hmem => h '\n' hmem rfl, fun h c hc => ne_of_mem_of_not_mem hc h⟩
  simp only [blockCommentPattern, Pattern.all, List.foldr_cons, List.foldr_nil, fits_seq, fits_exactly, fits_lazy,
    fits_empty, hclass]
  constructor
  · rintro ⟨_, _, _, rfl, ⟨rfl, rfl⟩, b, _, _, rfl, ⟨hb, rfl⟩, _, _, _, rfl, ⟨rfl, rfl⟩, rfl, rfl⟩
    exact ⟨by simpa using BlockComment.mk hb, rfl⟩
  · rintro ⟨hw, rfl⟩
    cases hw with
    | @mk b hb =>
        exact ⟨['/', '*'], b ++ ['*', '/'], gs', rfl, ⟨rfl, rfl⟩, b, ['*', '/'], gs', rfl, ⟨hb, rfl⟩, ['*', '/'], [],
          gs', rfl, ⟨rfl, rfl⟩, rfl, rfl⟩

/-- The text `r` is left of `t` when block comments are taken out from left to right. -/
inductive Cleared : List Char → List Char → Prop where
  | nil : Cleared [] []
  | keep {c t r} : (¬ ∃ w, BlockComment w ∧ w <+: c :: t) → Cleared t r → Cleared (c :: t) (c :: r)
  | drop {w t r} : BlockComment w → Cleared t r → Cleared (w ++ t) r

theorem cleared_of_scans {u t : List Char} {os : List Occurrence} (h : Scans blockCommentPattern u t os) :
    Cleared t (spliceFrom u.length t (os.map fun o => (o.span, []))) := by
  induction h with
  | nil => exact .nil
  | @pass u t c os hnone hscans ih =>
      have hcuts : Cuts (u ++ [c]) t ((os.map fun o => (o.span, ([] : List Char))).map (·.1)) := by
        have hall := hscans.cuts fun _ => true
        rw [List.filter_eq_self.mpr fun _ _ => rfl] at hall
        simpa [Function.comp_def] using hall
      have hkeep := hcuts.spliceFrom_append
      rw [List.singleton_append] at hkeep
      rw [hkeep]
      refine .keep ?_ ih
      rintro ⟨w, hw, t', ht'⟩
      obtain ⟨o, ho⟩ := at?_complete (u := u) (t := t') (fits_blockCommentPattern.mpr ⟨hw, rfl⟩)
      rw [ht'] at ho
      obtain ⟨w', t'', _, hfits, hspan⟩ := at?_sound ho
      have hpos := List.length_pos_iff.mpr (hfits.ne_nil rfl)
      have hstop := hnone o ho
      simp only [hspan, List.length_append] at hstop
      omega
  | @take u w t o os hat _ hspan _ ih =>
      obtain ⟨w', t', hcut, hfits, hspan'⟩ := at?_sound hat
      have hlength : w.length = w'.length := by
        simpa [hspan] using hspan'
      obtain ⟨rfl, -⟩ := List.append_inj hcut hlength
      have hdrop := spliceFrom_cons u [] w t [] (os.map fun o => (o.span, []))
      simp only [List.append_nil, List.nil_append] at hdrop
      rw [List.map_cons, hspan, hdrop]
      exact .drop (fits_blockCommentPattern.mp hfits).1 ih

theorem cleared_removeComments (s : List Char) : Cleared (beforeLineComment s) (removeComments s) := by
  have hcleared := cleared_of_scans (scans_findAll blockCommentPattern (beforeLineComment s))
  rw [removeComments, replaceAll, splice]
  exact hcleared

/-! ## Where the sides of a comment meet -/

section Cleared

variable {t r : List Char}

theorem BlockComment.eq_cons {w : List Char} (h : BlockComment w) : ∃ x, w = '/' :: x := by
  cases h
  exact ⟨_, rfl⟩

theorem Cleared.starts_slash {x : List Char} (h : Cleared t ('/' :: x)) : ∃ y, t = '/' :: y := by
  cases h with
  | keep _ _ => exact ⟨_, rfl⟩
  | drop hw _ =>
      obtain ⟨y, rfl⟩ := hw.eq_cons
      exact ⟨_, rfl⟩

/-- A block comment that is closed in the text that is left was closed before. -/
theorem Cleared.closes {b x : List Char} (h : Cleared t (b ++ '*' :: '/' :: x)) (hb : '\n' ∉ b) :
    ∃ b' y, '\n' ∉ b' ∧ t = b' ++ '*' :: '/' :: y := by
  generalize hr : b ++ '*' :: '/' :: x = r at h
  induction h generalizing b with
  | nil => simp at hr
  | @keep c t r _ hrest ih =>
      cases b with
      | nil =>
          obtain ⟨rfl, rfl⟩ := List.cons.inj hr
          obtain ⟨y, rfl⟩ := hrest.starts_slash
          exact ⟨[], y, List.not_mem_nil, rfl⟩
      | cons d b =>
          obtain ⟨rfl, htail⟩ := List.cons.inj hr
          rw [List.mem_cons, not_or] at hb
          obtain ⟨b', y, hb', rfl⟩ := ih hb.2 htail
          exact ⟨d :: b', y, by simp [hb.1, hb'], rfl⟩
  | @drop w t r hw _ _ =>
      cases hw with
      | @mk b' hb' => exact ⟨'/' :: '*' :: b', t, by simpa using hb', by simp⟩

theorem Cleared.no_slashes (h : Cleared t r) (hline : ¬ ['/', '/'] <:+: t) : ¬ ['/', '/'] <:+: r := by
  induction h with
  | nil => exact hline
  | @keep c t r _ hrest ih =>
      intro hinside
      rcases List.infix_cons_iff.mp hinside with hfront | hinside
      · obtain ⟨rfl, x, rfl⟩ : '/' = c ∧ ∃ x, r = '/' :: x := by
          obtain ⟨x, hx⟩ := hfront
          obtain ⟨rfl, rfl⟩ := List.cons.inj hx
          exact ⟨rfl, x, rfl⟩
        obtain ⟨y, rfl⟩ := hrest.starts_slash
        exact hline ⟨[], y, rfl⟩
      · exact ih (fun hinside => hline (List.infix_cons hinside)) hinside
  | @drop w t r _ _ ih => exact ih fun hinside => hline (hinside.trans (List.suffix_append w t).isInfix)

theorem Cleared.no_block (h : Cleared t r) (hline : ¬ ['/', '/'] <:+: t) : ¬ ∃ w, BlockComment w ∧ w <:+: r := by
  induction h with
  | nil =>
      rintro ⟨w, hw, hinside⟩
      obtain ⟨x, rfl⟩ := hw.eq_cons
      simp at hinside
  | @keep c t r hnone hrest ih =>
      rintro ⟨w, hw, hinside⟩
      rcases List.infix_cons_iff.mp hinside with ⟨x, hx⟩ | hinside
      · cases hw with
        | @mk b hb =>
            obtain ⟨rfl, rfl⟩ : '/' = c ∧ '*' :: (b ++ '*' :: '/' :: x) = r := by simpa using hx
            generalize hr : '*' :: (b ++ '*' :: '/' :: x) = r at hrest
            cases hrest with
            | nil => cases hr
            | @keep d t r _ hrest =>
                -- The mark that opens it stood in the text before, and so did one that closes it.
                obtain ⟨rfl, rfl⟩ := List.cons.inj hr
                obtain ⟨b', y, hb', rfl⟩ := hrest.closes hb
                exact hnone ⟨_, .mk hb', y, by simp⟩
            | drop hw _ =>
                -- A comment was taken out between the slash and the star: two slashes stood there.
                obtain ⟨z, rfl⟩ := hw.eq_cons
                exact hline ⟨[], _, rfl⟩
      · exact ih (fun hinside => hline (List.infix_cons hinside)) ⟨w, hw, hinside⟩
  | @drop w t r _ _ ih => exact ih fun hinside => hline (hinside.trans (List.suffix_append w t).isInfix)

theorem Cleared.eq_self (h : Cleared t r) (hblock : ¬ ∃ w, BlockComment w ∧ w <:+: t) : r = t := by
  induction h with
  | nil => rfl
  | @keep c t r _ _ ih =>
      have htail : ¬ ∃ w, BlockComment w ∧ w <:+: t := by
        rintro ⟨w, hw, hinside⟩
        exact hblock ⟨w, hw, List.infix_cons hinside⟩
      rw [ih htail]
  | @drop w t r hw _ _ => exact absurd ⟨w, hw, (List.prefix_append w t).isInfix⟩ hblock

end Cleared

/-! ## Lines -/

theorem commentFree_removeComments (line : List Char) : CommentFree (removeComments line) :=
  have hcleared := cleared_removeComments line
  have hline := slashes_not_infix_beforeLineComment line
  ⟨hcleared.no_slashes hline, hcleared.no_block hline⟩

theorem CommentFree.removeComments_eq_self {s : List Char} (h : CommentFree s) : removeComments s = s := by
  have hcleared := cleared_removeComments s
  rw [beforeLineComment_eq_self h.line] at hcleared
  exact hcleared.eq_self h.block

/-- No comment is left of a line without its comments, and a second removal changes nothing. The lines that stay
as they are are the lines without a comment. -/
theorem removeComments_leaves_none (line : List Char) :
    CommentFree (removeComments line) ∧ removeComments (removeComments line) = removeComments line ∧
      (removeComments line = line ↔ CommentFree line) := by
  have hfree := commentFree_removeComments line
  refine ⟨hfree, hfree.removeComments_eq_self, fun hsame => ?_, CommentFree.removeComments_eq_self⟩
  rw [← hsame]
  exact hfree

example : removeComments "a /*/ b */ c /* d \n e */ /* f */ g /// h".toList = "a  c /* d \n e */  g ".toList := by
  decide +kernel

end EsqlAudit.Function
