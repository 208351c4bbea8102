import EsqlAudit.Proofs.Function.LineRanges

/-!
# Nesting of `begin` and `end`

The words `begin` and `end` of some lines, their comments left out, open and close like brackets. The `end` that
belongs to the first `begin` of a line is the first at which as many words have closed as opened. The search for
it looks at the ends of the later lines only, and takes it that its own line leaves one word open.
-/

namespace EsqlAudit.Function
open Text

/-! ## Whole words -/

/-- The runs of word characters, an empty one where two other characters meet. -/
def words (s : List Char) : List (List Char) :=
  s.splitOnP fun c => !isWord c

section Words

variable {k : String} {u w t : List Char}

/-- At the start of a run of word characters, a whole word is the run. -/
theorem eq_run_of_at? (hk : Lettered k) {o : Occurrence} (hw : ∀ c ∈ w, isWord c = true)
    (ht : t.head?.any isWord = false)
    (ho : (wholeWord k).at? (.between u (w ++ t)) = some o) : Spells k w ∧ o.span = ⟨u.length, (u ++ w).length⟩ := by
  obtain ⟨w', t', hx, hfits, hspan⟩ := Pattern.at?_sound ho
  obtain ⟨hword, -⟩ := (fits_wholeWord hk).mp hfits
  obtain rfl : w = w' := by
    rw [← takeWhile_run hw ht, hx, takeWhile_run (hword.spells.isWord hk) hword.after]
  exact ⟨hword.spells, hspan⟩

/-- A run of word characters is found if it spells the word, and is passed if not. -/
theorem length_findAllFrom_run (hk : Lettered k) (hu : u.getLast?.any isWord = false) (hw : ∀ c ∈ w, isWord c = true)
    (ht : t.head?.any isWord = false) :
    ((wholeWord k).findAllFrom u.getLast? u.length 0 (w ++ t)).length = (if Spells k w then 1 else 0) +
      ((wholeWord k).findAllFrom (u ++ w).getLast? (u ++ w).length 0 t).length := by
  split
  · rename_i hspells
    obtain ⟨o, ho⟩ := Pattern.at?_complete ((fits_wholeWord hk).mpr ⟨⟨hspells, hu, ht⟩, rfl⟩)
    obtain ⟨-, hspan⟩ := eq_run_of_at? hk hw ht ho
    rw [Pattern.findAllFrom_take ho (hspells.ne_nil hk) hspan, List.length_cons, Nat.add_comm]
  · rename_i hspells
    rw [Pattern.findAllFrom_pass_all, Nat.zero_add]
    rintro v c v' rfl
    rw [Option.eq_none_iff_forall_ne_some]
    intro o ho
    cases v with
    | nil => exact hspells (eq_run_of_at? hk hw ht (by simpa using ho)).1
    | cons d v =>
        -- Inside the run a word character stands before the place.
        obtain ⟨w', t', -, hfits, -⟩ := Pattern.at?_sound ho
        have hbefore := ((fits_wholeWord hk).mp hfits).1.before
        rw [any_getLast?_append (List.cons_ne_nil d v) fun e he => hw e (List.mem_append_left _ he)] at hbefore
        cases hbefore

theorem findAllFrom_break (hk : Lettered k) {c : Char} (hc : isWord c = false) :
    (wholeWord k).findAllFrom u.getLast? u.length 0 (c :: t) =
      (wholeWord k).findAllFrom (u ++ [c]).getLast? (u ++ [c]).length 0 t := by
  refine Pattern.findAllFrom_pass fun o ho => ?_
  obtain ⟨w, t', hx, hfits, -⟩ := Pattern.at?_sound ho
  obtain ⟨hword, -⟩ := (fits_wholeWord hk).mp hfits
  obtain ⟨d, w, rfl⟩ := List.exists_cons_of_ne_nil (hword.spells.ne_nil hk)
  obtain ⟨rfl, -⟩ := List.cons.inj hx
  simp [hword.spells.isWord hk c List.mem_cons_self] at hc

theorem words_run (hw : ∀ c ∈ w, isWord c = true) : words w = [w] :=
  List.splitOnP_eq_singleton fun c hc => by simp [hw c hc]

theorem words_break {c : Char} (hw : ∀ c ∈ w, isWord c = true) (hc : isWord c = false) :
    words (w ++ c :: t) = w :: words t :=
  List.splitOnP_append_cons_of_forall_mem (fun d hd => by simp [hw d hd]) c (by simp [hc]) t

theorem length_findAllFrom (hk : Lettered k) (s : List Char) (hu : u.getLast?.any isWord = false) :
    ((wholeWord k).findAllFrom u.getLast? u.length 0 s).length = (words s).countP fun w => decide (Spells k w) := by
  -- One run of word characters after the other, each with the character behind it.
  induction hlength : s.length using Nat.strongRecOn generalizing s u with
  | ind n ih =>
      obtain ⟨w, r, rfl, hw, hr⟩ : ∃ w r, s = w ++ r ∧ (∀ c ∈ w, isWord c = true) ∧ r.head?.any isWord = false :=
        ⟨s.takeWhile isWord, s.dropWhile isWord, List.takeWhile_append_dropWhile.symm,
          fun _ hc => List.mem_takeWhile_imp hc, head?_dropWhile_any isWord s⟩
      rw [length_findAllFrom_run hk hu hw hr]
      cases r with
      | nil =>
          rw [List.append_nil, words_run hw, List.countP_singleton]
          simp [Pattern.findAllFrom]
      | cons c t =>
          have hc : isWord c = false := by simpa using hr
          have hlt : t.length < n := by
            rw [List.length_append, List.length_cons] at hlength
            omega
          rw [findAllFrom_break hk hc, ih t.length hlt t (by simp [hc]) rfl, words_break hw hc, List.countP_cons,
            Nat.add_comm]
          simp

/-- A keyword occurs as often as it is a word of the text. -/
theorem countWord_eq (hk : Lettered k) (s : List Char) :
    countWord k s = (words s).countP fun w => decide (Spells k w) :=
  length_findAllFrom (u := []) hk s rfl

end Words

/-! ## Opening and closing words -/

inductive Mark where
  | opening
  | closing
deriving DecidableEq

/-- What a word does: `begin` opens and `end` closes. -/
def Mark.ofWord? (w : List Char) : Option Mark :=
  if Spells "begin" w then some .opening else if Spells "end" w then some .closing else none

/-- The words `begin` and `end` of a line, its comments left out. -/
def marks (line : List Char) : List Mark :=
  (words (removeComments line)).filterMap Mark.ofWord?

/-- How many more words open than close. -/
def balance (ms : List Mark) : Int :=
  ms.count .opening - ms.count .closing

@[simp] theorem balance_nil : balance [] = 0 := rfl

theorem balance_append (ms ms' : List Mark) : balance (ms ++ ms') = balance ms + balance ms' := by
  simp only [balance, List.count_append]
  omega

theorem balance_opening (ms : List Mark) : balance (.opening :: ms) = 1 + balance ms := by
  rw [balance, balance, List.count_cons_self, List.count_cons_of_ne (by decide)]
  omega

theorem balance_closing (ms : List Mark) : balance (.closing :: ms) = balance ms - 1 := by
  rw [balance, balance, List.count_cons_self, List.count_cons_of_ne (by decide)]
  omega

theorem Mark.ofWord?_eq_closing {w : List Char} : ofWord? w = some .closing ↔ Spells "end" w := by
  have hne : "begin".toList.map caseKey ≠ "end".toList.map caseKey := by decide
  rw [ofWord?]
  split
  · rename_i hbegin
    exact ⟨fun h => by simp at h, fun h => absurd (hbegin.symm.trans h) hne⟩
  · simp

theorem Mark.ofWord?_eq_opening {w : List Char} : ofWord? w = some .opening ↔ Spells "begin" w := by
  rw [ofWord?]
  split <;> simp_all

theorem count_marks {m : Mark} {k : String} (hk : Lettered k) (hm : ∀ w, Mark.ofWord? w = some m ↔ Spells k w)
    (line : List Char) : (marks line).count m = countWord k (removeComments line) := by
  rw [countWord_eq hk, marks, List.count_filterMap]
  exact List.countP_congr fun w _ => by simp [hm w]

theorem balance_marks (line : List Char) :
    balance (marks line) = countWord "begin" (removeComments line) - countWord "end" (removeComments line) := by
  rw [balance, count_marks (by decide) fun _ => Mark.ofWord?_eq_opening,
    count_marks (by decide) fun _ => Mark.ofWord?_eq_closing]

example : marks "beginner BEGIN x; /* end */ End // end".toList = [.opening, .closing] := by
  decide +kernel

/-! ## The search over whole lines -/

/-- The search stops at the first line at whose end the words of all lines up to it balance the depth. -/
theorem endOffset_eq_some_iff {depth : Int} {ls : List (List Char)} {e : Nat} : endOffset depth ls = some e ↔
    e < ls.length ∧ depth + balance ((ls.take (e + 1)).flatMap marks) = 0 ∧
      ∀ i < e, depth + balance ((ls.take (i + 1)).flatMap marks) ≠ 0 := by
  induction ls generalizing depth e with
  | nil => simp [endOffset]
  | cons line ls ih =>
      have hdepth : depth + countWord "begin" (removeComments line) - countWord "end" (removeComments line) =
          depth + balance (marks line) := by
        rw [balance_marks]
        omega
      have hlater : ∀ i, depth + balance (((line :: ls).take (i + 1)).flatMap marks) =
          depth + balance (marks line) + balance ((ls.take i).flatMap marks) := by
        intro i
        rw [List.take_succ_cons, List.flatMap_cons, balance_append]
        omega
      rw [endOffset, hdepth]
      simp only [hlater, beq_iff_eq]
      split
      · rename_i hzero
        cases e with
        | zero => simp [hzero]
        | succ e =>
            rw [Nat.forall_lt_succ_left]
            simp [hzero]
      · rename_i hopen
        cases e with
        | zero => simp [hopen]
        | succ e =>
            rw [Nat.forall_lt_succ_left]
            simp [hopen, ih]

/-! ## The word that closes the first -/

/-- The line of the first closing word at which nothing is left open, `depth` words being open before the first. -/
def closingLine? (depth : Int) : List (Nat × Mark) → Option Nat
  | [] => none
  | (_, .opening) :: rest => closingLine? (depth + 1) rest
  | (j, .closing) :: rest => if depth = 1 then some j else closingLine? (depth - 1) rest

/-- How many more words have opened than closed after word `n`. -/
def runningBalance (ms : List (Nat × Mark)) (n : Nat) : Int :=
  balance ((ms.take (n + 1)).map (·.2))

/-- Line `j` holds the first closing word at which as many words have closed as opened. -/
def ClosesOn (ms : List (Nat × Mark)) (j : Nat) : Prop :=
  ∃ n, ms[n]? = some (j, .closing) ∧ runningBalance ms n = 0 ∧
    ∀ m < n, ∀ i, ms[m]? = some (i, .closing) → runningBalance ms m ≠ 0

section Closing

variable {depth : Int} {ms : List (Nat × Mark)} {j : Nat}

theorem runningBalance_zero (a : Nat × Mark) : runningBalance (a :: ms) 0 = balance [a.2] :=
  rfl

theorem runningBalance_succ (a : Nat × Mark) (n : Nat) :
    runningBalance (a :: ms) (n + 1) = balance [a.2] + runningBalance ms n := by
  rw [runningBalance, runningBalance, ← balance_append]
  rfl

theorem closingLine?_eq_some_iff : closingLine? depth ms = some j ↔
    ∃ n, ms[n]? = some (j, .closing) ∧ depth + runningBalance ms n = 0 ∧
      ∀ m < n, ∀ i, ms[m]? = some (i, .closing) → depth + runningBalance ms m ≠ 0 := by
  induction ms generalizing depth with
  | nil => simp [closingLine?]
  | cons a ms ih =>
      rw [← Nat.or_exists_add_one]
      simp only [Nat.forall_lt_succ_left, List.getElem?_cons_zero, List.getElem?_cons_succ, runningBalance_zero,
        runningBalance_succ, ← Int.add_assoc]
      obtain ⟨i, m⟩ := a
      cases m with
      | opening => simp [closingLine?, ih, balance_opening]
      | closing =>
          have hshut : depth + balance [.closing] = depth - 1 := rfl
          simp only [closingLine?, hshut, Int.sub_eq_zero]
          split
          · rename_i hone
            simp [hone]
          · rename_i hopen
            simp [hopen, ih, Int.sub_eq_zero]

theorem closesOn_iff : ClosesOn ms j ↔ closingLine? 0 ms = some j := by
  simp [closingLine?_eq_some_iff, ClosesOn]

instance (ms : List (Nat × Mark)) (j : Nat) : Decidable (ClosesOn ms j) :=
  decidable_of_iff _ closesOn_iff.symm

theorem ClosesOn.unique {j' : Nat} (h : ClosesOn ms j) (h' : ClosesOn ms j') : j = j' :=
  Option.some.inj ((closesOn_iff.mp h).symm.trans (closesOn_iff.mp h'))

/-- A word that closes the first one closes it whatever comes later. -/
theorem closingLine?_append {ms' : List (Nat × Mark)} (h : closingLine? depth ms = some j) :
    closingLine? depth (ms ++ ms') = some j := by
  fun_induction closingLine? depth ms with
  | case1 => cases h
  | case2 depth i ms ih => exact ih h
  | case3 i ms => simpa [closingLine?] using h
  | case4 depth i ms hopen ih =>
      rw [List.cons_append, closingLine?, if_neg hopen]
      exact ih h

/-- As long as the first word is not closed, some words are open. -/
theorem balance_pos_of_closingLine?_eq_none (h : closingLine? depth ms = none) (hdepth : 0 < depth) :
    0 < depth + balance (ms.map (·.2)) := by
  fun_induction closingLine? depth ms with
  | case1 => simpa using hdepth
  | case2 depth i ms ih =>
      have hrest := ih h (by omega)
      rw [List.map_cons, balance_opening]
      omega
  | case3 => cases h
  | case4 depth i ms hopen ih =>
      have hrest := ih h (by omega)
      rw [List.map_cons, balance_closing]
      omega

end Closing

/-! ## From a `begin` on -/

/-- The words `begin` and `end` of some lines, each with its line, the first line being line `n`. -/
def numberedFrom (n : Nat) : List (List Char) → List (Nat × Mark)
  | [] => []
  | line :: rest => (marks line).map (n, ·) ++ numberedFrom (n + 1) rest

/-- The words from the first `begin` of line `b` on, each with its line. -/
def fromBegin (ls : List (List Char)) (b : Nat) : List (Nat × Mark) :=
  (numberedFrom b (ls.drop b)).dropWhile (·.2 != .opening)

/-- How many of the words from the first `begin` of line `b` on are open at the end of line `i`. -/
def level (ls : List (List Char)) (b i : Nat) : Int :=
  balance ((fromBegin (ls.take (i + 1)) b).map (·.2))

theorem map_numberedFrom (n : Nat) (ls : List (List Char)) : (numberedFrom n ls).map (·.2) = ls.flatMap marks := by
  induction ls generalizing n with
  | nil => rfl
  | cons line ls ih => simp [numberedFrom, ih, Function.comp_def]

theorem numberedFrom_append (n : Nat) (ls ls' : List (List Char)) :
    numberedFrom n (ls ++ ls') = numberedFrom n ls ++ numberedFrom (n + ls.length) ls' := by
  induction ls generalizing n with
  | nil => rfl
  | cons line ls ih =>
      rw [List.cons_append, numberedFrom, numberedFrom, ih, List.append_assoc, List.length_cons, Nat.add_assoc,
        Nat.add_comm 1]

theorem bounds_of_mem_numberedFrom {n : Nat} {ls : List (List Char)} {a : Nat × Mark} (ha : a ∈ numberedFrom n ls) :
    n ≤ a.1 ∧ a.1 < n + ls.length := by
  induction ls generalizing n with
  | nil => cases ha
  | cons line ls ih =>
      rw [List.length_cons]
      rcases List.mem_append.mp ha with ha | ha
      · obtain ⟨m, -, rfl⟩ := List.mem_map.mp ha
        exact ⟨Nat.le_refl n, by simp⟩
      · have hbounds := ih ha
        omega

/-- The words `begin` and `end` of line `b` have a `begin` among them. -/
def Opens (ls : List (List Char)) (b : Nat) : Prop :=
  ∃ line, ls[b]? = some line ∧ .opening ∈ marks line

section FromBegin

variable {ls : List (List Char)} {b i j : Nat}

theorem Opens.lt_length (h : Opens ls b) : b < ls.length := by
  obtain ⟨line, hline, -⟩ := h
  exact (List.getElem?_eq_some_iff.mp hline).1

theorem Opens.take (h : Opens ls b) (hi : b ≤ i) : Opens (ls.take (i + 1)) b := by
  obtain ⟨line, hline, hbegin⟩ := h
  exact ⟨line, by rw [List.getElem?_take_of_lt (by omega), hline], hbegin⟩

/-- The first of the words is a `begin`. -/
theorem Opens.fromBegin_eq (h : Opens ls b) : ∃ ms, fromBegin ls b = (b, .opening) :: ms := by
  have hlt := h.lt_length
  obtain ⟨line, hline, hbegin⟩ := h
  obtain ⟨x, y, hmarks, hx⟩ := List.eq_append_cons_of_mem hbegin
  have hpassed : ∀ a ∈ x.map (b, ·), (a.2 != .opening) = true := by
    intro a ha
    obtain ⟨m, hm, rfl⟩ := List.mem_map.mp ha
    exact bne_iff_ne.mpr (ne_of_mem_of_not_mem hm hx)
  rw [List.getElem?_eq_getElem hlt] at hline
  rw [fromBegin, List.drop_eq_getElem_cons hlt, Option.some.inj hline, numberedFrom, hmarks, List.map_append,
    List.append_assoc, List.dropWhile_append_of_pos hpassed]
  exact ⟨_, rfl⟩

/-- The words of later lines come behind those of the first lines. -/
theorem Opens.fromBegin_append (h : Opens ls b) (ls' : List (List Char)) :
    fromBegin (ls ++ ls') b = fromBegin ls b ++ numberedFrom ls.length ls' := by
  obtain ⟨ms, hms⟩ := h.fromBegin_eq
  have hle := Nat.le_of_lt h.lt_length
  rw [fromBegin] at hms
  rw [fromBegin, List.drop_append_of_le_length hle, numberedFrom_append, List.length_drop, Nat.add_sub_cancel' hle,
    List.dropWhile_append, hms, fromBegin, hms]
  rfl

theorem closesOn_bounds (h : ClosesOn (fromBegin ls b) j) : b ≤ j ∧ j < ls.length := by
  obtain ⟨n, hn, -⟩ := h
  have hmem : (j, .closing) ∈ numberedFrom b (ls.drop b) :=
    (List.dropWhile_sublist _).mem (List.mem_of_getElem? hn)
  have hbounds := bounds_of_mem_numberedFrom hmem
  rw [List.length_drop] at hbounds
  omega

/-- At the end of a line before the `end` of the first `begin` some words are open. -/
theorem Opens.level_pos (h : Opens ls b) (hi : b ≤ i) (hbefore : ∀ j, ClosesOn (fromBegin ls b) j → i < j) :
    0 < level ls b i := by
  have htake := h.take hi
  obtain ⟨ms, hms⟩ := htake.fromBegin_eq
  have hnone : closingLine? 0 (fromBegin (ls.take (i + 1)) b) = none := by
    rw [Option.eq_none_iff_forall_ne_some]
    intro j hj
    have hlt := (closesOn_bounds (closesOn_iff.mpr hj)).2
    have happend := htake.fromBegin_append (ls.drop (i + 1))
    rw [List.take_append_drop] at happend
    have hcloses := hbefore j (by rw [closesOn_iff, happend]; exact closingLine?_append hj)
    rw [List.length_take] at hlt
    omega
  rw [hms] at hnone
  rw [level, hms, List.map_cons, balance_opening]
  exact balance_pos_of_closingLine?_eq_none (show closingLine? 1 ms = none from hnone) (by decide)

theorem Opens.level_eq (h : Opens ls b) (hi : b ≤ i) :
    level ls b i = level ls b b + balance (((ls.drop (b + 1)).take (i - b)).flatMap marks) := by
  have hsplit : ls.take (i + 1) = ls.take (b + 1) ++ (ls.drop (b + 1)).take (i - b) := by
    rw [← List.take_add, show b + 1 + (i - b) = i + 1 by omega]
  rw [level, hsplit, (h.take (Nat.le_refl b)).fromBegin_append, List.map_append, balance_append, map_numberedFrom,
    level]

/-- The search ends on the first line after line `b` at whose end one word less is open than at the end of line `b`. -/
theorem Opens.matchingEnd?_eq_some_iff (h : Opens ls b) : matchingEnd? ls b = some j ↔
    b < j ∧ j < ls.length ∧ level ls b j = level ls b b - 1 ∧ ∀ i, b < i → i < j → level ls b i ≠ level ls b b - 1 := by
  have hone : ∀ e, 1 + balance (((ls.drop (b + 1)).take (e + 1)).flatMap marks) = 0 ↔
      level ls b (b + 1 + e) = level ls b b - 1 := by
    intro e
    rw [h.level_eq (by omega), show b + 1 + e - b = e + 1 by omega]
    omega
  simp only [matchingEnd?, Option.map_eq_some_iff, endOffset_eq_some_iff, ne_eq, hone, List.length_drop]
  constructor
  · rintro ⟨e, ⟨hlt, hlevel, hfirst⟩, rfl⟩
    refine ⟨by omega, by omega, hlevel, fun i hi hie => ?_⟩
    obtain ⟨k, rfl⟩ := Nat.exists_eq_add_of_le hi
    exact hfirst k (by omega)
  · rintro ⟨hbj, hlt, hlevel, hfirst⟩
    obtain ⟨e, rfl⟩ := Nat.exists_eq_add_of_le hbj
    exact ⟨e, ⟨by omega, hlevel, fun k hk => hfirst _ (by omega) (by omega)⟩, rfl⟩

end FromBegin

/-! ## The `end` that is found -/

/-- The search ends on the line of the `end` that closes the first `begin` of line `b`, and finds nothing if none
does. -/
def FindsEnd (ls : List (List Char)) (b : Nat) : Prop :=
  ∀ j, matchingEnd? ls b = some j ↔ ClosesOn (fromBegin ls b) j

theorem Opens.findsEnd_iff_levels {ls : List (List Char)} {b : Nat} (h : Opens ls b) : FindsEnd ls b ↔
    (∀ j, ClosesOn (fromBegin ls b) j → b < j ∧ level ls b j = level ls b b - 1) ∧
    ∀ i, b < i → i < ls.length → (∀ j, ClosesOn (fromBegin ls b) j → i < j) → level ls b i ≠ level ls b b - 1 := by
  constructor
  · intro hfinds
    refine ⟨fun j hj => ?_, fun i hi hlt hbefore => ?_⟩
    · obtain ⟨hbj, -, hlevel, -⟩ := h.matchingEnd?_eq_some_iff.mp ((hfinds j).mpr hj)
      exact ⟨hbj, hlevel⟩
    · -- The first such line would be found.
      induction i using Nat.strongRecOn with
      | ind i ih =>
          intro hlevel
          have hfirst : ∀ k, b < k → k < i → level ls b k ≠ level ls b b - 1 := fun k hk hki =>
            ih k hki hk (Nat.lt_trans hki hlt) fun j hj => Nat.lt_trans hki (hbefore j hj)
          have hfound := h.matchingEnd?_eq_some_iff.mpr ⟨hi, hlt, hlevel, hfirst⟩
          exact Nat.lt_irrefl i (hbefore i ((hfinds i).mp hfound))
  · rintro ⟨hcloses, hbetween⟩ j
    constructor
    · intro hfound
      obtain ⟨hbj, hlt, hlevel, hfirst⟩ := h.matchingEnd?_eq_some_iff.mp hfound
      by_contra hnot
      refine hbetween j hbj hlt (fun k hk => ?_) hlevel
      obtain ⟨hbk, hlevel'⟩ := hcloses k hk
      refine Nat.lt_of_not_le fun hkj => ?_
      rcases Nat.eq_or_lt_of_le hkj with rfl | hkj
      · exact hnot hk
      · exact hfirst k hbk hkj hlevel'
    · intro hj
      obtain ⟨hbj, hlevel⟩ := hcloses j hj
      have hlt := (closesOn_bounds hj).2
      refine h.matchingEnd?_eq_some_iff.mpr ⟨hbj, hlt, hlevel, fun i hi hij => ?_⟩
      exact hbetween i hi (Nat.lt_trans hij hlt) fun k hk => hj.unique hk ▸ hij

/-- From a line with a `begin` the search ends on the first later line at whose end one word less is open than at
its own end. This is the line of the `end` that closes its first `begin` if and only if that `end` stands on a
later line, at the end of its line one word less is open than at the end of line `b`, and at no line end between.
If line `b` leaves one word open and does not close it, only the words behind the `end` on its line count: as many
of them have to open as close. -/
theorem findsEnd_iff (ls : List (List Char)) (b : Nat) (h : Opens ls b) :
    (∀ j, matchingEnd? ls b = some j ↔ b < j ∧ j < ls.length ∧ level ls b j = level ls b b - 1 ∧
      ∀ i, b < i → i < j → level ls b i ≠ level ls b b - 1) ∧
    (FindsEnd ls b ↔
      (∀ j, ClosesOn (fromBegin ls b) j → b < j ∧ level ls b j = level ls b b - 1) ∧
      ∀ i, b < i → i < ls.length → (∀ j, ClosesOn (fromBegin ls b) j → i < j) → level ls b i ≠ level ls b b - 1) ∧
    (level ls b b = 1 → ¬ ClosesOn (fromBegin ls b) b →
      (FindsEnd ls b ↔ ∀ j, ClosesOn (fromBegin ls b) j → level ls b j = 0)) := by
  refine ⟨fun j => h.matchingEnd?_eq_some_iff, h.findsEnd_iff_levels, fun hone hlater => ?_⟩
  rw [h.findsEnd_iff_levels, hone]
  constructor
  · exact fun hfinds j hj => (hfinds.1 j hj).2
  · refine fun hlevel => ⟨fun j hj => ⟨?_, hlevel j hj⟩, fun i hi _ hbefore => ?_⟩
    · refine Nat.lt_of_le_of_ne (closesOn_bounds hj).1 ?_
      rintro rfl
      exact hlater hj
    · have hpos := h.level_pos (Nat.le_of_lt hi) hbefore
      omega

/-- Blocks inside a body, where one is closed and the next opened on one line, and a `begin` in a comment. -/
theorem findsEnd_iff_blocks :
    let ls := lines "begin\nbegin\nend begin\nend\nend /*begin*/".toList
    Opens ls 0 ∧ FindsEnd ls 0 ∧ matchingEnd? ls 0 = some 4 := by
  intro ls
  have hopens : Opens ls 0 := ⟨"begin".toList, by decide +kernel, by decide +kernel⟩
  have hcloses : ClosesOn (fromBegin ls 0) 4 := by decide +kernel
  obtain ⟨-, -, hiff⟩ := findsEnd_iff ls 0 hopens
  have hfinds : FindsEnd ls 0 := by
    refine (hiff (by decide +kernel) (by decide +kernel)).mpr fun j hj => ?_
    rw [← hcloses.unique hj]
    decide +kernel
  exact ⟨hopens, hfinds, (hfinds 4).mpr hcloses⟩

/-- An `end` with a `begin` behind it on its line is missed, and the function is given a line too many. -/
theorem end_before_begin_missed :
    let source := "VOID f()\nbegin\nend begin\nend".toList
    Opens (lines source) 1 ∧ ClosesOn (fromBegin (lines source) 1) 2 ∧ matchingEnd? (lines source) 1 = some 3 ∧
      ¬ FindsEnd (lines source) 1 ∧
        (beginEnd source).map (fun f => (f.name, f.startLine, f.endLine)) = [("f", 1, 4)] := by
  intro source
  have hopens : Opens (lines source) 1 := ⟨"begin".toList, by decide +kernel, by decide +kernel⟩
  have hcloses : ClosesOn (fromBegin (lines source) 1) 2 := by decide +kernel
  have hfound : matchingEnd? (lines source) 1 = some 3 := by decide +kernel
  refine ⟨hopens, hcloses, hfound, fun hfinds => ?_, by decide +kernel⟩
  exact absurd (hcloses.unique ((hfinds 3).mp hfound)) (by decide)

end EsqlAudit.Function
