import EsqlAudit.Function.BeginEnd
import EsqlAudit.Proofs.Text.Splice
import EsqlAudit.Proofs.Text.Words

/-!
# Lines of functions written with `begin` and `end`

A function takes the lines from its declaration to the `end` that closes its first `begin`, and the search goes on
behind them. So the functions of a text take lines of their own, one function after the other.
-/

namespace EsqlAudit.Function
open Text

/-! ## Declarations -/

/-- A letter or an underscore, then letters, digits and underscores. -/
def IsTypeName (w : List Char) : Prop :=
  ∃ c v, w = c :: v ∧ isTypeStart c = true ∧ ∀ d ∈ v, isTypeChar d = true

/-- The line starts with a type, the name of a function and a closed list of parameters. -/
def Declares (line name : List Char) : Prop :=
  ∃ indent type gap gap' parameters rest,
    line = indent ++ (type ++ (gap ++ (name ++ (gap' ++ '(' :: (parameters ++ ')' :: rest))))) ∧
    Blanks indent ∧ IsTypeName type ∧ gap ≠ [] ∧ Blanks gap ∧ name ≠ [] ∧ (∀ c ∈ name, isWord c = true) ∧
    Blanks gap' ∧ ')' ∉ parameters

theorem fits_typeName {u w t : List Char} {gs gs' : List (Nat × Span)} :
    Pattern.Fits typeName u w t gs gs' ↔ IsTypeName w ∧ gs' = (1, ⟨u.length, (u ++ w).length⟩) :: gs := by
  rw [typeName, Pattern.fits_group]
  constructor
  · rintro ⟨_, hfits, rfl⟩
    obtain ⟨_, v, _, rfl, hone, hrest⟩ := Pattern.fits_seq.mp hfits
    cases hone with
    | @one _ _ c _ _ hc =>
        obtain ⟨hv, rfl⟩ := Pattern.fits_greedy.mp hrest
        exact ⟨⟨c, v, rfl, hc, hv⟩, rfl⟩
  · rintro ⟨⟨c, v, rfl, hc, hv⟩, rfl⟩
    exact ⟨gs, .seq (v := [c]) (.one hc) (.greedy hv), rfl⟩

theorem of_fits_parameterList {u w t : List Char} {gs gs' : List (Nat × Span)}
    (h : Pattern.Fits (.all [.blanks, .exactly "(", .greedy (· != ')'), .exactly ")"]) u w t gs gs') :
    ∃ gap parameters, w = gap ++ '(' :: (parameters ++ [')']) ∧ Blanks gap ∧ ')' ∉ parameters ∧ gs' = gs := by
  obtain ⟨gap, _, gs₁, rfl, hfits₁, hrest₁⟩ := Pattern.fits_seq.mp h
  obtain ⟨hgap, hgs₁⟩ := Pattern.fits_blanks.mp hfits₁
  obtain ⟨_, _, gs₂, rfl, hfits₂, hrest₂⟩ := Pattern.fits_seq.mp hrest₁
  obtain ⟨rfl, hgs₂⟩ := Pattern.fits_exactly.mp hfits₂
  obtain ⟨parameters, _, gs₃, rfl, hfits₃, hrest₃⟩ := Pattern.fits_seq.mp hrest₂
  obtain ⟨hparameters, hgs₃⟩ := Pattern.fits_greedy.mp hfits₃
  obtain ⟨_, _, gs₄, rfl, hfits₄, hrest₄⟩ := Pattern.fits_seq.mp hrest₃
  obtain ⟨rfl, hgs₄⟩ := Pattern.fits_exactly.mp hfits₄
  obtain ⟨rfl, hgs'⟩ := Pattern.fits_empty.mp hrest₄
  refine ⟨gap, parameters, by simp, hgap, fun hmem => ?_, ?_⟩
  · simpa using hparameters ')' hmem
  · rw [hgs', hgs₄, hgs₃, hgs₂, hgs₁]

/-- What the pattern of a declaration finds at the start of a line. -/
theorem declares_of_atStart? {line : List Char} {o : Occurrence} (h : declarationPattern.atStart? line = some o) :
    Declares line (o.groupText line 2) := by
  obtain ⟨w, rest, rfl, hfits, -⟩ := Pattern.at?_sound (u := []) h
  obtain ⟨indent, _, _, rfl, hfits₁, hfits⟩ := Pattern.fits_seq.mp hfits
  obtain ⟨hindent, rfl⟩ := Pattern.fits_blanks.mp hfits₁
  obtain ⟨type, _, _, rfl, hfits₂, hfits⟩ := Pattern.fits_seq.mp hfits
  obtain ⟨htype, rfl⟩ := fits_typeName.mp hfits₂
  obtain ⟨gap, _, _, rfl, hfits₃, hfits⟩ := Pattern.fits_seq.mp hfits
  obtain ⟨hgap, hblanks, rfl⟩ := Pattern.fits_blanks1.mp hfits₃
  obtain ⟨name, _, _, rfl, hfits₄, hfits⟩ := Pattern.fits_seq.mp hfits
  obtain ⟨_, hfits₅, rfl⟩ := Pattern.fits_group.mp hfits₄
  obtain ⟨hname, hword, rfl⟩ := Pattern.fits_many1.mp hfits₅
  obtain ⟨gap', parameters, rfl, hgap', hclosed, hgroups⟩ := of_fits_parameterList hfits
  have hslice := slice_append (indent ++ type ++ gap) name (gap' ++ '(' :: (parameters ++ ')' :: rest))
  have htext : o.groupText (indent ++ (type ++ (gap ++ (name ++ (gap' ++ '(' :: (parameters ++ ')' :: rest)))))) 2 =
      name := by
    rw [Occurrence.groupText, Occurrence.group?, hgroups]
    simpa using hslice
  refine ⟨indent, type, gap, gap', parameters, rest, by simp [htext], hindent, htype, hgap, hblanks, ?_⟩
  simpa [htext] using ⟨hname, hword, hgap', hclosed⟩

theorem atStart?_of_declares {line name : List Char} (h : Declares line name) :
    ∃ o, declarationPattern.atStart? line = some o := by
  obtain ⟨indent, type, gap, gap', parameters, rest, rfl, hindent, htype, hne, hgap, hname, hword, hgap', hclosed⟩ := h
  have hparameters : ∀ c ∈ parameters, (c != ')') = true := by
    intro c hc
    simp only [bne_iff_ne]
    rintro rfl
    exact hclosed hc
  have hfits : Pattern.Fits declarationPattern []
      (indent ++ (type ++ (gap ++ (name ++ (gap' ++ ("(".toList ++ (parameters ++ (")".toList ++ [])))))))) rest [] _ :=
    .seq (Pattern.fits_blanks.mpr ⟨hindent, rfl⟩) <| .seq (fits_typeName.mpr ⟨htype, rfl⟩) <|
      .seq (Pattern.fits_blanks1.mpr ⟨hne, hgap, rfl⟩) <| .seq (.group (Pattern.fits_many1.mpr ⟨hname, hword, rfl⟩)) <|
      .seq (Pattern.fits_blanks.mpr ⟨hgap', rfl⟩) <| .seq (Pattern.fits_exactly.mpr ⟨rfl, rfl⟩) <|
      .seq (.greedy hparameters) <| .seq (Pattern.fits_exactly.mpr ⟨rfl, rfl⟩) .empty
  obtain ⟨o, ho⟩ := Pattern.at?_complete hfits
  exact ⟨o, by simpa [Pattern.atStart?, Place.start, Place.between] using ho⟩

/-! ## The body of a function -/

theorem fits_wholeWord {k : String} (hk : Lettered k) {u w t : List Char} {gs gs' : List (Nat × Span)} :
    Pattern.Fits (wholeWord k) u w t gs gs' ↔ WholeWord k u w t ∧ gs' = gs := by
  constructor
  · intro h
    obtain ⟨_, _, _, rfl, hfits₁, hrest₁⟩ := Pattern.fits_seq.mp h
    obtain ⟨rfl, hbefore, rfl⟩ := Pattern.fits_wordEdge.mp hfits₁
    obtain ⟨w, _, _, rfl, hfits₂, hrest₂⟩ := Pattern.fits_seq.mp hrest₁
    obtain ⟨hspells, rfl⟩ := Pattern.fits_word.mp hfits₂
    obtain ⟨_, _, _, rfl, hfits₃, hrest₃⟩ := Pattern.fits_seq.mp hrest₂
    obtain ⟨rfl, hafter, rfl⟩ := Pattern.fits_wordEdge.mp hfits₃
    obtain ⟨rfl, rfl⟩ := Pattern.fits_empty.mp hrest₃
    have hne : w ≠ [] := hspells.ne_nil hk
    have hword : ∀ c ∈ w, isWord c = true := hspells.isWord hk
    refine ⟨⟨by simpa using hspells, ?_, ?_⟩, rfl⟩
    · simpa [isWordEdge_before hne hword] using hbefore
    · simpa [isWordEdge_after hne hword] using hafter
  · rintro ⟨⟨hspells, hbefore, hafter⟩, rfl⟩
    have hne : w ≠ [] := hspells.ne_nil hk
    have hword : ∀ c ∈ w, isWord c = true := hspells.isWord hk
    have hfits : Pattern.Fits (wholeWord k) u ([] ++ (w ++ ([] ++ []))) t gs' gs' :=
      .seq (.wordEdge (by simpa using (isWordEdge_before hne hword).mpr hbefore)) <|
        .seq (Pattern.fits_word.mpr ⟨hspells, rfl⟩) <|
        .seq (.wordEdge (by simpa using (isWordEdge_after hne hword).mpr hafter)) .empty
    simpa using hfits

theorem hasWord_of_occursIn {k : String} (hk : Lettered k) {s : List Char} (h : (wholeWord k).occursIn s = true) :
    HasWord k s := by
  obtain ⟨o, ho⟩ := Option.isSome_iff_exists.mp h
  obtain ⟨u, x, rfl, hat⟩ := Pattern.find?_sound ho
  obtain ⟨w, t, rfl, hfits, -⟩ := Pattern.at?_sound hat
  exact ⟨u, w, t, rfl, ((fits_wholeWord hk).mp hfits).1⟩

theorem beginOffset_eq_some {ls : List (List Char)} {b : Nat} (h : beginOffset ls = some b) :
    b < 5 ∧ ∃ line, ls[b]? = some line ∧ HasWord "begin" line := by
  obtain ⟨hb, hline, -⟩ := List.findIdx?_eq_some_iff_getElem.mp h
  have hb' : b < 5 ∧ b < ls.length := by simpa [Nat.lt_min] using hb
  refine ⟨hb'.1, ls[b], List.getElem?_eq_getElem hb'.2, hasWord_of_occursIn (by decide) ?_⟩
  simpa using hline

theorem endOffset_lt {depth : Int} {ls : List (List Char)} {e : Nat} (h : endOffset depth ls = some e) :
    e < ls.length := by
  induction ls generalizing depth e with
  | nil => cases h
  | cons line ls ih =>
      rw [endOffset] at h
      split at h
      · cases h
        exact Nat.zero_lt_succ _
      · obtain ⟨e', he', rfl⟩ := Option.map_eq_some_iff.mp h
        exact Nat.succ_lt_succ (ih he')

/-- A body opens within five lines and ends on a later line. -/
theorem bodyOffset_eq_some {ls : List (List Char)} {e : Nat} (h : bodyOffset ls = some e) :
    e < ls.length ∧ ∃ b < e, b < 5 ∧ ∃ line, ls[b]? = some line ∧ HasWord "begin" line := by
  obtain ⟨b, hb, h⟩ := Option.bind_eq_some_iff.mp h
  obtain ⟨e', he', rfl⟩ := Option.map_eq_some_iff.mp h
  obtain ⟨hfive, hbegin⟩ := beginOffset_eq_some hb
  have hlt := endOffset_lt he'
  rw [List.length_drop] at hlt
  exact ⟨by omega, b, by omega, hfive, hbegin⟩

/-! ## The search for functions -/

/-- At a line the search goes on with the next one, or it finds a function and goes on behind its last line. -/
theorem beginEndFrom_cases (n : Nat) (line : List Char) (rest : List (List Char)) :
    beginEndFrom n 0 (line :: rest) = beginEndFrom (n + 1) 0 rest ∨
    ∃ f e, beginEndFrom n 0 (line :: rest) = f :: beginEndFrom (n + 1) e rest ∧ f.startLine = n ∧ f.endLine = n + e ∧
      f.node = none ∧ Declares line f.name.toList ∧ bodyOffset (line :: rest) = some e := by
  rw [beginEndFrom]
  split
  · exact .inl rfl
  · rename_i o ho
    split
    · exact .inl rfl
    · rename_i e he
      have hdeclares := declares_of_atStart? ho
      exact .inr ⟨_, e, rfl, rfl, rfl, rfl, by simpa using hdeclares, he⟩

/-- What is found starts behind the lines that are passed over. -/
theorem startLine_of_mem {n skip : Nat} {ls : List (List Char)} {f : Function} (hf : f ∈ beginEndFrom n skip ls) :
    n + skip ≤ f.startLine := by
  induction ls generalizing n skip with
  | nil => cases hf
  | cons line ls ih =>
      cases skip with
      | succ skip =>
          have hstart := ih hf
          omega
      | zero =>
          rcases beginEndFrom_cases n line ls with heq | ⟨g, e, heq, hg, -⟩
          · rw [heq] at hf
            have hstart := ih hf
            omega
          · rw [heq] at hf
            rcases List.mem_cons.mp hf with rfl | hf
            · exact Nat.le_of_eq hg.symm
            · have hstart := ih hf
              omega

theorem pairwise_beginEndFrom (n skip : Nat) (ls : List (List Char)) :
    (beginEndFrom n skip ls).Pairwise fun f g => f.endLine < g.startLine := by
  induction ls generalizing n skip with
  | nil => exact .nil
  | cons line ls ih =>
      cases skip with
      | succ skip => exact ih (n + 1) skip
      | zero =>
          rcases beginEndFrom_cases n line ls with heq | ⟨f, e, heq, -, hend, -⟩
          · rw [heq]
            exact ih (n + 1) 0
          · rw [heq]
            refine .cons (fun g hg => ?_) (ih (n + 1) e)
            have hstart := startLine_of_mem hg
            omega

/-- A line that is not passed over and declares a function with a closed body is a line of a function that is found. -/
theorem covered_of_declares {n skip i e : Nat} {ls : List (List Char)} {line name : List Char} (hskip : skip ≤ i)
    (hline : ls[i]? = some line) (hdeclares : Declares line name) (hbody : bodyOffset (ls.drop i) = some e) :
    ∃ f ∈ beginEndFrom n skip ls, f.startLine ≤ n + i ∧ n + i ≤ f.endLine := by
  induction ls generalizing n skip i with
  | nil => cases hline
  | cons first ls ih =>
      cases i with
      | zero =>
          obtain rfl : skip = 0 := Nat.le_zero.mp hskip
          cases hline
          obtain ⟨o, ho⟩ := atStart?_of_declares hdeclares
          rw [List.drop_zero] at hbody
          rw [beginEndFrom, ho]
          simp only [hbody]
          exact ⟨_, List.mem_cons_self, Nat.le_refl n, Nat.le_add_right n e⟩
      | succ i =>
          -- A function found at the first line holds the line, or ends before it.
          have hlater : ∀ k ≤ i, ∃ f ∈ beginEndFrom (n + 1) k ls, f.startLine ≤ n + (i + 1) ∧
              n + (i + 1) ≤ f.endLine := by
            intro k hk
            obtain ⟨f, hf, hstart, hend⟩ := ih (n := n + 1) hk hline hbody
            exact ⟨f, hf, by omega, by omega⟩
          cases skip with
          | succ skip => exact hlater skip (Nat.le_of_succ_le_succ hskip)
          | zero =>
              rcases beginEndFrom_cases n first ls with heq | ⟨g, k, heq, hstart, hend, -⟩
              · rw [heq]
                exact hlater 0 (Nat.zero_le i)
              · rw [heq]
                by_cases hk : k ≤ i
                · obtain ⟨f, hf, hlines⟩ := hlater k hk
                  exact ⟨f, List.mem_cons_of_mem g hf, hlines⟩
                · exact ⟨g, List.mem_cons_self, by omega, by omega⟩

/-! ## The functions of a text -/

/-- A function found on some lines: they hold its first and its last line, it starts with its declaration, and its body
opens within five lines and before its last one. No node of a tree belongs to it. -/
structure FoundOn (ls : List (List Char)) (f : Function) : Prop where
  first : 1 ≤ f.startLine
  ordered : f.startLine < f.endLine
  last : f.endLine ≤ ls.length
  declared : ∃ line, ls[f.startLine - 1]? = some line ∧ Declares line f.name.toList
  opened : ∃ k ≤ 4, f.startLine + k < f.endLine ∧ ∃ line, ls[f.startLine - 1 + k]? = some line ∧ HasWord "begin" line
  treeless : f.node = none

theorem foundOn_of_mem {all ls : List (List Char)} {n skip : Nat} {f : Function} (hls : all.drop n = ls)
    (hf : f ∈ beginEndFrom (n + 1) skip ls) : FoundOn all f := by
  induction ls generalizing n skip with
  | nil => cases hf
  | cons line ls ih =>
      have hrest : all.drop (n + 1) = ls := by
        rw [← List.drop_drop, hls, List.drop_one, List.tail_cons]
      cases skip with
      | succ skip => exact ih hrest hf
      | zero =>
          rcases beginEndFrom_cases (n + 1) line ls with heq | ⟨g, e, heq, hstart, hend, hnode, hdeclares, he⟩
          · rw [heq] at hf
            exact ih hrest hf
          · rw [heq] at hf
            rcases List.mem_cons.mp hf with rfl | hf
            · obtain ⟨hlt, k, hk, hfive, hbegin⟩ := bodyOffset_eq_some he
              have hget : ∀ i, all[n + i]? = (line :: ls)[i]? := by
                intro i
                rw [← hls, List.getElem?_drop]
              have hlength : all.length - n = (line :: ls).length := by
                rw [← hls, List.length_drop]
              have hindex : f.startLine - 1 = n := by omega
              refine ⟨by omega, by omega, by omega, ⟨line, ?_, hdeclares⟩, ⟨k, by omega, by omega, ?_⟩, hnode⟩
              · rw [hindex]
                exact hget 0
              · rw [hindex, hget k]
                exact hbegin
            · exact ih hrest hf

/-- Every function written with `begin` and `end` takes lines of the text, from its declaration to a later line, and the
lines of one function come before those of the next. No declaration with a closed body lies outside of them. -/
theorem beginEnd_apart (source : List Char) :
    (∀ f ∈ beginEnd source, FoundOn (lines source) f) ∧
    ((beginEnd source).Pairwise fun f g => f.endLine < g.startLine) ∧
    ∀ i line name, (lines source)[i]? = some line → Declares line name → (bodyOffset ((lines source).drop i)).isSome →
      ∃ f ∈ beginEnd source, f.startLine ≤ i + 1 ∧ i + 1 ≤ f.endLine := by
  refine ⟨fun f hf => foundOn_of_mem (n := 0) rfl hf, pairwise_beginEndFrom 1 0 (lines source), ?_⟩
  intro i line name hline hdeclares hbody
  obtain ⟨e, he⟩ := Option.isSome_iff_exists.mp hbody
  rw [Nat.add_comm i 1]
  exact covered_of_declares (Nat.zero_le i) hline hdeclares he

example : (beginEnd "VOID f()\nbegin\nend\nINT g(INT a)\n\nbegin\nbegin end\nend".toList).map
    (fun f => (f.name, f.startLine, f.endLine)) = [("f", 1, 3), ("g", 4, 8)] := by
  decide +kernel

end EsqlAudit.Function
