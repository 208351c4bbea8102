import EsqlAudit.Complexity.Session
import EsqlAudit.Proofs.Outcome
import EsqlAudit.Proofs.Table

/-!
# Measures over a run of calls

A session is given one call after the other: it turns to another program, measures a function or all functions, or
explains a complexity. Whatever the calls are, each value that it gives for a name is the one that the first
successful attempt at that name worked out, from the function and the program of that attempt. An attempt that
fails changes nothing.
-/

namespace EsqlAudit.Complexity
open Syntax

/-! ## Consulting a memo -/

section Memo

variable {α : Type} (memo : Memo α) (name : String) (value : Measured α)

theorem Memo.consult_fst : (memo.consult name value).1 = (memo.entries.lookup name).elim value .ok := by
  unfold Memo.consult
  cases memo.entries.lookup name with
  | some a => rfl
  | none => cases value <;> rfl

/-- The name that was consulted has its value from before, or else the new one. All other names have theirs. -/
theorem Memo.lookup_consult (other : String) :
    (memo.consult name value).2.entries.lookup other =
      (memo.entries.lookup other).or (if name = other then value.toOption else none) := by
  unfold Memo.consult
  by_cases hname : name = other
  · subst hname
    cases hlook : memo.entries.lookup name with
    | some a => simp [hlook]
    | none =>
        cases value with
        | ok a => simp [List.lookup_append, hlook, Except.toOption]
        | error e => simp [hlook, Except.toOption]
  · have hnew (a : α) : [(name, a)].lookup other = none := by
      rw [List.lookup_cons, beq_false_of_ne (Ne.symm hname)]
      rfl
    rw [if_neg hname, Option.or_none]
    cases memo.entries.lookup name with
    | some a => rfl
    | none =>
        cases value with
        | ok a => rw [List.lookup_append, hnew, Option.or_none]
        | error e => rfl

theorem Memo.consult_error {e : Utf8.Fault} (h : (memo.consult name value).1 = .error e) :
    (memo.consult name value).2 = memo := by
  unfold Memo.consult at h ⊢
  cases hlook : memo.entries.lookup name with
  | some a => rfl
  | none =>
      cases value with
      | ok a => simp [hlook] at h
      | error e' => rfl

end Memo

/-! ## The three measures -/

/-- What can be measured of a function. -/
inductive Measure where
  | cyclomatic
  | cognitive
  | vocabulary
  deriving DecidableEq

namespace Measure

/-- The values of a measure. -/
def Value : Measure → Type
  | cyclomatic => Nat
  | cognitive => Nat
  | vocabulary => Vocabulary

/-- The measure of a function, worked out without any memo. -/
def workOut : (k : Measure) → Program → Function → Measured k.Value
  | cyclomatic => Complexity.cyclomatic
  | cognitive => Complexity.cognitive
  | vocabulary => Complexity.vocabulary

/-- What a session remembers of the measure. -/
def memo : (k : Measure) → Session → Memo k.Value
  | cyclomatic => Session.cyclomatic
  | cognitive => Session.cognitive
  | vocabulary => Session.vocabulary

/-- Measures a function in a session. -/
def step : (k : Measure) → Session → Function → Outcome k.Value
  | cyclomatic => Session.measureCyclomatic
  | cognitive => Session.measureCognitive
  | vocabulary => Session.measureVocabulary

variable (k : Measure) (s : Session) (f : Function)

@[simp] theorem program_step : (k.step s f).2.program = s.program := by
  cases k <;> rfl

theorem step_fst : (k.step s f).1 = ((k.memo s).consult f.name (k.workOut s.program f)).1 := by
  cases k <;> rfl

theorem memo_step : k.memo (k.step s f).2 = ((k.memo s).consult f.name (k.workOut s.program f)).2 := by
  cases k <;> rfl

/-- A measure leaves the memos of the others alone. -/
theorem memo_step_of_ne {k k' : Measure} (h : k ≠ k') : k'.memo (k.step s f).2 = k'.memo s := by
  cases k <;> cases k' <;> first | contradiction | rfl

/-- Sessions at one program that remember the same are the same. -/
theorem session_ext {s s' : Session} (hprogram : s.program = s'.program) (hmemo : ∀ k : Measure, k.memo s = k.memo s') :
    s = s' := by
  have hcyclomatic : s.cyclomatic = s'.cyclomatic := hmemo cyclomatic
  have hcognitive : s.cognitive = s'.cognitive := hmemo cognitive
  have hvocabulary : s.vocabulary = s'.vocabulary := hmemo vocabulary
  cases s
  cases s'
  simp_all

/-- A step that fails leaves the session as it was. -/
theorem step_error {e : Utf8.Fault} (h : (k.step s f).1 = .error e) : (k.step s f).2 = s := by
  refine session_ext (program_step k s f) fun k' => ?_
  by_cases hk : k = k'
  · subst hk
    rw [step_fst] at h
    rw [memo_step, Memo.consult_error _ _ _ h]
  · exact memo_step_of_ne s f hk

end Measure

/-! ## Attempts -/

/-- A function that was to be measured, with the program at hand then. -/
structure Attempt where
  measure : Measure
  program : Program
  function : Function

/-- What the first successful attempt at the measure of a name worked out. -/
def firstSuccess (k : Measure) (name : String) (attempts : List Attempt) : Option k.Value :=
  attempts.findSome? fun a =>
    if a.measure = k ∧ a.function.name = name then (k.workOut a.program a.function).toOption else none

theorem firstSuccess_append (k : Measure) (name : String) (before after : List Attempt) :
    firstSuccess k name (before ++ after) = (firstSuccess k name before).or (firstSuccess k name after) :=
  List.findSome?_append

theorem firstSuccess_singleton (k : Measure) (name : String) (a : Attempt) :
    firstSuccess k name [a] =
      if a.measure = k ∧ a.function.name = name then (k.workOut a.program a.function).toOption else none := by
  simp only [firstSuccess, List.findSome?_singleton]

/-- Later attempts do not change the first success. -/
theorem firstSuccess_of_before {k : Measure} {name : String} {before : List Attempt} {v : k.Value}
    (h : firstSuccess k name before = some v) (after : List Attempt) :
    firstSuccess k name (before ++ after) = some v := by
  rw [firstSuccess_append, h, Option.some_or]

/-- The session remembers of each name what the first successful attempt worked out, and no more. -/
def Session.Recalls (s : Session) (attempts : List Attempt) : Prop :=
  ∀ (k : Measure) (name : String), (k.memo s).entries.lookup name = firstSuccess k name attempts

theorem Session.recalls_start (p : Program) : (Session.start p).Recalls [] := by
  intro k name
  cases k <;> rfl

namespace Session.Recalls

variable {s : Session} {attempts : List Attempt} (h : s.Recalls attempts)

include h

/-- The program at hand plays no part in what is remembered. -/
theorem load (p : Program) : (s.load p).Recalls attempts := by
  intro k name
  rw [← h k name]
  cases k <;> rfl

/-- A step gives the first success there was, or else what is worked out now. -/
theorem step_fst (k : Measure) (f : Function) :
    (k.step s f).1 = (firstSuccess k f.name attempts).elim (k.workOut s.program f) .ok := by
  rw [Measure.step_fst, Memo.consult_fst, h k f.name]

theorem step (k : Measure) (f : Function) : (k.step s f).2.Recalls (attempts ++ [⟨k, s.program, f⟩]) := by
  intro k' name
  rw [firstSuccess_append, firstSuccess_singleton]
  by_cases hk : k = k'
  · subst hk
    rw [Measure.memo_step, Memo.lookup_consult, h k name]
    simp
  · rw [Measure.memo_step_of_ne s f hk, h k' name]
    simp [hk]

/-- The value that a step gives is the first success, the step included. -/
theorem firstSuccess_of_step {k : Measure} {f : Function} {v : k.Value} (hv : (k.step s f).1 = .ok v) :
    firstSuccess k f.name (attempts ++ [⟨k, s.program, f⟩]) = some v := by
  rw [h.step_fst k f] at hv
  rw [firstSuccess_append, firstSuccess_singleton]
  cases hfirst : firstSuccess k f.name attempts with
  | some w =>
      rw [hfirst] at hv
      exact congrArg some (Except.ok.inj hv)
  | none =>
      rw [hfirst, Option.elim_none] at hv
      simp [hv, Except.toOption]

end Session.Recalls

/-! ## All functions of a program -/

/-- The functions for which a step is taken, up to the first that fails. -/
def tried {α : Type} (step : Session → Function → Outcome α) (s : Session) : List Function → List Function
  | [] => []
  | f :: rest =>
    f :: match (step s f).1 with
      | .error _ => []
      | .ok _ => tried step (step s f).2 rest

section Each

variable {α : Type} {step : Session → Function → Outcome α} {s : Session} {f : Function}

theorem Session.each_of_error {e : Utf8.Fault} (h : (step s f).1 = .error e) (rest : List Function) :
    Session.each step s (f :: rest) = (.error e, (step s f).2) := by
  have hstep : step s f = (.error e, (step s f).2) := Prod.ext h rfl
  rw [Session.each, hstep]

theorem Session.each_of_ok {a : α} (h : (step s f).1 = .ok a) (rest : List Function) :
    Session.each step s (f :: rest) =
      ((Session.each step (step s f).2 rest).1.map ((f.name, a) :: ·), (Session.each step (step s f).2 rest).2) := by
  have hstep : step s f = (.ok a, (step s f).2) := Prod.ext h rfl
  rw [Session.each, hstep]
  dsimp only
  obtain ⟨found, s'⟩ := Session.each step (step s f).2 rest
  cases found <;> rfl

end Each

/-- The functions of the program for which a step is taken. -/
def triedIn {α : Type} (step : Session → Function → Outcome α) (s : Session) : List Function :=
  match Function.all s.program with
  | .error _ => []
  | .ok fs => tried step s fs

namespace Session.Recalls

variable {s : Session} {attempts : List Attempt} (h : s.Recalls attempts)

include h

/-- Measuring one function after the other gives first successes only. -/
theorem each (k : Measure) (fs : List Function) :
    let r := Session.each k.step s fs
    let attempts' := attempts ++ (tried k.step s fs).map (⟨k, s.program, ·⟩)
    r.2.program = s.program ∧ r.2.Recalls attempts' ∧
      ∀ found, r.1 = .ok found → ∀ e ∈ found, firstSuccess k e.1 attempts' = some e.2 := by
  -- the induction is on the functions; what a step adds to the attempts is carried to the rest
  induction fs generalizing s attempts with
  | nil =>
      refine ⟨rfl, by simpa [tried, Session.each] using h, fun found hfound e he => ?_⟩
      cases hfound
      cases he
  | cons f rest ih =>
      have hstep := h.step k f
      have hprogram := k.program_step s f
      dsimp only
      rw [tried]
      cases hv : (k.step s f).1 with
      | error e =>
          rw [Session.each_of_error hv]
          refine ⟨hprogram, hstep, fun found hfound => ?_⟩
          cases hfound
      | ok v =>
          rw [Session.each_of_ok hv]
          obtain ⟨hprogram', hrecalls, hfirst⟩ := ih hstep
          rw [hprogram, List.append_assoc] at hrecalls hfirst
          refine ⟨hprogram'.trans hprogram, hrecalls, fun found hfound e he => ?_⟩
          obtain ⟨found', hfound', rfl⟩ := of_map_ok hfound
          rcases List.mem_cons.mp he with rfl | he
          · have hhead := firstSuccess_of_before (h.firstSuccess_of_step hv)
              ((tried k.step (k.step s f).2 rest).map (⟨k, s.program, ·⟩))
            rwa [List.append_assoc] at hhead
          · exact hfirst found' hfound' e he

theorem measureAll (k : Measure) :
    let r := s.measureAll k.step
    let attempts' := attempts ++ (triedIn k.step s).map (⟨k, s.program, ·⟩)
    r.2.Recalls attempts' ∧ ∀ t, r.1 = .ok t → ∀ e ∈ t, firstSuccess k e.1 attempts' = some e.2 := by
  dsimp only
  rw [Session.measureAll, Session.forFunctions, triedIn]
  cases Function.all s.program with
  | error e =>
      refine ⟨by simpa using h, fun t ht => ?_⟩
      cases ht
  | ok fs =>
      obtain ⟨-, hrecalls, hfirst⟩ := h.each k fs
      refine ⟨hrecalls, fun t ht e he => ?_⟩
      obtain ⟨found, hfound, rfl⟩ := of_map_ok ht
      have hlast := Table.getLast?_of_mem_ofEntries he
      exact hfirst found hfound e (List.mem_filter.mp (List.mem_of_getLast? hlast)).1

end Session.Recalls

/-! ## Explained measures -/

/-- A measure with what explains it. It is not measured if that cannot be collected. -/
def explained {β : Type} (k : Measure) (collected : Measured β) (s : Session) (f : Function) : Outcome (β × k.Value) :=
  match collected with
  | .error e => (.error e, s)
  | .ok b => ((k.step s f).1.map (b, ·), (k.step s f).2)

theorem explainCyclomatic_eq_explained (s : Session) (f : Function) :
    s.explainCyclomatic f = explained .cyclomatic (decisions s.program f) s f := by
  unfold Session.explainCyclomatic explained
  cases decisions s.program f <;> rfl

theorem explainCognitive_eq_explained (s : Session) (f : Function) :
    s.explainCognitive f = explained .cognitive (burdens s.program f) s f := by
  unfold Session.explainCognitive explained
  cases burdens s.program f <;> rfl

theorem Session.Recalls.explain {s : Session} {attempts : List Attempt} (h : s.Recalls attempts) {β : Type}
    (k : Measure)
    (collected : Measured β) (f : Function) :
    let r := explained k collected s f
    let attempts' := attempts ++ collected.toOption.toList.map fun _ => ⟨k, s.program, f⟩
    r.2.Recalls attempts' ∧ ∀ b v, r.1 = .ok (b, v) → firstSuccess k f.name attempts' = some v := by
  cases collected with
  | error e =>
      refine ⟨by simpa [Except.toOption, explained] using h, fun b v hv => ?_⟩
      cases hv
  | ok b =>
      refine ⟨h.step k f, fun b' v hv => ?_⟩
      obtain ⟨w, hw, heq⟩ := of_map_ok hv
      cases heq
      exact h.firstSuccess_of_step hw

/-! ## Calls -/

/-- A call to a session. -/
inductive Call where
  | load (p : Program)
  | measure (k : Measure) (f : Function)
  | measureAll (k : Measure)
  | explainCyclomatic (f : Function)
  | explainCognitive (f : Function)

/-- What a session answers. -/
inductive Answer where
  | loaded
  | measured (k : Measure) (name : String) (r : Measured k.Value)
  | all (k : Measure) (r : Measured (Table k.Value))
  | decisions (name : String) (r : Measured (Decisions × Nat))
  | burdens (name : String) (r : Measured (Burdens × Nat))

namespace Call

/-- The answer to a call, and the session after it. -/
def answer (s : Session) : Call → Answer × Session
  | load p => (.loaded, s.load p)
  | measure k f => (.measured k f.name (k.step s f).1, (k.step s f).2)
  | measureAll k => (.all k (s.measureAll k.step).1, (s.measureAll k.step).2)
  | explainCyclomatic f => (.decisions f.name (s.explainCyclomatic f).1, (s.explainCyclomatic f).2)
  | explainCognitive f => (.burdens f.name (s.explainCognitive f).1, (s.explainCognitive f).2)

/-- The attempts that a call makes. A complexity is explained only if what explains it can be collected. -/
def attempts (s : Session) : Call → List Attempt
  | load _ => []
  | measure k f => [⟨k, s.program, f⟩]
  | measureAll k => (triedIn k.step s).map (⟨k, s.program, ·⟩)
  | explainCyclomatic f => (Complexity.decisions s.program f).toOption.toList.map fun _ => ⟨.cyclomatic, s.program, f⟩
  | explainCognitive f => (Complexity.burdens s.program f).toOption.toList.map fun _ => ⟨.cognitive, s.program, f⟩

end Call

/-- The answer gives the value of a measure for a name. -/
inductive Answer.Gives : Answer → (k : Measure) → String → k.Value → Prop
  | measured {k : Measure} {name : String} {v : k.Value} : Gives (.measured k name (.ok v)) k name v
  | all {k : Measure} {name : String} {v : k.Value} {t : Table k.Value} (h : (name, v) ∈ t) :
      Gives (.all k (.ok t)) k name v
  | decisions {name : String} {d : Decisions} {total : Nat} :
      Gives (.decisions name (.ok (d, total))) .cyclomatic name total
  | burdens {name : String} {b : Burdens} {total : Nat} : Gives (.burdens name (.ok (b, total))) .cognitive name total

/-- A run of calls: the answers in order, the attempts in order, and the session after it. -/
structure Run where
  answers : List Answer
  attempts : List Attempt
  session : Session

/-- The calls one after the other. -/
def Run.of (s : Session) : List Call → Run
  | [] => ⟨[], [], s⟩
  | c :: rest =>
    let after := Run.of (c.answer s).2 rest
    ⟨(c.answer s).1 :: after.answers, c.attempts s ++ after.attempts, after.session⟩

/-- Each call keeps what the session recalls, and gives first successes only. -/
theorem Session.Recalls.answer {s : Session} {attempts : List Attempt} (h : s.Recalls attempts) (c : Call) :
    (c.answer s).2.Recalls (attempts ++ c.attempts s) ∧
      ∀ k name v, (c.answer s).1.Gives k name v → firstSuccess k name (attempts ++ c.attempts s) = some v := by
  cases c with
  | load p =>
      refine ⟨by simpa [Call.attempts, Call.answer] using h.load p, fun k name v hgives => ?_⟩
      cases hgives
  | measure k f =>
      refine ⟨h.step k f, fun k' name v hgives => ?_⟩
      dsimp only [Call.answer] at hgives
      generalize hr : (k.step s f).1 = r at hgives
      cases hgives
      exact h.firstSuccess_of_step hr
  | measureAll k =>
      obtain ⟨hrecalls, hfirst⟩ := h.measureAll k
      refine ⟨hrecalls, fun k' name v hgives => ?_⟩
      dsimp only [Call.answer] at hgives
      generalize hr : (s.measureAll k.step).1 = r at hgives
      cases hgives with
      | all hmem => exact hfirst _ hr _ hmem
  | explainCyclomatic f =>
      obtain ⟨hrecalls, hfirst⟩ := h.explain .cyclomatic (decisions s.program f) f
      dsimp only [Call.answer, Call.attempts]
      rw [explainCyclomatic_eq_explained]
      refine ⟨hrecalls, fun k name v hgives => ?_⟩
      generalize hr : (explained .cyclomatic (decisions s.program f) s f).1 = r at hgives
      cases hgives
      exact hfirst _ _ hr
  | explainCognitive f =>
      obtain ⟨hrecalls, hfirst⟩ := h.explain .cognitive (burdens s.program f) f
      dsimp only [Call.answer, Call.attempts]
      rw [explainCognitive_eq_explained]
      refine ⟨hrecalls, fun k name v hgives => ?_⟩
      generalize hr : (explained .cognitive (burdens s.program f) s f).1 = r at hgives
      cases hgives
      exact hfirst _ _ hr

/-- What a run leaves the session to recall, and that it gives first successes only. -/
theorem Session.Recalls.run {s : Session} {attempts : List Attempt} (h : s.Recalls attempts) (calls : List Call) :
    let r := Run.of s calls
    r.session.Recalls (attempts ++ r.attempts) ∧
      ∀ a ∈ r.answers, ∀ k name v, a.Gives k name v → firstSuccess k name (attempts ++ r.attempts) = some v := by
  induction calls generalizing s attempts with
  | nil =>
      refine ⟨by simpa [Run.of] using h, fun a ha => ?_⟩
      cases ha
  | cons c rest ih =>
      obtain ⟨hcall, hgives⟩ := h.answer c
      obtain ⟨hrecalls, hrest⟩ := ih hcall
      rw [List.append_assoc] at hrecalls hrest
      refine ⟨hrecalls, fun a ha k name v hv => ?_⟩
      rcases List.mem_cons.mp ha with rfl | ha
      · have hfirst := firstSuccess_of_before (hgives k name v hv) (Run.of (c.answer s).2 rest).attempts
        rwa [List.append_assoc] at hfirst
      · exact hrest a ha k name v hv

/-- Over a run of any calls, each value given for a name is the one that the first successful attempt at it worked
out. After the run a measure gives that value, or is worked out afresh if no attempt succeeded. A step that fails
leaves the session as it was. -/
theorem run_gives_firstSuccess (p : Program) (calls : List Call) :
    let r := Run.of (Session.start p) calls
    (∀ a ∈ r.answers, ∀ k name v, a.Gives k name v → firstSuccess k name r.attempts = some v) ∧
    (∀ (k : Measure) (f : Function),
      (k.step r.session f).1 = (firstSuccess k f.name r.attempts).elim (k.workOut r.session.program f) .ok) ∧
    ∀ (k : Measure) (s : Session) (f : Function) (e : Utf8.Fault), (k.step s f).1 = .error e → (k.step s f).2 = s := by
  obtain ⟨hrecalls, hgives⟩ := (Session.recalls_start p).run calls
  rw [List.nil_append] at hrecalls hgives
  exact ⟨hgives, hrecalls.step_fst, fun k s f e => k.step_error s f⟩

/-- A program whose text is given and whose tree is not. -/
def reading (text : String) : Program := .load text.toList none

/-- A function with one expression, whose operator is the first two bytes of the program. -/
def expressionF : Function where
  name := "f"
  startLine := 1
  endLine := 1
  node := some (.mk .binaryExpression 0 2 [.mk (.other "&&") 0 2 [] false false] true false)
  parameters := []
  returnType := "int"

/-- The operator cannot be read at first, then it is a decision, and then it is none: the complexity of the second
program is given for the third. -/
theorem run_gives_firstSuccess_reread :
    let r := Run.of (Session.start (reading "€"))
      [.measure .cyclomatic expressionF, .load (reading "&&"), .measure .cyclomatic expressionF, .load (reading "++"),
        .explainCyclomatic expressionF]
    (∃ e, Answer.measured .cyclomatic "f" (.error e) ∈ r.answers) ∧ cyclomatic (reading "++") expressionF = .ok 1 ∧
      Answer.decisions "f" (.ok (.none, 2)) ∈ r.answers ∧ firstSuccess .cyclomatic "f" r.attempts = some (2 : Nat) := by
  intro r
  have hgiven : Answer.decisions "f" (.ok (.none, 2)) ∈ r.answers :=
    .tail _ (.tail _ (.tail _ (.tail _ (.head _))))
  exact ⟨⟨_, .head _⟩, rfl, hgiven, (run_gives_firstSuccess _ _).1 _ hgiven .cyclomatic "f" (2 : Nat) .decisions⟩

end EsqlAudit.Complexity
