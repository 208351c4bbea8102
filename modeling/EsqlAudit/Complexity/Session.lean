import EsqlAudit.Complexity.Cognitive
import EsqlAudit.Complexity.Halstead
import EsqlAudit.Function.BeginEnd
import EsqlAudit.Table

/-!
A session of measuring: the program at hand and what has been measured so far. Loading another program
does not forget any measures.
-/
namespace EsqlAudit.Complexity
open Syntax

structure Session where
  program : Program
  cyclomatic : Memo Nat
  cognitive : Memo Nat
  vocabulary : Memo Vocabulary

/-- What a step of a session gives: a measure, or what failed, and the session after it. -/
abbrev Outcome (α : Type) := Measured α × Session

namespace Session

/-- A session that has measured nothing yet. -/
def start (p : Program) : Session := ⟨p, .empty, .empty, .empty⟩

/-- Turns to another program. -/
def load (s : Session) (p : Program) : Session := { s with program := p }

/-- The cyclomatic complexity of a function, worked out once for its name. -/
def measureCyclomatic (s : Session) (f : Function) : Outcome Nat :=
  let (r, m) := s.cyclomatic.consult f.name (Complexity.cyclomatic s.program f)
  (r, { s with cyclomatic := m })

/-- The cognitive complexity of a function, worked out once for its name. -/
def measureCognitive (s : Session) (f : Function) : Outcome Nat :=
  let (r, m) := s.cognitive.consult f.name (Complexity.cognitive s.program f)
  (r, { s with cognitive := m })

/-- The operators and operands of a function, collected once for its name. -/
def measureVocabulary (s : Session) (f : Function) : Outcome Vocabulary :=
  let (r, m) := s.vocabulary.consult f.name (Complexity.vocabulary s.program f)
  (r, { s with vocabulary := m })

/-- The decisions of a function as they are now, with its complexity as it is remembered. -/
def explainCyclomatic (s : Session) (f : Function) : Outcome (Decisions × Nat) :=
  match decisions s.program f with
  | .error e => (.error e, s)
  | .ok d =>
    let (r, s) := s.measureCyclomatic f
    (r.map fun total => (d, total), s)

/-- The burdens of a function as they are now, with its complexity as it is remembered. -/
def explainCognitive (s : Session) (f : Function) : Outcome (Burdens × Nat) :=
  match burdens s.program f with
  | .error e => (.error e, s)
  | .ok b =>
    let (r, s) := s.measureCognitive f
    (r.map fun total => (b, total), s)

/-- Takes a step for each of some functions, up to the first that fails. -/
def each {α : Type} (step : Session → Function → Outcome α) (s : Session) :
    List Function → Outcome (List (String × α))
  | [] => (.ok [], s)
  | f :: rest =>
    match step s f with
    | (.error e, s) => (.error e, s)
    | (.ok a, s) =>
      match each step s rest with
      | (.error e, s) => (.error e, s)
      | (.ok found, s) => (.ok ((f.name, a) :: found), s)

/-- Takes a step for each function of the program. -/
def forFunctions {α : Type} (step : Session → Function → Outcome α) (s : Session) :
    Outcome (List (String × α)) :=
  match Function.all s.program with
  | .error e => (.error e, s)
  | .ok fs => each step s fs

/-- A measure of all functions of the program, by name. -/
def measureAll {α : Type} (step : Session → Function → Outcome α) (s : Session) :
    Outcome (Table α) :=
  let (r, s) := s.forFunctions step
  (r.map Table.ofEntries, s)

end Session

end EsqlAudit.Complexity
