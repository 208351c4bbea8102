/-!
When to stop measuring: the count of benches below the mark is zero, or it has not fallen for some rounds.
-/
namespace EsqlAudit.Round

/-- The best count so far, and the number of rounds since it was first reached. -/
structure Standing where
  best : Int
  since : Nat
deriving DecidableEq, Repr

/-- Takes the count of one more round. A count that only equals the best is no improvement. -/
def Standing.next (s : Standing) (count : Int) : Standing :=
  if count < s.best then ⟨count, 0⟩ else ⟨s.best, s.since + 1⟩

/-- The standing after the counts of some rounds, the first of which is given apart. -/
def standing (first : Int) (later : List Int) : Standing :=
  later.foldl Standing.next ⟨first, 0⟩

/-- The standing after earlier rounds and the current one. -/
def standingAfter (earlier : List Int) (current : Int) : Standing :=
  match earlier with
  | [] => ⟨current, 0⟩
  | first :: rest => standing first (rest ++ [current])

/-- The number of rounds without improvement after which measuring stops. -/
def patience : Nat := 3

/-- The share of covered statements from which on counts are compared. -/
def sufficientCoverage : Float := 60.0

/-- Why measuring stops. -/
inductive Stop where
  | allDone
  | noImprovement (s : Standing)
deriving DecidableEq, Repr

/-- Whether measuring stops after earlier rounds and the current one. -/
def stop? (earlier : List Int) (current : Int) : Option Stop :=
  let s := standingAfter earlier current
  if current == 0 then some .allDone
  else if patience ≤ s.since then some (.noImprovement s)
  else none

def Stop.reason : Stop → String
  | allDone => "0 below"
  | noImprovement s => s!"no improvement in {s.since} rounds; best {s.best} below"

/-- The line that tells to stop. -/
def Stop.line (s : Stop) : String :=
  ">>> STOP: repo_time converged (" ++ s.reason ++ "). Finalize microbench.py now. <<<"

end EsqlAudit.Round
