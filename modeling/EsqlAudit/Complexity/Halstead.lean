import EsqlAudit.Complexity.Vocabulary
import EsqlAudit.Decimal.Fixed
import EsqlAudit.Json.Value

/-!
Halstead's measures, from the numbers of distinct and of all operators and operands.
-/
namespace EsqlAudit.Complexity
open Decimal

/-- Distinct operators and operands, and all operators and operands. -/
structure Counts where
  uniqueOperators : Int
  uniqueOperands : Int
  totalOperators : Int
  totalOperands : Int

/-- What keeps a measure from being a number. -/
inductive NumberFault where
  /-- The logarithm of a number that is not positive. -/
  | domain
  /-- A whole number too large for a double. -/
  | tooLarge
  /-- A quotient too large for a double. -/
  | quotientTooLarge
deriving DecidableEq, Repr

namespace NumberFault

def message : NumberFault → String
  | domain => "math domain error"
  | tooLarge => "int too large to convert to float"
  | quotientTooLarge => "integer division result too large for a float"

end NumberFault

/-- A whole number as a double. -/
def toDouble (i : Int) : Except NumberFault Float :=
  match ofInt i with
  | some x => .ok x
  | none => .error .tooLarge

/-- The quotient of two whole numbers, correctly rounded; a zero has the sign of the quotient. -/
def divide (a b : Int) : Except NumberFault Float :=
  match nearest a.natAbs b.natAbs with
  | some x => .ok (if (decide (a < 0)) != (decide (b < 0)) then -x else x)
  | none => .error .quotientTooLarge

/-- The binary logarithm of a whole number of any size. -/
def logTwo (i : Int) : Except NumberFault Float :=
  if i ≤ 0 then .error .domain
  else
    match nearest i.natAbs 1 with
    | some x => .ok x.log2
    | none =>
      -- `i = m * 2 ^ e` with `m` in `[1/2, 1]`.
      let e := Nat.log2 i.natAbs + 1
      .ok (((nearest i.natAbs (Nat.pow 2 e)).getD 1.0).log2 + Float.ofNat e)

namespace Counts

def vocabulary (c : Counts) : Int := c.uniqueOperators + c.uniqueOperands

def length (c : Counts) : Int := c.totalOperators + c.totalOperands

/-- A number times its own logarithm. -/
def timesLog (n : Int) : Except NumberFault Float := do
  let l ← logTwo n
  return (← toDouble n) * l

/-- The length that the vocabulary lets one expect. -/
def calculatedLength (c : Counts) : Except NumberFault Float :=
  if c.uniqueOperators == 0 || c.uniqueOperands == 0 then .ok 0.0
  else do
    let a ← timesLog c.uniqueOperators
    let b ← timesLog c.uniqueOperands
    return a + b

def volume (c : Counts) : Except NumberFault Float :=
  if c.vocabulary == 0 then .ok 0.0
  else do
    let l ← logTwo c.vocabulary
    return (← toDouble c.length) * l

def difficulty (c : Counts) : Except NumberFault Float :=
  if c.uniqueOperands == 0 then .ok 0.0
  else do
    let a ← divide c.uniqueOperators 2
    let b ← divide c.totalOperands c.uniqueOperands
    return a * b

def effort (c : Counts) : Except NumberFault Float := do
  let d ← c.difficulty
  return d * (← c.volume)

def timeSeconds (c : Counts) : Except NumberFault Float :=
  c.effort.map (· / 18.0)

def timeMinutes (c : Counts) : Except NumberFault Float :=
  c.timeSeconds.map (· / 60.0)

def bugs (c : Counts) : Except NumberFault Float :=
  c.volume.map (· / 3000.0)

/-- The measures as they stand in a report. -/
def toRecord (c : Counts) : Except NumberFault Record := do
  let volume ← c.volume
  let difficulty ← c.difficulty
  let effort ← c.effort
  let minutes ← c.timeMinutes
  let bugs ← c.bugs
  return [("unique_operators", .int c.uniqueOperators),
    ("unique_operands", .int c.uniqueOperands),
    ("total_operators", .int c.totalOperators),
    ("total_operands", .int c.totalOperands),
    ("vocabulary", .int c.vocabulary),
    ("length", .int c.length),
    ("volume", .float (roundTo 2 volume)),
    ("difficulty", .float (roundTo 2 difficulty)),
    ("effort", .float (roundTo 2 effort)),
    ("time_minutes", .float (roundTo 2 minutes)),
    ("bugs_estimate", .float (roundTo 3 bugs))]

/-- The measures that are no counts, in full. -/
def figures (c : Counts) : Except NumberFault (Table Float) := do
  return [("calculated_length", ← c.calculatedLength), ("volume", ← c.volume),
    ("difficulty", ← c.difficulty), ("effort", ← c.effort), ("time_seconds", ← c.timeSeconds),
    ("time_minutes", ← c.timeMinutes), ("bugs_estimate", ← c.bugs)]

end Counts

/-- The numbers of operators and operands. -/
def Vocabulary.counts (v : Vocabulary) : Counts :=
  ⟨v.operators.length, v.operands.length, v.operators.total, v.operands.total⟩

end EsqlAudit.Complexity
