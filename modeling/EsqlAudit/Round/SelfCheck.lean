import EsqlAudit.Round.RepoTime

/-!
Verdicts on benches: whether a bench returns something that shows its work.
-/
namespace EsqlAudit.Round
open Decimal Text

inductive Verdict where
  | ok | okUnparam | error | returnsNone | unstable | returnsInput | lowRepoTime | tooFast
  | paramInvariant | repoModified
deriving DecidableEq, Repr

namespace Verdict

def name : Verdict → String
  | ok => "ok"
  | okUnparam => "ok-unparam"
  | error => "error"
  | returnsNone => "returns-none"
  | unstable => "unstable"
  | returnsInput => "returns-input"
  | lowRepoTime => "low-repo-time"
  | tooFast => "too-fast"
  | paramInvariant => "param-invariant"
  | repoModified => "repo-modified"

/-- Whether nothing has to be done about a bench. -/
def isFine : Verdict → Bool
  | ok | okUnparam => true
  | _ => false

end Verdict

/-- What was seen of a bench: the type of its result, the results of equal runs, those of runs with
different parameters and the parameters, as they are given, and times and shares of runs. -/
structure Observation where
  resultType : String
  repeated : Json
  byParameter : List Json
  parameters : Json
  times : List Float
  shares : List Float

/-- The value in the middle, or between the two in the middle. -/
def median (xs : List Float) : Float :=
  let sorted := sortedBy (fun a b => a < b) xs
  let n := sorted.length
  if n == 0 then 0.0
  else if n % 2 == 1 then sorted.getD (n / 2) 0.0
  else (sorted.getD (n / 2 - 1) 0.0 + sorted.getD (n / 2) 0.0) / 2.0

/-- The least value, zero if there are none. -/
def least : List Float → Float
  | [] => 0.0
  | x :: xs => xs.foldl (fun a b => if b < a then b else a) x

/-- Whether there are marks and all are the same one. -/
def allSame : List Mark → Bool
  | [] => false
  | m :: rest => rest.all (· == m)

/-- The verdict on a bench that ran. -/
def Observation.verdict (o : Observation) : Except Fault Verdict := do
  if o.resultType == "?" || o.resultType.toList.head? == some '<' then return .error
  if o.resultType == "NoneType" then return .returnsNone
  let repeated ← (← itemsOf o.repeated).mapM markOf
  if !allSame repeated then return .unstable
  if ← isWithin (repeated.headD .nothing) o.parameters then return .returnsInput
  if !o.shares.isEmpty && least o.shares < 0.5 then return .lowRepoTime
  if !o.times.isEmpty && median o.times < 1.0 then return .tooFast
  if o.byParameter.length < 2 then return .okUnparam
  if allSame (← o.byParameter.mapM markOf) then return .paramInvariant
  return .ok

/-- Reads the numbers of an object. -/
def numbersOf (info : Record) (key : String) : Except Fault (List Float) := do
  (← membersOf "values" info key).mapM fun (_, j) => toNumber j

/-- Reads what was seen of a bench. -/
def Observation.read (info : Record) : Except Fault Observation := do
  let byParameter ← membersOf "values" info "fp_by_param"
  let times ← numbersOf info "repo_tt_ms"
  let shares ← numbersOf info "repo_frac"
  -- Shares of time spent elsewhere are not used, but they have to be numbers too.
  let _ ← numbersOf info "ext_frac"
  return { resultType := ((present? info "ret_type").getD (.str "?")).display
           repeated := (present? info "fp_stable").getD (.arr [])
           byParameter := byParameter.map (·.2)
           parameters := (present? info "param_fps").getD (.arr [])
           times, shares }

/-- A bench with what was seen of it and the verdict on it. -/
structure Check where
  name : String
  seen : Observation
  verdict : Verdict

/-- Reads what was seen of a bench, and judges it. -/
def Check.read (name : String) (info : Record) : Except Fault Check := do
  let seen ← Observation.read info
  let verdict ← seen.verdict
  return { name, seen, verdict }

/-- Reads checks of benches up to the first fault; what is no object is left out. -/
def readEntries : Record → List Check × Option Fault
  | [] => ([], none)
  | (name, .obj info) :: rest =>
    match Check.read name info with
    | .error f => ([], some f)
    | .ok c =>
      let (found, fault) := readEntries rest
      (c :: found, fault)
  | _ :: rest => readEntries rest

/-- Reads what the checking program printed. -/
def readChecks (output : String) : List Check × Option Fault :=
  match documentOf output with
  | .error f => ([], some f)
  | .ok none => ([], none)
  | .ok (some document) =>
    match membersOf "items" document "semcheck" with
    | .error f => ([], some f)
    | .ok entries => readEntries entries

/-- The paths of changed files in the output of a status command. -/
def changedFiles : Runner → List String
  | .notStarted _ => []
  | .ended _ output _ =>
    ((printedLines output.toList).filter fun l => !(strip l).isEmpty).map fun l =>
      String.ofList (l.drop 3)

/-- The checks of benches; changed files spoil all verdicts. -/
def spoiledBy (changed : List String) (checks : List Check) : List Check :=
  if changed.isEmpty then checks else checks.map fun c => { c with verdict := .repoModified }

def Check.line (c : Check) : String :=
  let share := roundTo 2 (least c.seen.shares)
  let time := roundTo 2 (median c.seen.times)
  "  " ++ (if c.verdict.isFine then " " else "*") ++ " " ++ padRight 32 c.name ++ " " ++
    padRight 16 c.verdict.name ++ s!" ({c.seen.resultType}, repo " ++ wholePercent (share * 100.0) ++
    ") " ++ fixed 1 time ++ "ms"

/-- The greatest number of changed files that are listed. -/
def changedLimit : Nat := 10

/-- The lines about changed files. -/
def changedLines (changed : List String) : List String :=
  if changed.isEmpty then []
  else
    ["", s!"** repo modified ({changed.length} file(s)) — revert these; only microbench.py is yours to edit:"]
      ++ (changed.take changedLimit).map fun path => "   " ++ path

/-- What to do about each verdict. -/
def advice : List String :=
  ["  returns-none: run() has no return — collect and return the call results",
   "  unstable: seed RNG in setup; avoid time/uuid/id in the return",
   "  returns-input: return repo output, not the parameter value",
   "  low-repo-time: <50% of run() time is in repo code — move glue to setup",
   "  param-invariant: return something derived from run()'s work, not setup",
   "  repo-modified: revert edits to repo files (git checkout -- <path>)"]

/-- The lines about verdicts, the benches that need work first. -/
def checkLines (checks : List Check) (changed : List String) : List String :=
  if checks.isEmpty then []
  else
    changedLines changed ++ ["", "self-check (* = fix needed):"] ++ advice ++
      (checks.filter fun c => !c.verdict.isFine).map Check.line ++
      (checks.filter fun c => c.verdict.isFine).map Check.line

end EsqlAudit.Round
