import EsqlAudit.Files.Tree
import EsqlAudit.Json.Printer
import EsqlAudit.Round.Plateau
import EsqlAudit.Round.SelfCheck
import EsqlAudit.Text.Search

/-!
A measuring round: coverage, shares of time and verdicts are gathered, shown, and added to the record of
rounds.
-/
namespace EsqlAudit.Round
open Decimal Text

/-- What a round works with. A program that is none does not exist. -/
structure Sources where
  coverage : Runner
  coverageReport : Option Json
  repoTime : Option Runner
  selfCheck : Option Runner
  status : Runner
  /-- The text of the record of rounds, if there is one. -/
  record : Option (List Char)
  /-- The text of the benches. -/
  benches : Option (List Char)
  elapsed : Float
  now : Json

/-- What a round leaves: the code it exits with, what it prints, what it adds to the record, and the fault
that ended it. -/
structure Outcome where
  exitCode : Option Int
  output : List String
  errors : String
  appended : List String
  fault : Option Fault

/-- The lines that an outcome prints, as one text. -/
def Outcome.outputText (o : Outcome) : String :=
  String.join (o.output.map (· ++ "\n"))

/-! Gathering. -/

/-- The start of the definition of a bench. -/
def benchPattern : Pattern :=
  .all [.lineStart, .exactly "def bench_", .word1, .blanks, .exactly "("]

/-- The number of benches in a text. -/
def benchCount (source : List Char) : Nat :=
  (benchPattern.findAll (Files.universalNewlines source)).length

/-- What a program left, read from its output, and what its errors add to those of the round. -/
def gather {α : Type} (name : String) (nothing : α) (read : String → α × Option Fault)
    (runner : Option Runner) : α × String :=
  let told (f : Fault) := s!"[{name} runner: {f.kind}: {f.message}]\n"
  match runner with
  | none => (nothing, "")
  | some (.notStarted reason) => (nothing, told (.notStarted reason))
  | some (.ended _ output errors) =>
    let (found, fault) := read output
    (found, errors ++ (fault.map told).getD "")

/-! The record of rounds. -/

/-- What the record tells of earlier rounds: their number, the moment of the last one, their counts of benches
below the mark, and whether it can be added to. -/
structure History where
  rounds : Nat
  lastMoment : Json
  counts : List Int
  isReadable : Bool

/-- A value that is a whole number; a truth value is 0 or 1. -/
def whole? : Json → Option Int
  | .int i => some i
  | .bool b => some (if b then 1 else 0)
  | _ => none

/-- The round that a line of the record tells of. -/
def roundOf? (line : List Char) : Option Record :=
  match Json.parse line with
  | .ok (.obj round) => some round
  | _ => none

/-- Takes the count of one more line, if it has one. Nothing is read after a line that tells of no round. -/
def History.add (h : History) (line : List Char) : History :=
  if !h.isReadable then h
  else
    match roundOf? line with
    | some round => { h with counts := h.counts ++ ((round.lookup "n_below_repo_time").bind whole?).toList }
    | none => { h with isReadable := false }

/-- Reads the record; blank lines do not count. The last line is read first, so that nothing is taken from a
record that ends in a line that tells of no round. -/
def History.read (record : Option (List Char)) : History :=
  let rounds := (lines (Files.universalNewlines (record.getD []))).filter fun l => !(strip l).isEmpty
  match rounds.getLast? with
  | none => ⟨0, .null, [], true⟩
  | some last =>
    match roundOf? last with
    | none => ⟨rounds.length, .null, [], false⟩
    | some round =>
      rounds.foldl History.add ⟨rounds.length, (round.lookup "ts").getD .null, [], true⟩

/-- A moment as a number of seconds. -/
def moment? : Json → Option Float
  | .float x => some x
  | j => (whole? j).bind ofInt

/-- The time between two moments, rounded to hundredths. What is no moment gives nothing. -/
def timeBetween (earlier now : Json) : Option Json :=
  match whole? earlier, whole? now with
  | some a, some b => some (.int (b - a))
  | _, _ =>
    match moment? earlier, moment? now with
    | some a, some b => some (.float (roundTo 2 (b - a)))
    | _, _ => none

/-- The time since the last round, zero if its moment is not known. -/
def timeSince (h : History) (now : Json) : Option Json :=
  if isNothing h.lastMoment then some (.float 0.0) else timeBetween h.lastMoment now

/-- What was gathered in a round. -/
structure Findings where
  totals : Totals
  errors : Json
  benches : Nat
  repoTime : RepoTime
  checks : List Check
  changed : List String

/-- The number of benches that need work. -/
def Findings.needWork (f : Findings) : Nat := f.checks.countP fun c => !c.verdict.isFine

/-- The line of a round in the record. -/
def recordLine (f : Findings) (round : Nat) (now elapsed since : Json) (errorCount : Nat) : String :=
  Json.print ⟨none, true⟩ (.obj
    [("round", .ofNat round), ("ts", now), ("wall_since_prev_s", since),
     ("coverage_pct", .float f.totals.percent), ("covered_lines", .int f.totals.covered),
     ("num_statements", .int f.totals.statements), ("n_bench_fns", .ofNat f.benches),
     ("n_bench_errors", .ofNat errorCount), ("cov_measure_s", elapsed),
     ("repo_time_pct", .obj (f.repoTime.shares.map fun (k, x) => (k, .float x))),
     ("n_below_repo_time", (f.repoTime.lowCount.map Json.ofNat).getD .null),
     ("semcheck", .obj (f.checks.map fun c => (c.name, .str c.verdict.name))),
     ("n_not_self_checking", .ofNat f.needWork)]) ++ "\n"

/-- What a round adds to the record: nothing if the record cannot be read, and nothing but an empty text if
the last moment is no number or the benches that failed cannot be counted. -/
def appendedBy (f : Findings) (h : History) (now : Json) (elapsed : Float) : List String :=
  if !h.isReadable then []
  else
    match timeSince h now, lengthOf f.errors with
    | some since, .ok count =>
      [recordLine f (h.rounds + 1) now (.float (roundTo 3 elapsed)) since count]
    | _, _ => [""]

/-! Showing a round. -/

/-- The line that closes the report. -/
def closingLine (f : Findings) (round : Nat) (elapsed : Float) : String :=
  let shares :=
    if f.repoTime.shares.isEmpty then ""
    else s!", {f.repoTime.lowCount.getD 0}/{f.repoTime.ranCount} below repo_time 45%"
  let checks :=
    if f.checks.isEmpty then "" else s!", {f.needWork}/{f.checks.length} not self-checking"
  s!"[round {round}: {f.benches} benches, " ++ fixed 1 f.totals.percent ++ "% covered" ++
    shares ++ checks ++ ", measured in " ++ fixed 1 elapsed ++ "s]"

/-- The lines that tell to stop, if there is reason to. -/
def stopLines (f : Findings) (h : History) : List String :=
  match f.repoTime.lowCount with
  | some count =>
    if sufficientCoverage ≤ f.totals.percent then
      ((stop? h.counts count).map fun s => ["", s.line]).getD []
    else []
  | none => []

/-- The report. -/
def Findings.report (f : Findings) (files : List FileCoverage) (h : History) (elapsed : Float) : Page :=
  coverageTable files f.totals ++ errorLines f.errors ++ f.repoTime.lines ++
    .ofLines (checkLines f.checks f.changed ++ ["", closingLine f (h.rounds + 1) elapsed] ++ stopLines f h)

/-! A whole round. -/

/-- A round whose coverage could not be measured. -/
def coverageFailed (code : Int) (output errors : String) : Outcome :=
  { exitCode := some (if code == 0 then 1 else code)
    output := [s!"coverage measurement failed (exit {code})", output]
    errors, appended := [], fault := none }

/-- A round that a fault ends before anything is shown. -/
def endedBy (errors : String) (f : Fault) : Outcome := ⟨none, [], errors, [], some f⟩

/-- Gathers what a round is about, and what the programs tell of their errors. -/
def gatherAll (s : Sources) (report : Record) : Except Fault (Findings × String) := do
  let totals ← totalsOf report
  let errors ← benchErrors report
  let (repoTime, timeErrors) := gather "repotime" .unknown RepoTime.read s.repoTime
  let (checks, checkErrors) := gather "semcheck" [] readChecks s.selfCheck
  let changed := changedFiles s.status
  return ({ totals, errors, benches := (s.benches.map benchCount).getD 0, repoTime,
            checks := spoiledBy changed checks, changed }, timeErrors ++ checkErrors)

/-- Goes on with a coverage report. The round is in the record before the files are read. -/
def withCoverage (s : Sources) (errors : String) (report : Json) : Outcome :=
  match object "get" report with
  | .error f => endedBy errors f
  | .ok report =>
    match gatherAll s report with
    | .error f => endedBy errors f
    | .ok (findings, told) =>
      let history := History.read s.record
      let page := Page.andThen (filesOf report) fun files => findings.report files history s.elapsed
      { exitCode := none, output := page.lines, errors := errors ++ told,
        appended := appendedBy findings history s.now s.elapsed, fault := page.fault }

/-- Makes a round. -/
def run (s : Sources) : Outcome :=
  match s.coverage, s.coverageReport with
  | .notStarted reason, _ => endedBy "" (.notStarted reason)
  | .ended code output errors, none => coverageFailed code output errors
  | .ended code output errors, some report =>
    if code != 0 then coverageFailed code output errors else withCoverage s errors report

end EsqlAudit.Round
