import EsqlAudit.Round.Coverage
import EsqlAudit.Round.Runner

/-!
The share of its time that each bench spends in the code under measurement. A negative share stands for a
bench that failed.
-/
namespace EsqlAudit.Round
open Decimal

/-- The shares of benches, and where else they spend their time, as it is given. -/
structure RepoTime where
  shares : List (String × Float)
  elsewhere : Record

def RepoTime.unknown : RepoTime := ⟨[], []⟩

/-- The share below which a bench is marked. -/
def lowShare : Float := 45.0

/-- Whether a bench ran. -/
def ran (share : Float) : Bool := 0.0 ≤ share

/-- Whether a bench failed. -/
def failed (share : Float) : Bool := share < 0.0

/-- Whether a bench ran and spent too little of its time in the code. -/
def isLow (share : Float) : Bool := ran share && share < lowShare

/-- Reads shares, all of which have to be numbers. -/
def readShares (document : Record) : Except Fault (List (String × Float)) := do
  (← membersOf "items" document "repo_time_pct").mapM fun (name, j) => return (name, ← toNumber j)

/-- Reads what the program for shares printed. Shares that were read stay known if what follows them is at
fault. -/
def RepoTime.read (output : String) : RepoTime × Option Fault :=
  match documentOf output with
  | .error f => (.unknown, some f)
  | .ok none => (.unknown, none)
  | .ok (some document) =>
    match readShares document, membersOf "items" document "hot_ext" with
    | .error f, _ => (.unknown, some f)
    | .ok shares, .error f => (⟨shares, []⟩, some f)
    | .ok shares, .ok elsewhere => (⟨shares, elsewhere⟩, none)

/-- The number of benches below the mark, if any bench ran. -/
def RepoTime.lowCount (t : RepoTime) : Option Nat :=
  if t.shares.any fun s => ran s.2 then some (t.shares.countP fun s => isLow s.2) else none

/-- The number of benches that ran. -/
def RepoTime.ranCount (t : RepoTime) : Nat := t.shares.countP fun s => ran s.2

/-- A place where time is spent, with its share: a pair of the two. -/
def placeText (j : Json) : Except Fault String := do
  let (share, place) ← pairOf j
  let share ← shownNumber share
  return place.display ++ " " ++ wholePercent share

/-- Where else a bench spends its time. -/
def RepoTime.placesText (t : RepoTime) (name : String) : Except Fault String := do
  match present? t.elsewhere name with
  | none => return ""
  | some places =>
    let texts ← (← itemsOf places).mapM placeText
    return " (hot: " ++ " ".intercalate texts ++ ")"

/-- The line of a bench. -/
def RepoTime.line (t : RepoTime) (name : String) (share : Float) : Except Fault String :=
  let head (mark : String) (x : Float) :=
    "  " ++ mark ++ " " ++ padRight 32 name ++ " " ++ padLeft 5 (fixed 1 x) ++ "%"
  if failed share then .ok (head " " 0.0 ++ "  <error>")
  else if isLow share then (t.placesText name).map (head "*" share ++ ·)
  else .ok (head " " share)

/-- The lines about shares, the least share first. -/
def RepoTime.lines (t : RepoTime) : Page :=
  if t.shares.isEmpty then .ofLines []
  else .ofLines ["", "repo_time (target 50%; * = below 45%):"] ++
    .concat ((sortedBy (fun a b => a.2 < b.2) t.shares).map fun (name, share) =>
      .ofLine (t.line name share))

end EsqlAudit.Round
