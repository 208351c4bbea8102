import EsqlAudit.Round.Page
import EsqlAudit.Round.Value

/-!
The table of a coverage report: the files that are covered least come first, larger files before smaller
ones.
-/
namespace EsqlAudit.Round
open Decimal Text

/-! Items in order. Each item moves forward past the items that it comes before, so that items of which neither
comes before the other keep their places. -/

/-- Puts an item among items that are in order from the last to the first. -/
def insertDown {α : Type} (before : α → α → Bool) (x : α) : List α → List α
  | [] => [x]
  | y :: rest => if before x y then y :: insertDown before x rest else x :: y :: rest

/-- The items in order. -/
def sortedBy {α : Type} (before : α → α → Bool) (xs : List α) : List α :=
  (xs.foldl (fun sorted x => insertDown before x sorted) []).reverse

/-! Files and totals. -/

/-- The directory that paths are shown relative to. -/
def home : List (List Char) := ["repo".toList]

/-- The names of a path without dots. -/
def resolve (names : List (List Char)) : List (List Char) :=
  names.foldl (fun way name =>
    if name.isEmpty || name == ['.'] then way
    else if name == ['.', '.'] then way.dropLast
    else way ++ [name]) []

/-- The rest of a way, and steps up for what is left of the way it is relative to. -/
def relativeTo : List (List Char) → List (List Char) → List (List Char)
  | h :: hs, n :: ns =>
    if h == n then relativeTo hs ns else (h :: hs).map (fun _ => ['.', '.']) ++ n :: ns
  | hs, ns => hs.map (fun _ => ['.', '.']) ++ ns

/-- An absolute path relative to the home directory; every other path as it is. -/
def shownPath (path : String) : String :=
  if path.toList.head? != some '/' then path
  else
    let rest := relativeTo home (resolve (splitOn '/' path.toList))
    if rest.isEmpty then "." else String.ofList (joinWith ['/'] rest)

/-- What a coverage report says of a file; the lines that are not covered are kept as they are given. -/
structure FileCoverage where
  name : String
  statements : Int
  missing : Int
  percent : Float
  missingLines : Json

/-- The totals of a coverage report. -/
structure Totals where
  percent : Float
  covered : Int
  statements : Int

/-- The greatest number of files in the table, of characters of a name, of line numbers of a file, and of
benches that failed. -/
def fileLimit : Nat := 120
def nameLimit : Nat := 60
def lineLimit : Nat := 12
def errorLimit : Nat := 8

/-- Reads what a coverage report says of a file. -/
def fileCoverage (path : String) (j : Json) : Except Fault FileCoverage := do
  let info ← object "get" j
  let summary ← membersOf "get" info "summary"
  let statements ← wholeOf summary "num_statements"
  let missing ← wholeOf summary "missing_lines"
  let percent ← numberOf summary "percent_covered"
  return { name := String.ofList ((shownPath path).toList.take nameLimit)
           statements, missing, percent
           missingLines := (present? info "missing_lines").getD (.arr []) }

/-- Whether a file comes before another one in the table. -/
def FileCoverage.before (f g : FileCoverage) : Bool :=
  if f.percent == g.percent then decide (g.statements < f.statements) else f.percent < g.percent

/-- A text filled with blanks on the right up to a width. -/
def padRight (width : Nat) (s : String) : String :=
  s ++ String.ofList (List.replicate (width - s.length) ' ')

/-- A text filled with blanks on the left up to a width. -/
def padLeft (width : Nat) (s : String) : String :=
  String.ofList (List.replicate (width - s.length) ' ') ++ s

/-- A share in whole percents. -/
def wholePercent (x : Float) : String := fixed 0 x ++ "%"

/-- The numbers of a line of the table. -/
def numbers (statements missing : Int) (percent : Float) : String :=
  "  " ++ padLeft 5 (toString statements) ++ "  " ++ padLeft 4 (toString missing) ++ "  " ++
    padLeft 5 (wholePercent percent)

/-- The first lines of a file that are not covered. -/
def FileCoverage.missingText (f : FileCoverage) : Except Fault String :=
  (sequenceOf f.missingLines).map fun lines =>
    ",".intercalate ((lines.take lineLimit).map Json.display) ++
      (if lineLimit < lines.length then "…" else "")

/-- The line of a file. -/
def FileCoverage.line (width : Nat) (f : FileCoverage) : Except Fault String :=
  f.missingText.map fun missing =>
    padRight width f.name ++ numbers f.statements f.missing f.percent ++ "  " ++ missing

/-- The width of the column of names: that of the longest name, or that of its heading without files. -/
def nameWidth (files : List FileCoverage) : Nat :=
  if files.isEmpty then "Name".length
  else files.foldl (fun w f => Nat.max w f.name.length) 0

/-- The table. -/
def coverageTable (files : List FileCoverage) (t : Totals) : Page :=
  let shown := (sortedBy FileCoverage.before files).take fileLimit
  let width := nameWidth files
  let rule := String.ofList (List.replicate (width + 42) '-')
  .ofLines [padRight width "Name" ++ "  Stmts  Miss  Cover  Missing", rule] ++
    .concat (shown.map fun f => .ofLine (f.line width)) ++
    .ofLines [rule, padRight width "TOTAL" ++ numbers t.statements (t.statements - t.covered) t.percent]

/-- Reads the totals of a coverage report. -/
def totalsOf (report : Record) : Except Fault Totals := do
  let totals ← membersOf "get" report "totals"
  let percent ← numberOf totals "percent_covered"
  let covered ← wholeOf totals "covered_lines"
  let statements ← wholeOf totals "num_statements"
  return { percent, covered, statements }

/-- Reads the files of a coverage report. -/
def filesOf (report : Record) : Except Fault (List FileCoverage) := do
  let files ← membersOf "items" report "files"
  files.mapM fun (path, j) => fileCoverage path j

/-- The benches that failed with their errors, as they are given; an empty object if there are none. -/
def benchErrors (report : Record) : Except Fault Json := do
  let info ← membersOf "get" report "meta"
  return (present? info "_pti_bench_errors").getD (.obj [])

/-- The lines about benches that failed. -/
def errorLines (errors : Json) : Page :=
  if isNothing errors then .ofLines []
  else
    .andThen (lengthOf errors) fun count =>
      .ofLines ["", s!"{count} bench error(s):"] ++
        .andThen (object "items" errors) fun members =>
          .ofLines ((members.take errorLimit).map fun (name, error) => s!"  {name}: " ++ error.display)

end EsqlAudit.Round
