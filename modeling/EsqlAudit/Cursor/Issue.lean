import EsqlAudit.Cursor.Basic
import EsqlAudit.Cursor.Loop
import EsqlAudit.Json.Value
import EsqlAudit.Memory.Dangerous

/-!
Issues with cursors: cursors that are not closed, or opened more often than closed, cursors opened in the
loop that fetches from another one, and fetches whose outcome is not looked at, or looked at late.
-/
namespace EsqlAudit.Cursor
open Text

/-- What is wrong with a cursor. -/
inductive Problem where
  /-- Opened on a line and never closed. -/
  | unclosed (line : Nat)
  /-- Opened more often than closed. -/
  | reopened (opens closes : Nat)
  /-- Opened in the loop that fetches from another cursor. -/
  | nested (outer : String)
  /-- Fetched from with no look at the outcome. -/
  | unchecked
  /-- Fetched from, with another statement before the look at the outcome. -/
  | checkedLate
deriving DecidableEq

namespace Problem

/-- The kind of a problem in reports. -/
def kind : Problem → String
  | unclosed _ => "unclosed_cursor"
  | reopened _ _ => "reopen_no_close"
  | nested _ => "nested_cursor"
  | unchecked | checkedLate => "fetch_no_check"

def severity : Problem → Severity
  | unclosed _ | reopened _ _ => .warning
  | nested _ => .error
  | unchecked | checkedLate => .info

/-- The text about a problem of the named cursor. -/
def message (cursor : String) : Problem → String
  | unclosed line => s!"Curseur '{cursor}' ouvert ligne {line} mais jamais fermé"
  | reopened opens closes => s!"Curseur '{cursor}': {opens} OPEN pour {closes} CLOSE"
  | nested outer =>
    s!"Curseur '{cursor}' ouvert dans la boucle FETCH de '{outer}' - risque de performance"
  | unchecked => s!"FETCH sur '{cursor}' sans vérification de SQLCODE/sqlca.sqlcode"
  | checkedLate => s!"FETCH sur '{cursor}': vérification SQLCODE peut-être trop tardive"

end Problem

structure Issue where
  cursor : String
  line : Nat
  problem : Problem

/-- A cursor that is opened and never closed. -/
def unclosedIssue (c : Cursor) : List Issue :=
  match c.openLines, c.closeLines with
  | line :: _, [] => [⟨c.name, line, .unclosed line⟩]
  | _, _ => []

/-- A cursor that is opened more often than closed. -/
def reopenedIssue (c : Cursor) : List Issue :=
  match c.openLines.getLast? with
  | some line =>
    if c.closeLines.length < c.openLines.length then
      [⟨c.name, line, .reopened c.openLines.length c.closeLines.length⟩]
    else []
  | none => []

/-- The cursors opened in the loop around a fetch from another one. -/
def nestedIssues (source : List Char) (fetch : Use) : List Issue :=
  match enclosingLoop? source fetch.span.start with
  | none => []
  | some loop =>
    ((uses openPattern (slice source loop.start loop.stop)).filter (·.cursor != fetch.cursor)).map
      fun u => ⟨u.cursor, lineAt source (loop.start + u.span.start), .nested fetch.cursor⟩

/-- A comparison of the outcome of a statement. -/
def checkPattern : Pattern :=
  .all [.any [.word "sqlca.sqlcode", .word "SQLCODE"], .blanks,
    .any (["==", "!=", "<", ">", "<=", ">="].map .exactly)]

/-- The start of an embedded statement. -/
def statementPattern : Pattern :=
  .all [.word "EXEC", .blanks1, .word "SQL"]

/-- How far after a fetch its outcome is expected to be looked at. -/
def checkReach : Nat := 300

/-- A fetch whose outcome is not looked at in time. -/
def uncheckedIssue (source : List Char) (fetch : Use) : List Issue :=
  let following := slice source fetch.span.stop (fetch.span.stop + checkReach)
  let line := lineAt source fetch.span.start
  match checkPattern.find? following, statementPattern.find? following with
  | none, _ => [⟨fetch.cursor, line, .unchecked⟩]
  | some check, some next =>
    if next.span.start < check.span.start then [⟨fetch.cursor, line, .checkedLate⟩] else []
  | some _, none => []

/-- The cursors of a text and the issues with them. -/
structure Result where
  cursors : List Cursor
  issues : List Issue
  /-- The number of cursors opened in the loop of another one. -/
  nestedCount : Nat

/-- Adds a cursor that is opened in the loop of another one, and counts it. -/
def Result.addNested (r : Result) (i : Issue) : Result :=
  { r with issues := r.issues ++ [i], nestedCount := r.nestedCount + 1 }

/-- Examines the cursors of a text. -/
def examine (source : List Char) : Result :=
  let cs := cursors source
  let fetches := uses fetchPattern source
  let r := ⟨cs, cs.flatMap fun c => unclosedIssue c ++ reopenedIssue c, 0⟩
  let r := (fetches.flatMap (nestedIssues source)).foldl Result.addNested r
  { r with issues := r.issues ++ fetches.flatMap (uncheckedIssue source) }

/-- The cursor as it stands in a report. -/
def toRecord (c : Cursor) : Record :=
  [("name", .str c.name), ("declare_line", .ofNat c.declared.line),
   ("is_dynamic", .bool c.declared.isDynamic), ("open_count", .ofNat c.openLines.length),
   ("fetch_count", .ofNat c.fetchLines.length), ("close_count", .ofNat c.closeLines.length),
   ("open_lines", .arr (c.openLines.map .ofNat)), ("close_lines", .arr (c.closeLines.map .ofNat))]

namespace Issue

def severity (i : Issue) : Severity := i.problem.severity

/-- The issue as it stands in a report. -/
def toRecord (i : Issue) : Record :=
  [("cursor_name", .str i.cursor), ("issue_type", .str i.problem.kind),
   ("line_number", .ofNat i.line), ("message", .str (i.problem.message i.cursor)),
   ("severity", .str i.severity.name)]

end Issue

namespace Result

/-- The number of issues of a severity. -/
def countOf (r : Result) (s : Severity) : Nat :=
  r.issues.countP (·.severity == s)

/-- The examination as it stands in a report. -/
def toRecord (r : Result) : Record :=
  [("total_cursors", .ofNat r.cursors.length), ("total_issues", .ofNat r.issues.length),
   ("nested_cursor_count", .ofNat r.nestedCount),
   ("issues_by_severity",
     .obj ([Severity.error, .warning, .info].map fun s => (s.name, .ofNat (r.countOf s)))),
   ("cursors", .arr (r.cursors.map fun c => .obj c.toRecord)),
   ("issues", .arr (r.issues.map fun i => .obj i.toRecord))]

end Result

end EsqlAudit.Cursor
