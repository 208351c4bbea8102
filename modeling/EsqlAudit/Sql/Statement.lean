import EsqlAudit.Text.Search

/-!
Kinds of embedded SQL statements, told apart by the keyword they start with.
-/
namespace EsqlAudit.Sql
open Text

inductive Kind where
  | select | insert | update | delete | declare | cursor | openCursor | closeCursor | fetch | commit | rollback
  | connect | includeFile | whenever | execute | prepare | call | declareSection | other
deriving DecidableEq, Repr

namespace Kind

/-- The kind as it is written in reports. -/
def name : Kind → String
  | select => "SELECT"
  | insert => "INSERT"
  | update => "UPDATE"
  | delete => "DELETE"
  | declare => "DECLARE"
  | cursor => "CURSOR"
  | openCursor => "OPEN"
  | closeCursor => "CLOSE"
  | fetch => "FETCH"
  | commit => "COMMIT"
  | rollback => "ROLLBACK"
  | connect => "CONNECT"
  | includeFile => "INCLUDE"
  | whenever => "WHENEVER"
  | execute => "EXECUTE"
  | prepare => "PREPARE"
  | call => "CALL"
  | declareSection => "DECLARE_SECTION"
  | other => "OTHER"

/-- The kinds that a statement is tried against, in this order. -/
def candidates : List Kind :=
  [select, insert, update, delete, declare, cursor, openCursor, closeCursor, fetch, commit, rollback, connect,
   includeFile, whenever, execute, prepare, call]

/-- How a statement of the kind starts, after white space. -/
def opening : Kind → Pattern
  | declare =>
    .all [.optional (.all [.word "BEGIN", .blanks1]), .word "DECLARE", .wordEdge]
  | cursor =>
    .all [.word "DECLARE", .blanks1, .word1, .blanks1, .word "CURSOR", .wordEdge]
  | k => .all [.word k.name, .wordEdge]

end Kind

/-- The kind of a statement, given what follows `EXEC SQL`. -/
def classify (content : List Char) : Kind :=
  (Kind.candidates.find? fun k => ((Pattern.all [.blanks, k.opening]).atStart? content).isSome).getD
    .other

end EsqlAudit.Sql
