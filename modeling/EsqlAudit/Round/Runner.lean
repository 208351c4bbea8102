import EsqlAudit.Round.Value
import EsqlAudit.Text.Line

/-!
Programs that a measuring round starts, and the documents that they leave. A document stands on the last line
of what a program prints.
-/
namespace EsqlAudit.Round
open Text

/-- A program that could not be started, or that ended with a code. -/
inductive Runner where
  | notStarted (reason : String)
  | ended (code : Int) (output : String) (errors : String)

/-- The last line of a printed text, empty if there is none. -/
def lastLine (s : List Char) : List Char :=
  (printedLines s).getLast?.getD []

/-- The document that a program printed, if its last line is not empty. -/
def documentOf (output : String) : Except Fault (Option Record) :=
  let line := lastLine output.toList
  if line.isEmpty then .ok none
  else
    match Json.parse line with
    | .error f => .error (.notJson f line)
    | .ok j => (object "get" j).map some

end EsqlAudit.Round
