import EsqlAudit.Report.Basic
import EsqlAudit.Text.LetterCase
import EsqlAudit.Text.Quoted

/-!
Grades of measures, and the grouping of notes and issues by how urgent they are.
-/
namespace EsqlAudit
open Text

/-- Whether a measure is low, medium or high. -/
inductive Grade where
  | low | medium | high
deriving DecidableEq, Repr

/-- The grade of a measure: low up to one bound, medium up to another. -/
def gradeOf (value low medium : Int) : Grade :=
  if value ≤ low then .low else if value ≤ medium then .medium else .high

/-- The grade of a cyclomatic complexity. -/
def cyclomaticGrade (value : Int) : Grade := gradeOf value 5 10

/-- The grade of a cognitive complexity. -/
def cognitiveGrade (value : Int) : Grade := gradeOf value 8 15

namespace Grade

/-- The color of a grade on a console. -/
def color : Grade → String
  | low => "green"
  | medium => "yellow"
  | high => "red"

/-- The style class of a grade in a page. -/
def styleClass : Grade → String
  | low => "complexity-low"
  | medium => "complexity-medium"
  | high => "complexity-high"

/-- The mark of a grade in a text. -/
def badge : Grade → String
  | low => "🟢"
  | medium => "🟡"
  | high => "🔴"

end Grade

/-- The color of an issue on a console, by its severity. -/
def issueColor (severity : String) : String :=
  ([("critical", "red bold"), ("error", "red"), ("warning", "yellow"), ("info", "dim")].lookup
    severity).getD "white"

/-- A group that is not foreseen. -/
structure UnknownGroup where
  name : String
deriving DecidableEq

def UnknownGroup.message (u : UnknownGroup) : String := quoted u.name

/-- The priorities of notes, the most urgent first. -/
def priorities : List String := ["high", "medium", "low"]

/-- The severities of issues, the most serious first. -/
def severities : List String := ["critical", "error", "warning", "info"]

/-- The severities that texts list. -/
def listedSeverities : List String := ["critical", "error", "warning"]

def priorityOf (todo : Record) : String := todo.text "priority" "low"

def severityOf (issue : Record) : String := issue.text "severity" "info"

/-- The items of each foreseen group; the first item of another group is a fault. -/
def grouped {α : Type} (names : List String) (groupOf : α → String) (items : List α) :
    Except UnknownGroup (Table (List α)) :=
  match items.find? fun a => !names.contains (groupOf a) with
  | some a => .error ⟨groupOf a⟩
  | none => .ok (names.map fun n => (n, items.filter fun a => groupOf a == n))

/-- A text in capital letters. -/
def capitals (s : String) : String :=
  String.ofList (upper s.toList)

/-- A text cut off after some characters. -/
def cut (n : Nat) (s : String) : String :=
  String.ofList (s.toList.take n)

end EsqlAudit
