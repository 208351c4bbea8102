import EsqlAudit.Decimal.Shortest
import EsqlAudit.Json.Value
import EsqlAudit.Text.Quoted

/-!
Values as they are shown in a text. A text is shown as it is; inside an array or an object it stands between
quotes.
-/
namespace EsqlAudit.Json
open Decimal Text

/-- A double as text. -/
def floatDisplay (x : Float) : String :=
  match decode x with
  | .finite b => Layout.report.finite b
  | .infinite negative => if negative then "-inf" else "inf"
  | .notANumber => "nan"

mutual
/-- A value as it is shown inside another one. -/
def displayInside : Json → String
  | null => "None"
  | bool b => if b then "True" else "False"
  | int i => toString i
  | float x => floatDisplay x
  | str s => quoted s
  | arr items => "[" ++ ", ".intercalate (displayItems items) ++ "]"
  | obj members => "\x7b" ++ ", ".intercalate (displayMembers members) ++ "\x7d"
def displayItems : List Json → List String
  | [] => []
  | v :: rest => displayInside v :: displayItems rest
def displayMembers : List (String × Json) → List String
  | [] => []
  | (k, v) :: rest => (quoted k ++ ": " ++ displayInside v) :: displayMembers rest
end

/-- A value as it is shown in a text. -/
def display : Json → String
  | str s => s
  | v => v.displayInside

end EsqlAudit.Json
