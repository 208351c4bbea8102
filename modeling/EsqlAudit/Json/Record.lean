import EsqlAudit.Decimal.Binary
import EsqlAudit.Json.Display

/-!
Reading the members of a record, each with a value for a member that is missing.
-/
namespace EsqlAudit

namespace Json
open Decimal

/-- A number as a double, zero for anything else. -/
def toFloat : Json → Float
  | int i => (ofInt i).getD 0.0
  | float x => x
  | _ => 0.0

/-- The members of an object, none of anything else. -/
def members : Json → Record
  | obj ms => ms
  | _ => []

/-- The items of an array, none of anything else. -/
def items : Json → List Json
  | arr vs => vs
  | _ => []

end Json

namespace Record

/-- A member as it is shown in a text. -/
def text (r : Record) (key : String) (default : String) : String :=
  match r.lookup key with
  | some v => v.display
  | none => default

/-- A whole number. -/
def int (r : Record) (key : String) (default : Int) : Int :=
  match r.lookup key with
  | some (.int i) => i
  | _ => default

/-- A number, zero if it is missing. -/
def number (r : Record) (key : String) : Float :=
  match r.lookup key with
  | some v => v.toFloat
  | none => 0.0

/-- The members of an object that is a member. -/
def members (r : Record) (key : String) : Record :=
  match r.lookup key with
  | some v => v.members
  | none => []

/-- The records in an array that is a member. -/
def records (r : Record) (key : String) : List Record :=
  match r.lookup key with
  | some v => v.items.map Json.members
  | none => []

end Record

end EsqlAudit
