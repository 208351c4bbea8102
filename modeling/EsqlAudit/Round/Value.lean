import EsqlAudit.Decimal.Fixed
import EsqlAudit.Decimal.Reader
import EsqlAudit.Json.Display
import EsqlAudit.Round.Fault
import EsqlAudit.Text.Basic

/-!
Reading values of documents. A value that counts as nothing stands for an empty one; a value of another type
than is expected is a fault.
-/
namespace EsqlAudit.Round
open Decimal Text

/-- The name of the type of a value in messages. -/
def typeName : Json → String
  | .null => "NoneType"
  | .bool _ => "bool"
  | .int _ => "int"
  | .float _ => "float"
  | .str _ => "str"
  | .arr _ => "list"
  | .obj _ => "dict"

/-- Whether a value counts as nothing. -/
def isNothing : Json → Bool
  | .null => true
  | .bool b => !b
  | .int i => i == 0
  | .float x => x == 0.0
  | .str s => s.isEmpty
  | .arr vs => vs.isEmpty
  | .obj ms => ms.isEmpty

/-- The members of a value that has to be an object; `access` is the way they are asked for. -/
def object (access : String) (j : Json) : Except Fault Record :=
  match j with
  | .obj ms => .ok ms
  | j => .error (.lacks (typeName j) access)

/-- A member that is there and does not count as nothing. -/
def present? (r : Record) (key : String) : Option Json :=
  (r.lookup key).filter fun j => !isNothing j

/-- The members of an object that is a member, none if it counts as nothing. -/
def membersOf (access : String) (r : Record) (key : String) : Except Fault Record :=
  match present? r key with
  | none => .ok []
  | some j => object access j

/-- A value as a number. -/
def toNumber : Json → Except Fault Float
  | .int i =>
    match ofInt i with
    | some x => .ok x
    | none => .error .tooLarge
  | .float x => .ok x
  | .bool b => .ok (if b then 1.0 else 0.0)
  | .str s =>
    match readFloat s.toList with
    | some x => .ok x
    | none => .error (.noNumber s)
  | j => .error (.notNumeric (typeName j))

/-- The whole part of a double. -/
def wholePart (x : Float) : Except Fault Int :=
  match decode x with
  | .finite _ => .ok (truncate x)
  | .infinite _ => .error .infinite
  | .notANumber => .error .notANumber

/-- A value as a whole number. -/
def toWhole : Json → Except Fault Int
  | .int i => .ok i
  | .float x => wholePart x
  | .bool b => .ok (if b then 1 else 0)
  | .str s =>
    match readInt s.toList with
    | some i => .ok i
    | none => .error (.noWhole s)
  | j => .error (.notWhole (typeName j))

/-- A member as a number, zero if it is missing. -/
def numberOf (r : Record) (key : String) : Except Fault Float :=
  toNumber ((r.lookup key).getD (.float 0.0))

/-- A member as a whole number, zero if it is missing. -/
def wholeOf (r : Record) (key : String) : Except Fault Int :=
  toWhole ((r.lookup key).getD (.int 0))

/-- The characters of a text as values. -/
def charsOf (s : String) : List Json := s.toList.map fun c => .str (String.ofList [c])

/-- The items of a value: those of an array, the characters of a text, the names of members. -/
def items? : Json → Option (List Json)
  | .arr vs => some vs
  | .str s => some (charsOf s)
  | .obj ms => some (ms.map fun m => .str m.1)
  | _ => none

/-- The items of a value that has to have some. -/
def itemsOf (j : Json) : Except Fault (List Json) :=
  match items? j with
  | some vs => .ok vs
  | none => .error (.noItems (typeName j))

/-- The number of items of a value. -/
def lengthOf (j : Json) : Except Fault Nat :=
  match items? j with
  | some vs => .ok vs.length
  | none => .error (.noLength (typeName j))

/-- The items of a value that has a beginning: an array or a text. -/
def sequenceOf (j : Json) : Except Fault (List Json) :=
  match j with
  | .arr vs => .ok vs
  | .str s => .ok (charsOf s)
  | .obj _ => .error (.noEquals "slice")
  | j => .error (.noBeginning (typeName j))

/-- The two items of a value that has to be a pair. -/
def pairOf (j : Json) : Except Fault (Json × Json) :=
  match items? j with
  | some [a, b] => .ok (a, b)
  | some (_ :: _ :: _ :: _) => .error .tooMany
  | some vs => .error (.tooFew vs.length)
  | none => .error (.noPair (typeName j))

/-- A value that is shown with decimal places. -/
def shownNumber : Json → Except Fault Float
  | .str _ => .error .textWithPlaces
  | .null => .error (.noPlaces (typeName .null))
  | .arr vs => .error (.noPlaces (typeName (.arr vs)))
  | .obj ms => .error (.noPlaces (typeName (.obj ms)))
  | j => toNumber j

/-- What two equal values share: a text, or a number whatever its form. -/
inductive Mark where
  | nothing
  | number (digits : String)
  | text (s : String)
deriving DecidableEq, Repr

/-- The mark of a double; a double that is a whole number has the mark of that number. -/
def markOfFloat (x : Float) : Mark :=
  match wholePart x with
  | .ok i => .number (if (ofInt i).any (· == x) then toString i else Json.floatDisplay x)
  | .error _ => .number (Json.floatDisplay x)

/-- The mark of a value that has one. -/
def markOf (j : Json) : Except Fault Mark :=
  match j with
  | .null => .ok .nothing
  | .bool b => .ok (.number (if b then "1" else "0"))
  | .int i => .ok (.number (toString i))
  | .float x => .ok (markOfFloat x)
  | .str s => .ok (.text s)
  | j => .error (.noEquals (typeName j))

/-- Whether a value has the given mark. -/
def hasMark (m : Mark) (j : Json) : Bool :=
  match markOf j with
  | .ok n => n == m
  | .error _ => false

/-- Whether a mark is in a value: that of an item of an array, the name of a member, a part of a text. -/
def isWithin (m : Mark) (j : Json) : Except Fault Bool :=
  match j, m with
  | .arr vs, m => .ok (vs.any (hasMark m))
  | .obj ms, m => .ok (ms.any fun e => .text e.1 == m)
  | .str s, .text part => .ok (contains part.toList s.toList)
  | .str _, _ => .ok false
  | j, _ => .error (.noContents (typeName j))

end EsqlAudit.Round
