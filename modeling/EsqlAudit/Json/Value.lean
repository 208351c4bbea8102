import EsqlAudit.Table

/-!
JSON values. Members of an object keep their order, whole numbers are unbounded, and other numbers are
doubles.
-/
namespace EsqlAudit

inductive Json where
  | null
  | bool (b : Bool)
  | int (i : Int)
  | float (x : Float)
  | str (s : String)
  | arr (items : List Json)
  | obj (members : List (String × Json))

instance : Inhabited Json := ⟨.null⟩

namespace Json

/-- The member of an object by its name. -/
def get? : Json → String → Option Json
  | obj members, key => members.lookup key
  | _, _ => none

/-- A whole number. -/
def ofNat (n : Nat) : Json := int (n : Int)

/-- A text. -/
def ofChars (s : List Char) : Json := str (String.ofList s)

/-- A list of texts. -/
def ofStrings (ss : List String) : Json := arr (ss.map str)

end Json

/-- The members of an object. -/
abbrev Record := Table Json

end EsqlAudit
