import EsqlAudit.Json.Reader
import EsqlAudit.Text.Quoted

/-!
What can go wrong in a round: a program does not start, or a document does not say what is expected of it.
-/
namespace EsqlAudit.Round
open Text

inductive Fault where
  | notStarted (reason : String)
  | notJson (fault : Json.Fault) (text : List Char)
  /-- A value of a type that has no such member. -/
  | lacks (type member : String)
  /-- Texts that are no number or no whole number. -/
  | noNumber (text : String)
  | noWhole (text : String)
  /-- Values of a type that stands for no number or for no whole number. -/
  | notNumeric (type : String)
  | notWhole (type : String)
  /-- A whole number beyond the doubles, and doubles that have no whole part. -/
  | tooLarge
  | infinite
  | notANumber
  /-- Values of a type that has no beginning, no length, no items, or no equals. -/
  | noBeginning (type : String)
  | noLength (type : String)
  | noItems (type : String)
  | noEquals (type : String)
  /-- A value of a type that nothing is looked for in. -/
  | noContents (type : String)
  /-- A value that is no pair: one of a type without items, or one with too few or too many of them. -/
  | noPair (type : String)
  | tooFew (count : Nat)
  | tooMany
  /-- Values that are not shown with decimal places: a text, and those of other types. -/
  | textWithPlaces
  | noPlaces (type : String)

namespace Fault

/-- The kind of the fault in messages. -/
def kind : Fault → String
  | notStarted _ => "OSError"
  | notJson _ _ => "JSONDecodeError"
  | lacks _ _ => "AttributeError"
  | noNumber _ | noWhole _ | notANumber | tooFew _ | tooMany | textWithPlaces => "ValueError"
  | tooLarge | infinite => "OverflowError"
  | notNumeric _ | notWhole _ | noBeginning _ | noLength _ | noItems _ | noEquals _ | noContents _
  | noPair _ | noPlaces _ => "TypeError"

/-- The longest part of a quoted text in a message about a whole number. -/
def quotedLimit : Nat := 200

def message : Fault → String
  | notStarted reason => reason
  | notJson f text => f.message text
  | lacks type member => s!"'{type}' object has no attribute '{member}'"
  | noNumber text => "could not convert string to float: " ++ quoted text
  | noWhole text =>
    "invalid literal for int() with base 10: " ++ String.ofList ((quoted text).toList.take quotedLimit)
  | notNumeric type => s!"float() argument must be a string or a real number, not '{type}'"
  | notWhole type =>
    s!"int() argument must be a string, a bytes-like object or a real number, not '{type}'"
  | tooLarge => "int too large to convert to float"
  | infinite => "cannot convert float infinity to integer"
  | notANumber => "cannot convert float NaN to integer"
  | noBeginning type => s!"'{type}' object is not subscriptable"
  | noLength type => s!"object of type '{type}' has no len()"
  | noItems type => s!"'{type}' object is not iterable"
  | noEquals type => s!"unhashable type: '{type}'"
  | noContents type => s!"argument of type '{type}' is not iterable"
  | noPair type => s!"cannot unpack non-iterable {type} object"
  | tooFew count => s!"not enough values to unpack (expected 2, got {count})"
  | tooMany => "too many values to unpack (expected 2)"
  | textWithPlaces => "Unknown format code 'f' for object of type 'str'"
  | noPlaces type => s!"unsupported format string passed to {type}.__format__"

end Fault

end EsqlAudit.Round
