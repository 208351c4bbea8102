import EsqlAudit.Text.Quoted

/-!
What can be wrong with the arguments of a command.
-/
namespace EsqlAudit.Command
open Text

inductive UsageFault where
  /-- An option that does not exist, and existing ones like it. -/
  | noSuchOption (name : String) (similar : List String)
  | unwantedValue (option : String)
  | missingValue (option : String)
  /-- The names of an option, and a value of it that is not a whole number. -/
  | notAnInteger (option : String) (value : String)
  /-- The names of an option, a value of it, and the values that it can have. -/
  | notAChoice (option : String) (value : String) (choices : List String)
  | noSuchPath (path : String)
  | missingPath
  | extraArguments (arguments : List String)
  | missingCommand
  | noSuchCommand (name : String)
deriving DecidableEq, Repr

namespace UsageFault

/-- A hint at existing options. -/
def hint : List String → String
  | [] => ""
  | [name] => " Did you mean " ++ name ++ "?"
  | names => " (Possible options: " ++ ", ".intercalate names ++ ")"

def invalidValue (parameter problem : String) : String :=
  "Invalid value for " ++ parameter ++ ": " ++ problem

/-- The text about a fault. -/
def message : UsageFault → String
  | noSuchOption name similar => "No such option: " ++ name ++ hint similar
  | unwantedValue option => "Option " ++ quoted option ++ " does not take a value."
  | missingValue option => "Option " ++ quoted option ++ " requires an argument."
  | notAnInteger option value => invalidValue option (quoted value ++ " is not a valid integer.")
  | notAChoice option value choices =>
    invalidValue option
      (quoted value ++ " is not one of " ++ ", ".intercalate (choices.map quoted) ++ ".")
  | noSuchPath path => invalidValue "'PATH'" ("Path " ++ quoted path ++ " does not exist.")
  | missingPath => "Missing argument 'PATH'."
  | extraArguments [argument] => "Got unexpected extra argument (" ++ argument ++ ")"
  | extraArguments arguments =>
    "Got unexpected extra arguments (" ++ " ".intercalate arguments ++ ")"
  | missingCommand => "Missing command."
  | noSuchCommand name => "No such command " ++ quoted name ++ "."

end UsageFault

end EsqlAudit.Command
