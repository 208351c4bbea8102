import EsqlAudit.Command.Usage
import EsqlAudit.Text.Similarity

/-!
Reading arguments: which of them are options, and which value each option has. An option of one dash and one
letter can be joined with others of its kind and with its value; every other option can be joined with its
value by an equals sign. After two dashes there are no more options.
-/
namespace EsqlAudit.Command
open Text

/-- One of the names of an option. -/
structure Spelling (α : Type) where
  name : String
  option : α
  takesValue : Bool

namespace Spelling

variable {α : Type}

/-- Whether the name is one dash and one letter. -/
def isLetter (s : Spelling α) : Bool := s.name.length == 2

/-- The option of a name. -/
def find? (spellings : List (Spelling α)) (name : String) : Option (Spelling α) :=
  spellings.find? (·.name == name)

end Spelling

/-- An option as it is used, with its value if it takes one. -/
structure Use (α : Type) where
  option : α
  value : Option String

/-- What one argument gives: the options used in it, and whether the next argument is a value of theirs. -/
structure Reading (α : Type) where
  uses : List (Use α)
  takesNext : Bool

/-- The name and the value on both sides of the first equals sign. -/
def splitValue (argument : String) : String × Option String :=
  let cs := argument.toList
  let name := cs.takeWhile (· != '=')
  match cs.dropWhile (· != '=') with
  | [] => (argument, none)
  | _ :: value => (String.ofList name, some (String.ofList value))

section
variable {α : Type}

/-- An option that takes the next argument as its value. -/
def takeNext (s : Spelling α) (next : Option String) : Except UsageFault (Reading α) :=
  match next with
  | some value => .ok ⟨[⟨s.option, some value⟩], true⟩
  | none => .error (.missingValue s.name)

/-- Reads a name that is not one letter. -/
def readName (s : Spelling α) (value next : Option String) : Except UsageFault (Reading α) :=
  match s.takesValue, value with
  | true, some v => .ok ⟨[⟨s.option, some v⟩], false⟩
  | true, none => takeNext s next
  | false, some _ => .error (.unwantedValue s.name)
  | false, none => .ok ⟨[⟨s.option, none⟩], false⟩

/-- Reads letters that follow one dash. The value of a letter is what follows it, or the next argument. -/
def readLetters (spellings : List (Spelling α)) (next : Option String) :
    List Char → Except UsageFault (Reading α)
  | [] => .ok ⟨[], false⟩
  | c :: rest =>
    let name := String.ofList ['-', c]
    match Spelling.find? (spellings.filter Spelling.isLetter) name with
    | none => .error (.noSuchOption name [])
    | some s =>
      if s.takesValue then
        if rest.isEmpty then takeNext s next
        else .ok ⟨[⟨s.option, some (String.ofList rest)⟩], false⟩
      else do
        let r ← readLetters spellings next rest
        return ⟨⟨s.option, none⟩ :: r.uses, r.takesNext⟩

/-- The existing names that are like a name, in order. -/
def similarNames (names : List String) (name : String) : List String :=
  ((closeTo name.toList (names.map String.toList)).map String.ofList).mergeSort
    fun a b => decide (a < b) || a == b

/-- Reads an argument that starts with a dash. -/
def readOption (spellings : List (Spelling α)) (argument : String) (next : Option String) :
    Except UsageFault (Reading α) :=
  let long := spellings.filter fun s => !s.isLetter
  let (name, value) := splitValue argument
  match Spelling.find? long name, argument.toList with
  | some s, _ => readName s value next
  | none, '-' :: '-' :: _ => .error (.noSuchOption name (similarNames (long.map (·.name)) name))
  | none, cs => readLetters spellings next cs.tail

/-- Whether an argument is an option. -/
def isOption (argument : String) : Bool :=
  argument.toList.head? == some '-' && decide (1 < argument.length)

/-- The options used, in order, and all other arguments. -/
structure Arguments (α : Type) where
  uses : List (Use α)
  others : List String

/-- Reads arguments. Unless options may follow other arguments, the first other one ends the options. -/
def readArguments (spellings : List (Spelling α)) (mixed : Bool) :
    List String → Except UsageFault (Arguments α)
  | [] => .ok ⟨[], []⟩
  | argument :: rest =>
    if argument == "--" then .ok ⟨[], rest⟩
    else if isOption argument then do
      let r ← readOption spellings argument rest.head?
      let more ← match rest, r.takesNext with
        | _ :: later, true => readArguments spellings mixed later
        | rest, _ => readArguments spellings mixed rest
      return ⟨r.uses ++ more.uses, more.others⟩
    else if mixed then do
      let more ← readArguments spellings mixed rest
      return ⟨more.uses, argument :: more.others⟩
    else .ok ⟨[], argument :: rest⟩

end

end EsqlAudit.Command
