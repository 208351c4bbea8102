import EsqlAudit.Analysis.Source
import EsqlAudit.Command.Arguments
import EsqlAudit.Text.Numeral

/-!
Commands and their settings, read from arguments. The values of options are checked in the order in which the
options are first used, then the path is checked, then that no arguments are left.
-/
namespace EsqlAudit.Command
open Text

/-- The forms in which a report is given out. -/
inductive Format where
  | text | json | jsonPretty | html | markdown | csv
deriving DecidableEq, Repr

namespace Format

def all : List Format := [text, json, jsonPretty, html, markdown, csv]

def name : Format → String
  | text => "text"
  | json => "json"
  | jsonPretty => "json-pretty"
  | html => "html"
  | markdown => "markdown"
  | csv => "csv"

def ofName? (name : String) : Option Format := all.find? (·.name == name)

end Format

/-- The settings of an analysis. -/
structure Settings where
  pattern : Option String
  foldedPattern : Option String
  format : Format
  output : Option String
  cyclomatic : Int
  cognitive : Int
  recursive : Bool
  verbose : Bool
  parts : Analysis.Options

def Settings.default : Settings :=
  ⟨none, none, .text, none, 10, 15, true, false, .all⟩

/-- The options of an analysis. -/
inductive AnalysisOption where
  | pattern | foldedPattern | format | output | cyclomatic | cognitive
  | recursive | notRecursive | verbose | noHalstead | noTodos | noCursors | noMemory | help
deriving DecidableEq, Repr

namespace AnalysisOption

def spellings : List (Spelling AnalysisOption) :=
  [⟨"--pattern", pattern, true⟩, ⟨"-p", pattern, true⟩,
   ⟨"--ipattern", foldedPattern, true⟩, ⟨"-i", foldedPattern, true⟩,
   ⟨"--format", format, true⟩, ⟨"-f", format, true⟩,
   ⟨"--output", output, true⟩, ⟨"-o", output, true⟩,
   ⟨"--threshold-cyclo", cyclomatic, true⟩, ⟨"-tc", cyclomatic, true⟩,
   ⟨"--threshold-cognitive", cognitive, true⟩, ⟨"-tg", cognitive, true⟩,
   ⟨"--recursive", recursive, false⟩, ⟨"-r", recursive, false⟩,
   ⟨"--no-recursive", notRecursive, false⟩, ⟨"-R", notRecursive, false⟩,
   ⟨"--verbose", verbose, false⟩, ⟨"-v", verbose, false⟩,
   ⟨"--no-halstead", noHalstead, false⟩, ⟨"--no-todos", noTodos, false⟩,
   ⟨"--no-cursors", noCursors, false⟩, ⟨"--no-memory", noMemory, false⟩,
   ⟨"--help", help, false⟩]

/-- The names of an option in messages about its value. -/
def title (o : AnalysisOption) : String :=
  " / ".intercalate ((spellings.filter (·.option == o)).map fun s => quoted s.name)

/-- Sets a threshold. -/
def threshold (o : AnalysisOption) (value : String) : Except UsageFault Int :=
  match readInt value.toList with
  | some i => .ok i
  | none => .error (.notAnInteger o.title value)

/-- Sets what an option stands for. The two that exclude each other are left to `recursiveLast`. -/
def apply (s : Settings) (o : AnalysisOption) (value : String) : Except UsageFault Settings :=
  match o with
  | pattern => .ok { s with pattern := some value }
  | foldedPattern => .ok { s with foldedPattern := some value }
  | format =>
    match Format.ofName? value with
    | some f => .ok { s with format := f }
    | none => .error (.notAChoice o.title value (Format.all.map Format.name))
  | output => .ok { s with output := some value }
  | cyclomatic => (o.threshold value).map fun i => { s with cyclomatic := i }
  | cognitive => (o.threshold value).map fun i => { s with cognitive := i }
  | verbose => .ok { s with verbose := true }
  | noHalstead => .ok { s with parts := { s.parts with halstead := false } }
  | noTodos => .ok { s with parts := { s.parts with todos := false } }
  | noCursors => .ok { s with parts := { s.parts with cursors := false } }
  | noMemory => .ok { s with parts := { s.parts with memory := false } }
  | recursive | notRecursive | help => .ok s

end AnalysisOption

/-- Each option once, in the order of first use, with the value of its last use. -/
def lastUses {α : Type} [BEq α] (uses : List (Use α)) : List (α × String) :=
  uses.foldl (fun (found : List (α × String)) u =>
    let value := u.value.getD ""
    if found.any (·.1 == u.option) then
      found.map fun (o, v) => if o == u.option then (o, value) else (o, v)
    else found ++ [(u.option, value)]) []

/-- Whether directories are searched to their bottom: of the two options that say so the last one used
counts. -/
def recursiveLast (uses : List (Use AnalysisOption)) : Bool :=
  uses.foldl (fun r u =>
    if u.option == .recursive then true
    else if u.option == .notRecursive then false else r) true

/-- The settings that options give. -/
def settingsOf (uses : List (Use AnalysisOption)) : Except UsageFault Settings := do
  let s ← (lastUses uses).foldlM (fun s (o, value) => AnalysisOption.apply s o value)
    Settings.default
  return { s with recursive := recursiveLast uses }

/-- What a command line asks for. -/
inductive Invocation where
  | version
  | help
  | analyze (path : String) (settings : Settings)
  | todos (path : String)
  | security (path : String)
  | inventory (path : String)
  | preprocess (path : String)

/-- The one path among the arguments of a command. -/
def pathOf (isThere : String → Bool) (others : List String) : Except UsageFault String :=
  match others with
  | [] => .error .missingPath
  | path :: rest =>
    if !isThere path then .error (.noSuchPath path)
    else if rest.isEmpty then .ok path
    else .error (.extraArguments rest)

/-- Reads the arguments of an analysis. -/
def readAnalysis (isThere : String → Bool) (arguments : List String) :
    Except UsageFault Invocation := do
  let a ← readArguments AnalysisOption.spellings true arguments
  if a.uses.any (·.option == .help) then return .help
  let settings ← settingsOf a.uses
  let path ← pathOf isThere a.others
  return .analyze path settings

/-- Reads the arguments of a command that takes a path only. -/
def readPath (isThere : String → Bool) (make : String → Invocation) (arguments : List String) :
    Except UsageFault Invocation := do
  let a ← readArguments [(⟨"--help", (), false⟩ : Spelling Unit)] true arguments
  if !a.uses.isEmpty then return .help
  return make (← pathOf isThere a.others)

/-- The options that stand before a command. -/
inductive GeneralOption where
  | version | help
deriving DecidableEq, Repr

/-- Reads what stands before a command: an option that answers by itself, or the rest of the arguments. -/
def readGeneral (arguments : List String) :
    Except UsageFault (Option GeneralOption × List String) := do
  if arguments.isEmpty then return (some .help, [])
  let a ← readArguments
    [⟨"--version", GeneralOption.version, false⟩, ⟨"--help", GeneralOption.help, false⟩] false
    arguments
  return (a.uses.head?.map (·.option), a.others)

/-- Whether a name starts with a letter or a digit. -/
def isPlainName (name : String) : Bool :=
  match name.toList with
  | [] => true
  | c :: _ => isAlphanumeric c

/-- Reads a command line. -/
def Invocation.ofArguments (isThere : String → Bool) (arguments : List String) :
    Except UsageFault Invocation := do
  match ← readGeneral arguments with
  | (some .version, _) => return .version
  | (some .help, _) => return .help
  | (none, []) => throw .missingCommand
  | (none, name :: rest) =>
    match name with
    | "analyze" => readAnalysis isThere rest
    | "todos" => readPath isThere .todos rest
    | "security" => readPath isThere .security rest
    | "inventory" => readPath isThere .inventory rest
    | "preprocess" => readPath isThere .preprocess rest
    | name => if isPlainName name then throw (.noSuchCommand name) else return .help

end EsqlAudit.Command
