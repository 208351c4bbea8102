import EsqlAudit.Text.Line
import EsqlAudit.Text.Search

/-!
Functions that are better not called, and how serious a call of them is.
-/
namespace EsqlAudit

/-- How serious an issue is. -/
inductive Severity where
  | critical | error | warning | info
deriving DecidableEq, Repr

def Severity.name : Severity → String
  | critical => "critical"
  | error => "error"
  | warning => "warning"
  | info => "info"

namespace Memory
open Text

/-- A function, what to call instead, how serious a call is, and why. -/
structure Dangerous where
  name : String
  replacement : String
  severity : Severity
  reason : String

/-- The functions that are looked for, in this order. -/
def dangerous : List Dangerous :=
  [⟨"gets", "fgets", .critical, "gets() ne vérifie pas la taille - buffer overflow garanti"⟩,
   ⟨"strcpy", "strncpy/strlcpy", .warning,
     "strcpy() ne vérifie pas la taille du buffer destination"⟩,
   ⟨"strcat", "strncat/strlcat", .warning,
     "strcat() ne vérifie pas la taille du buffer destination"⟩,
   ⟨"sprintf", "snprintf", .warning, "sprintf() ne vérifie pas la taille du buffer destination"⟩,
   ⟨"vsprintf", "vsnprintf", .warning,
     "vsprintf() ne vérifie pas la taille du buffer destination"⟩,
   ⟨"scanf", "fgets+sscanf", .warning, "scanf() avec %s peut causer un buffer overflow"⟩,
   ⟨"fscanf", "fgets+sscanf", .info, "fscanf() avec %s peut causer un buffer overflow"⟩,
   ⟨"realpath", "realpath avec buffer NULL", .info, "realpath() avec buffer fixe peut overflow"⟩,
   ⟨"getwd", "getcwd", .warning, "getwd() est dépréciée et dangereuse"⟩,
   ⟨"mktemp", "mkstemp", .warning, "mktemp() a des race conditions"⟩,
   ⟨"tempnam", "mkstemp", .warning, "tempnam() a des race conditions"⟩,
   ⟨"tmpnam", "mkstemp", .warning, "tmpnam() a des race conditions"⟩]

/-- A call of a function, without regard to letter case. -/
def callPattern (name : String) : Pattern :=
  .all [.wordEdge, .word name, .blanks, .exactly "("]

/-- A call of a dangerous function. -/
structure Call where
  function : Dangerous
  line : Nat

/-- The calls of dangerous functions, function by function. -/
def dangerousCalls (source : List Char) : List Call :=
  dangerous.flatMap fun d =>
    ((callPattern d.name).findAll source).map fun o => ⟨d, lineAt source o.span.start⟩

end Memory

end EsqlAudit
