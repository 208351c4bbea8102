import EsqlAudit.Json.Value
import EsqlAudit.Memory.Allocation
import EsqlAudit.Memory.Dangerous
import EsqlAudit.Memory.PointerSize

/-!
Issues with memory: freed variables that keep their old value, allocations that are not checked or not
freed, dangerous functions, and sizes of pointers.
-/
namespace EsqlAudit.Memory
open Text

/-- What is wrong with the memory. -/
inductive Problem where
  /-- A variable is freed and not set to `NULL`. -/
  | notReset (name : String)
  /-- The result of an allocator is not checked. -/
  | unchecked (function name : String)
  /-- A dangerous function is called. -/
  | dangerous (function : Dangerous)
  /-- The size of a pointer is allocated. -/
  | pointerSize (name : String)
  /-- The result of an allocator is never freed. -/
  | unfreed (function name : String)

namespace Problem

/-- The kind of a problem in reports. -/
def kind : Problem → String
  | notReset _ => "free_no_null"
  | unchecked _ _ => "malloc_unchecked"
  | dangerous d => if d.severity == .critical then "buffer_overflow" else "dangerous_function"
  | pointerSize _ => "sizeof_pointer"
  | unfreed _ _ => "malloc_no_free"

def severity : Problem → Severity
  | notReset _ | unfreed _ _ => .warning
  | unchecked _ _ | pointerSize _ => .error
  | dangerous d => d.severity

/-- The text about a problem. -/
def message : Problem → String
  | notReset v => s!"free({v}) sans mise à NULL - risque de dangling pointer"
  | unchecked f _ => s!"{f}() sans vérification NULL - crash si allocation échoue"
  | dangerous d => s!"Utilisation de {d.name}() - {d.reason}"
  | pointerSize v => s!"sizeof({v}) sur un pointeur - alloue seulement la taille du pointeur"
  | unfreed f v => s!"{f}({v}) sans free() correspondant - fuite mémoire potentielle"

/-- What to do about a problem. -/
def recommendation : Problem → String
  | notReset v => s!"Ajouter '{v} = NULL;' après free()"
  | unchecked _ v => s!"Ajouter: if ({v} == NULL) " ++ "\x7b /* gestion erreur */ \x7d"
  | dangerous d => s!"Utiliser {d.replacement} à la place"
  | pointerSize v =>
    s!"Utiliser sizeof(*{v}) ou sizeof(type) pour la taille de l'objet pointé"
  | unfreed _ v => s!"Ajouter free({v}) quand la mémoire n'est plus nécessaire"

end Problem

structure Issue where
  line : Nat
  problem : Problem
  /-- The line of the text that the issue is on. -/
  snippet : List Char

/-- The allocations and dangerous calls of a text and the issues with them. -/
structure Result where
  issues : List Issue
  allocations : List Allocation
  calls : List Call

namespace Issue

def severity (i : Issue) : Severity := i.problem.severity

/-- The issue as it stands in a report. -/
def toRecord (i : Issue) : Record :=
  [("type", .str i.problem.kind), ("severity", .str i.severity.name),
   ("line_number", .ofNat i.line), ("message", .str i.problem.message),
   ("code_snippet", .ofChars (strip i.snippet)),
   ("recommendation", .str i.problem.recommendation)]

end Issue

namespace Result

/-- The number of issues of a severity. -/
def countOf (r : Result) (s : Severity) : Nat :=
  r.issues.countP (·.severity == s)

/-- The examination as it stands in a report. -/
def toRecord (r : Result) : Record :=
  [("total_issues", .ofNat r.issues.length), ("critical_count", .ofNat (r.countOf .critical)),
   ("error_count", .ofNat (r.countOf .error)), ("warning_count", .ofNat (r.countOf .warning)),
   ("issues", .arr (r.issues.map fun i => .obj i.toRecord)),
   ("allocations_count", .ofNat r.allocations.length),
   ("dangerous_calls_count", .ofNat r.calls.length)]

end Result

end EsqlAudit.Memory
