import EsqlAudit.Text.Line
import EsqlAudit.Text.Search

/-!
Allocations of memory, and what may become of them: comparisons of the result with `NULL` soon after, and
calls of `free`.
-/
namespace EsqlAudit.Memory
open Text

/-- The functions that allocate. -/
def allocators : List String := ["malloc", "calloc", "realloc", "strdup", "strndup"]

/-- A variable (group 1) that is given the result, perhaps cast, of an allocator (group 2). -/
def allocationPattern : Pattern :=
  .all [.group 1 .word1, .blanks, .exactly "=", .blanks, .optional (.exactly "("), .blanks,
    .greedy isWord, .blanks, .optional (.exactly "*"), .blanks, .optional (.exactly ")"), .blanks,
    .group 2 (.any (allocators.map .word)), .blanks, .exactly "("]

/-- A variable that is freed: group 1. -/
def freePattern : Pattern :=
  .all [.wordEdge, .exactly "free", .blanks, .exactly "(", .blanks, .group 1 .word1, .blanks,
    .exactly ")"]

/-- A variable that is set to `NULL`: group 1. -/
def resetPattern : Pattern :=
  .all [.group 1 .word1, .blanks, .exactly "=", .blanks, .exactly "NULL", .blanks, .exactly ";"]

/-- A condition between parentheses after `if`. -/
def condition (ps : List Pattern) : Pattern :=
  .all ([.exactly "if", .blanks, .exactly "(", .blanks] ++ ps ++ [.blanks, .exactly ")"])

/-- The ways to compare a variable, group 1, with `NULL`. -/
def checkPatterns : List Pattern :=
  [condition [.group 1 .word1, .blanks, .exactly "==", .blanks, .exactly "NULL"],
   condition [.exactly "NULL", .blanks, .exactly "==", .blanks, .group 1 .word1],
   condition [.exactly "!", .blanks, .group 1 .word1],
   condition [.group 1 .word1]]

/-- How far from the start of the line of an allocation its check is expected. -/
def checkReach : Nat := 300

/-- How far after a variable is freed it is expected to be set to `NULL`. -/
def resetReach : Nat := 100

/-- A call of `free`. -/
structure Free where
  name : String
  line : Nat
  /-- Whether the first variable set to `NULL` within reach is this one. -/
  isReset : Bool

/-- The calls of `free` in a text. -/
def frees (source : List Char) : List Free :=
  (freePattern.findAll source).map fun o =>
    let name := o.groupText source 1
    let after := slice source o.span.stop (o.span.stop + resetReach)
    { name := String.ofList name
      line := lineAt source o.span.start
      isReset := match resetPattern.find? after with
        | some r => r.groupText after 1 == name
        | none => false }

/-- Whether the first condition of some kind within reach of a line checks the variable. -/
def isChecked (source : List Char) (name : String) (line : Nat) : Bool :=
  let start := linePosition source line
  let window := slice source start (start + checkReach)
  checkPatterns.any fun p =>
    match p.find? window with
    | some o => String.ofList (o.groupText window 1) == name
    | none => false

/-- An allocation, with what the text is found to do about it. -/
structure Allocation where
  name : String
  line : Nat
  function : String
  isChecked : Bool := false
  isFreed : Bool := false
  /-- The line on which the variable is freed last. -/
  freeLine : Option Nat := none

namespace Allocation

/-- The allocation as one that is checked. -/
def checked (a : Allocation) : Allocation := { a with isChecked := true }

/-- The allocation as one that is freed on a line. -/
def freedOn (a : Allocation) (line : Nat) : Allocation :=
  { a with isFreed := true, freeLine := some line }

end Allocation

/-- The allocations in a text, in its order. -/
def allocations (source : List Char) : List Allocation :=
  (allocationPattern.findAll source).map fun o =>
    { name := String.ofList (o.groupText source 1)
      line := lineAt source o.span.start
      function := String.ofList (lower (o.groupText source 2)) }

end EsqlAudit.Memory
