import EsqlAudit.Text.Line
import EsqlAudit.Text.Search

/-!
Allocations of the size of a pointer where the size of what it points to is meant.
-/
namespace EsqlAudit.Memory
open Text

/-- An allocation whose last argument ends in the size of a name: group 2. -/
def sizePattern : Pattern :=
  .all [.group 1 (.any [.word "malloc", .word "calloc"]), .blanks, .exactly "(", .greedy (· != ')'),
    .word "sizeof", .blanks, .exactly "(", .blanks, .group 2 .word1, .blanks, .exactly ")", .blanks,
    .exactly ")"]

/-- The declaration of a name as a pointer. -/
def pointerPattern (name : String) : Pattern :=
  .all [.wordEdge, .word1, .blanks, .many1 (· == '*'), .blanks, .exactly name, .wordEdge]

/-- The size of a pointer taken on a line. -/
structure PointerSize where
  name : String
  line : Nat

/-- The allocations by the size of a name that is declared as a pointer before. -/
def pointerSizes (source : List Char) : List PointerSize :=
  ((sizePattern.findAll source).filter fun o =>
    (pointerPattern (String.ofList (o.groupText source 2))).occursIn
      (source.take o.span.start)).map fun o =>
    ⟨String.ofList (o.groupText source 2), lineAt source o.span.start⟩

end EsqlAudit.Memory
