import EsqlAudit.Syntax.Node

/-!
Functions found in a C text.
-/
namespace EsqlAudit

/-- A function with its lines. One found in the syntax tree has the node of its definition. -/
structure Function where
  name : String
  startLine : Nat
  endLine : Nat
  node : Option Syntax.Node
  parameters : List String
  returnType : String

/-- The number of lines from the first to the last. -/
def Function.lineCount (f : Function) : Int :=
  (f.endLine : Int) - f.startLine + 1

end EsqlAudit
