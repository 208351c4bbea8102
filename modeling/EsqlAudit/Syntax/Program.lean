import EsqlAudit.Syntax.Node
import EsqlAudit.Text.Blank
import EsqlAudit.Text.Line
import EsqlAudit.Text.Utf8

/-!
A C text together with a syntax tree of it. Before any text is loaded the text is empty and there is no
tree.
-/
namespace EsqlAudit.Syntax
open Text

structure Program where
  text : List Char
  bytes : Array UInt8
  root : Option Node

namespace Program

/-- No text and no tree. -/
def none : Program := ⟨[], #[], .none⟩

/-- A text with a tree, or with none where no tree could be made. -/
def load (text : List Char) (root : Option Node) : Program :=
  ⟨text, (Utf8.encode text).toArray, root⟩

/-- The text under a node: its bytes, as far as they exist, read as UTF-8. -/
def nodeText (p : Program) (n : Node) : Except Utf8.Fault String :=
  (Utf8.decode (p.bytes.extract n.start n.stop).toList).map String.ofList

/-- The number of the line that holds a byte. -/
def lineOf (p : Program) (byte : Nat) : Nat :=
  (p.bytes.extract 0 byte).count 10 + 1

/-- Whether the tree is missing or tells of a syntax error. -/
def hasErrors (p : Program) : Bool :=
  match p.root with
  | .none => true
  | some n => n.hasError

/-- All nodes of the tree, parents first. -/
def nodes (p : Program) : List Node :=
  match p.root with
  | .none => []
  | some n => n.walk

/-- The nodes of a kind, by the name of the kind. -/
def nodesNamed (p : Program) (kind : String) : List Node :=
  p.nodes.filter (·.kind.name == kind)

/-- The number of lines, none in an empty text. -/
def lineCount (p : Program) : Nat :=
  if p.text.isEmpty then 0 else newlines p.text + 1

/-- The number of lines that hold more than blanks. -/
def nonEmptyLineCount (p : Program) : Nat :=
  if p.text.isEmpty then 0 else ((lines p.text).filter fun l => !(strip l).isEmpty).length

end Program

end EsqlAudit.Syntax
