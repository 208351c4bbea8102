import EsqlAudit.Text.Line
import EsqlAudit.Text.Search

/-!
Comments of a C text. Every `/*` up to the next `*/` is a comment, and so is every `//` up to the end of
its line, also where one stands inside the other or inside a string.
-/
namespace EsqlAudit

/-- A comment without its marks, and the line it starts on. -/
structure Comment where
  text : List Char
  line : Nat

end EsqlAudit

namespace EsqlAudit.Comment
open Text

/-- A block comment; group 1 is what stands between the marks. -/
def blockPattern : Pattern :=
  .all [.exactly "/*", .group 1 (.lazy fun _ => true), .exactly "*/"]

/-- A line comment; group 1 is what follows the mark. -/
def linePattern : Pattern :=
  .all [.exactly "//", .group 1 (.greedy notNewline), .lineEnd]

/-- The comments that a pattern finds. -/
def found (source : List Char) (p : Pattern) : List Comment :=
  (p.findAll source).map fun o => ⟨o.groupText source 1, lineAt source o.span.start⟩

/-- The comments of a text, block comments first. -/
def comments (source : List Char) : List Comment :=
  found source blockPattern ++ found source linePattern

end EsqlAudit.Comment
