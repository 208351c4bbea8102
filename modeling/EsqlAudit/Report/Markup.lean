/-!
Pages as lists of pieces. A piece is markup, which is written as it is, or a value, in which every
character that could be taken for markup is replaced by its entity.
-/
namespace EsqlAudit.Report

inductive Piece where
  | markup (s : String)
  | value (s : String)

namespace Piece

/-- A character of a value. -/
def escapeChar (c : Char) : List Char :=
  if c == '&' then "&amp;".toList
  else if c == '<' then "&lt;".toList
  else if c == '>' then "&gt;".toList
  else if c == '\'' then "&#39;".toList
  else if c == '"' then "&#34;".toList
  else [c]

/-- A value with entities. -/
def escape (s : String) : String :=
  String.ofList (s.toList.flatMap escapeChar)

/-- A piece as it is written. -/
def text : Piece → String
  | markup s => s
  | value s => escape s

/-- A whole number. -/
def ofInt (i : Int) : Piece := value (toString i)

/-- A count. -/
def ofNat (n : Nat) : Piece := value (toString n)

end Piece

/-- A page as it is written. -/
def render (page : List Piece) : String :=
  String.join (page.map Piece.text)

/-- A new line with the given indentation. -/
def row (indent : Nat) (pieces : List Piece) : List Piece :=
  .markup (String.ofList ('\n' :: List.replicate indent ' ')) :: pieces

/-- New lines of markup with the given indentations. -/
def rows (lines : List (Nat × String)) : List Piece :=
  lines.flatMap fun (indent, s) => row indent [.markup s]

/-- The pieces, if something holds. -/
def showIf (condition : Bool) (pieces : List Piece) : List Piece :=
  if condition then pieces else []

end EsqlAudit.Report
