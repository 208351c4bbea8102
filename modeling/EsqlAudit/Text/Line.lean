import EsqlAudit.Text.Basic

/-!
Lines of a text. A line ends at a newline character and at nothing else; lines count from one. Lines that a
program prints end at every character that ends lines.
-/
namespace EsqlAudit.Text

/-- The lines of a text without their newlines. The text after the last newline is a line too. -/
def lines (s : List Char) : List (List Char) :=
  splitOn '\n' s

/-- The number of newlines. -/
def newlines (s : List Char) : Nat :=
  s.count '\n'

/-- The number of the line that holds position `pos`. -/
def lineAt (s : List Char) (pos : Nat) : Nat :=
  newlines (s.take pos) + 1

/-- The number of the line that holds a position which may be counted from the end. -/
def lineAtInt (s : List Char) (pos : Int) : Nat :=
  lineAt s (position s pos)

/-- The positions just after each newline, the first character of the text being at `pos`. -/
def lineStartsFrom (pos : Nat) : List Char → List Nat
  | [] => []
  | c :: rest =>
    if c == '\n' then (pos + 1) :: lineStartsFrom (pos + 1) rest else lineStartsFrom (pos + 1) rest

/-- The positions at which the lines start. -/
def lineStarts (s : List Char) : List Nat :=
  0 :: lineStartsFrom 0 s

/-- How many of the increasing line starts are at or before `pos`. -/
def lineIn (starts : List Nat) (pos : Int) : Nat :=
  (starts.takeWhile fun (start : Nat) => (start : Int) ≤ pos).length

/-- Line `n` of the text, empty when there is none. -/
def lineText (s : List Char) (n : Int) : List Char :=
  if 0 < n then (lines s)[n.toNat - 1]?.getD [] else []

/-- The position at which line `n` starts. Past the last line it is one more than the length. -/
def linePosition (s : List Char) (n : Int) : Nat :=
  ((lines s).take (n - 1).toNat).foldl (fun pos line => pos + line.length + 1) 0

/-- The characters that end lines. -/
def isLineEnd (c : Char) : Bool :=
  ['\n', '\r', '\x0b', '\x0c', '\x1c', '\x1d', '\x1e', '\u0085', '\u2028', '\u2029'].contains c

/-- The lines of a printed text, after the characters `acc` of a line in reverse. -/
def printedLinesAfter (acc : List Char) : List Char → List (List Char)
  | [] => if acc.isEmpty then [] else [acc.reverse]
  | '\r' :: '\n' :: rest => acc.reverse :: printedLinesAfter [] rest
  | c :: rest =>
    if isLineEnd c then acc.reverse :: printedLinesAfter [] rest
    else printedLinesAfter (c :: acc) rest

/-- The lines of a printed text. A carriage return and a newline after it end one line, and no empty line
stands after the last line end. -/
def printedLines (s : List Char) : List (List Char) :=
  printedLinesAfter [] s

end EsqlAudit.Text
