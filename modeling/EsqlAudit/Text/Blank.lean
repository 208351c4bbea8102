/-!
White space. A blank is a character of Unicode's white space property or one of the four ASCII
information separators. A class of characters is a table of ranges.
-/
namespace EsqlAudit.Text

/-- Whether `n` lies in one of the closed ranges, which are listed in increasing order. -/
def inRanges : List (Nat × Nat) → Nat → Bool
  | [], _ => false
  | (lo, hi) :: rest, n => if n < lo then false else n ≤ hi || inRanges rest n

/-- The blanks, as increasing closed ranges of code points. -/
def blankRanges : List (Nat × Nat) :=
  [(9, 13), (28, 32), (133, 133), (160, 160), (5760, 5760), (8192, 8202), (8232, 8233),
   (8239, 8239), (8287, 8287), (12288, 12288)]

/-- White space of every kind, line ends included. -/
def isBlank (c : Char) : Bool :=
  inRanges blankRanges c.toNat

/-- Drops the blanks at the front. -/
def stripLeft (s : List Char) : List Char :=
  s.dropWhile isBlank

/-- Drops the blanks at the end. -/
def stripRight (s : List Char) : List Char :=
  (s.reverse.dropWhile isBlank).reverse

/-- Drops the blanks at both ends. -/
def strip (s : List Char) : List Char :=
  stripRight (stripLeft s)

end EsqlAudit.Text
