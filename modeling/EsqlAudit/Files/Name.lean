import EsqlAudit.Text.LetterCase

/-!
Patterns for file names. A star stands for any characters, a question mark for one, and brackets for one
of a set; a bracket that is not closed stands for itself.
-/
namespace EsqlAudit.Files
open Text

/-- One part of a name pattern. -/
inductive NamePart where
  /-- Any characters, possibly none. -/
  | star
  /-- One character, any. -/
  | any
  /-- One character in some of the ranges, or in none of them. -/
  | set (negated : Bool) (ranges : List (Char × Char))
  | literal (c : Char)
deriving DecidableEq

/-- The ranges of a set. A hyphen between two characters makes a range, and a range that ends before it
starts is left out. -/
def ranges : List Char → List (Char × Char)
  | lo :: '-' :: hi :: rest =>
    if lo ≤ hi then (lo, hi) :: ranges rest else ranges rest
  | c :: rest => (c, c) :: ranges rest
  | [] => []

/-- The text of a set without the ranges at its start that are left out. -/
def dropEmptyRanges : List Char → List Char
  | lo :: '-' :: hi :: rest => if hi < lo then dropEmptyRanges rest else lo :: '-' :: hi :: rest
  | s => s

/-- A set, given what stands between the brackets. It is negated by an exclamation mark at its start, or
just after ranges there that are left out. -/
def setOf : List Char → NamePart
  | '!' :: rest => .set true (ranges rest)
  | s =>
    match dropEmptyRanges s with
    | '!' :: rest => .set true (ranges rest)
    | rest => .set false (ranges rest)

/-- What stands before the closing bracket and after it. A bracket at the very start of a set, also after
an exclamation mark, belongs to the set. -/
def untilBracket? (s : List Char) : Option (List Char × List Char) :=
  let (opening, rest) := match s with
    | '!' :: ']' :: rest => (['!', ']'], rest)
    | '!' :: rest => (['!'], rest)
    | ']' :: rest => ([']'], rest)
    | rest => ([], rest)
  match rest.dropWhile (· != ']') with
  | [] => none
  | _ :: after => some (opening ++ rest.takeWhile (· != ']'), after)

/-- Reads a pattern with at most as many parts as the fuel. -/
def itemsOf : Nat → List Char → List NamePart
  | 0, _ => []
  | _, [] => []
  | fuel + 1, '*' :: rest => .star :: itemsOf fuel rest
  | fuel + 1, '?' :: rest => .any :: itemsOf fuel rest
  | fuel + 1, '[' :: rest =>
    match untilBracket? rest with
    | some (set, after) => setOf set :: itemsOf fuel after
    | none => .literal '[' :: itemsOf fuel rest
  | fuel + 1, c :: rest => .literal c :: itemsOf fuel rest

/-- Reads a pattern. -/
def items (pattern : List Char) : List NamePart :=
  itemsOf pattern.length pattern

/-- Whether a part other than a star stands for a character. -/
def NamePart.admits (i : NamePart) (c : Char) : Bool :=
  match i with
  | star => false
  | any => true
  | set negated ranges => negated != ranges.any fun (lo, hi) => lo ≤ c && c ≤ hi
  | literal d => c == d

/-- Whether the parts stand for a name. -/
def fits : List NamePart → List Char → Bool
  | [], s => s.isEmpty
  | .star :: rest, [] => fits rest []
  | .star :: rest, c :: s => fits rest (c :: s) || fits (.star :: rest) s
  | _ :: _, [] => false
  | i :: rest, c :: s => i.admits c && fits rest s
termination_by is s => is.length + s.length

/-- Whether a name fits a pattern. -/
def matchesName (pattern name : List Char) : Bool :=
  fits (items pattern) name

/-- Whether a name fits a pattern when letter case does not count. -/
def matchesFolded (pattern name : List Char) : Bool :=
  matchesName (fold pattern) (fold name)

end EsqlAudit.Files
