import EsqlAudit.Text.Search

/-!
The loop around a position: the nearest loop keyword before it, and the brace that closes the first brace
after the keyword. The keyword is looked for in the 2000 characters before the position only.
-/
namespace EsqlAudit.Cursor
open Text

/-- The starts of loops. -/
def loopPatterns : List Pattern :=
  [("while", "("), ("for", "("), ("do", "\x7b")].map fun (keyword, mark) =>
    .all [.wordEdge, .word keyword, .blanks, .exactly mark]

/-- How far back a loop is looked for. -/
def loopReach : Nat := 2000

/-- The greatest of some positions. -/
def greatest? (positions : List Nat) : Option Nat :=
  positions.foldl (fun best n => some (match best with
    | none => n
    | some b => Nat.max b n)) none

/-- The position of the brace that closes the first brace, reading from position `pos`. -/
def closingBrace? (depth : Int) (opened : Bool) (pos : Nat) : List Char → Option Nat
  | [] => none
  | c :: rest =>
    if c == '\x7b' then closingBrace? (depth + 1) true (pos + 1) rest
    else if c == '\x7d' then
      if opened && depth - 1 == 0 then some pos else closingBrace? (depth - 1) opened (pos + 1) rest
    else closingBrace? depth opened (pos + 1) rest

/-- The loop before a position, which may be counted from the end. A loop that is not closed goes on to
the end of the text. -/
def enclosingLoop? (source : List Char) (pos : Int) : Option Span :=
  let first := (pos - loopReach).toNat
  let preceding := slice source first (position source pos)
  let starts := loopPatterns.flatMap fun p => (p.findAll preceding).map (·.span.start)
  (greatest? starts).map fun start =>
    let begins := first + start
    ⟨begins, (closingBrace? 0 false begins (source.drop begins)).getD source.length⟩

end EsqlAudit.Cursor
