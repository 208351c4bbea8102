import EsqlAudit.Text.Alphanumeric
import EsqlAudit.Text.Blank
import EsqlAudit.Text.LetterCase

/-!
Patterns over texts with a preferred reading. A pattern may fit at a place in several ways; the ways are
ordered (a greedy run prefers to be long, a lazy one to be short, of two alternatives the first is
preferred), and a search reports the most preferred way that lets the whole pattern fit.
-/
namespace EsqlAudit.Text

/-- A place in a text: the character before it, its position, and the characters from it on. -/
structure Place where
  before : Option Char
  pos : Nat
  rest : List Char

/-- The first place of a text. -/
def Place.start (s : List Char) : Place :=
  ⟨none, 0, s⟩

/-- A stretch of a text: its first position and the position after its last character. -/
structure Span where
  start : Nat
  stop : Nat
deriving DecidableEq

inductive Pattern where
  /-- Fits everywhere and takes nothing. -/
  | empty
  /-- One character of a class. -/
  | one (cls : Char → Bool)
  /-- Characters of a class, as many as possible. -/
  | greedy (cls : Char → Bool)
  /-- Characters of a class, as few as possible. -/
  | lazy (cls : Char → Bool)
  /-- One pattern after the other. -/
  | seq (p q : Pattern)
  /-- The first pattern, or else the second. -/
  | alt (p q : Pattern)
  /-- The pattern, and what it takes is remembered under a number. -/
  | group (n : Nat) (p : Pattern)
  /-- Takes nothing, between a word character and something else. -/
  | wordEdge
  /-- Takes nothing, at the start of a line. -/
  | lineStart
  /-- Takes nothing, at the end of a line. -/
  | lineEnd

/-- What has been read so far: the place reached and the groups remembered, the latest first. -/
structure Reading where
  place : Place
  groups : List (Nat × Span)

namespace Place

/-- Whether exactly one of the two characters around the place is a word character. -/
def isWordEdge (p : Place) : Bool :=
  (p.before.map isWord).getD false != (p.rest.head?.map isWord).getD false

def isLineStart (p : Place) : Bool :=
  match p.before with
  | none => true
  | some c => c == '\n'

def isLineEnd (p : Place) : Bool :=
  match p.rest with
  | [] => true
  | c :: _ => c == '\n'

end Place

/-- Tries the longest run of the class first and gives back one character at a time. -/
def greedyRun {α : Type} (cls : Char → Bool) (groups : List (Nat × Span))
    (next : Reading → Option α) : Option Char → Nat → List Char → Option α
  | before, pos, [] => next ⟨⟨before, pos, []⟩, groups⟩
  | before, pos, c :: rest =>
    if cls c then
      match greedyRun cls groups next (some c) (pos + 1) rest with
      | some a => some a
      | none => next ⟨⟨before, pos, c :: rest⟩, groups⟩
    else next ⟨⟨before, pos, c :: rest⟩, groups⟩

/-- Tries the empty run first and takes one more character of the class at a time. -/
def lazyRun {α : Type} (cls : Char → Bool) (groups : List (Nat × Span))
    (next : Reading → Option α) : Option Char → Nat → List Char → Option α
  | before, pos, [] => next ⟨⟨before, pos, []⟩, groups⟩
  | before, pos, c :: rest =>
    match next ⟨⟨before, pos, c :: rest⟩, groups⟩ with
    | some a => some a
    | none => if cls c then lazyRun cls groups next (some c) (pos + 1) rest else none

namespace Pattern

/-- Reads the pattern at a place and goes on with `next`; where that fails, the next way to read the
pattern is tried. -/
def read {α : Type} : Pattern → Reading → (Reading → Option α) → Option α
  | .empty, r, next => next r
  | .one cls, r, next =>
    match r.place.rest with
    | [] => none
    | c :: rest => if cls c then next ⟨⟨some c, r.place.pos + 1, rest⟩, r.groups⟩ else none
  | .greedy cls, r, next => greedyRun cls r.groups next r.place.before r.place.pos r.place.rest
  | .lazy cls, r, next => lazyRun cls r.groups next r.place.before r.place.pos r.place.rest
  | .seq p q, r, next => read p r fun r' => read q r' next
  | .alt p q, r, next =>
    match read p r next with
    | some a => some a
    | none => read q r next
  | .group n p, r, next =>
    read p r fun r' => next { r' with groups := (n, ⟨r.place.pos, r'.place.pos⟩) :: r'.groups }
  | .wordEdge, r, next => if r.place.isWordEdge then next r else none
  | .lineStart, r, next => if r.place.isLineStart then next r else none
  | .lineEnd, r, next => if r.place.isLineEnd then next r else none

/-- A keyword, without regard to letter case. -/
def word (w : String) : Pattern :=
  w.toList.foldr (fun c p => .seq (.one fun d => caseKey d == caseKey c) p) .empty

/-- A text, letter for letter. -/
def exactly (w : String) : Pattern :=
  w.toList.foldr (fun c p => .seq (.one (· == c)) p) .empty

/-- The patterns one after the other. -/
def all (ps : List Pattern) : Pattern :=
  ps.foldr .seq .empty

/-- The first of the patterns that fits. -/
def any : List Pattern → Pattern
  | [] => .one fun _ => false
  | [p] => p
  | p :: ps => .alt p (any ps)

/-- The pattern if it fits, else nothing. -/
def optional (p : Pattern) : Pattern :=
  .alt p .empty

/-- At least one character of the class, as many as possible. -/
def many1 (cls : Char → Bool) : Pattern :=
  .seq (.one cls) (.greedy cls)

/-- White space, possibly none. -/
def blanks : Pattern := .greedy isBlank

/-- White space, at least one character. -/
def blanks1 : Pattern := many1 isBlank

/-- Word characters, at least one. -/
def word1 : Pattern := many1 isWord

end Pattern

/-- Everything but the line end. -/
def notNewline (c : Char) : Bool := c != '\n'

end EsqlAudit.Text
