import EsqlAudit.Text.Basic
import EsqlAudit.Text.Pattern

/-!
Searching a text for a pattern: the reading at a place, the first occurrence, all occurrences that do not
overlap from left to right, and their replacement.
-/
namespace EsqlAudit.Text

/-- An occurrence of a pattern in a text and the stretches of its groups. -/
structure Occurrence where
  span : Span
  groups : List (Nat × Span)

namespace Occurrence

/-- The stretch that group `n` took, if it took part. -/
def group? (o : Occurrence) (n : Nat) : Option Span :=
  o.groups.lookup n

/-- The characters that group `n` took in the text `s`, none if it took no part. -/
def groupText (o : Occurrence) (s : List Char) (n : Nat) : List Char :=
  match o.group? n with
  | some g => slice s g.start g.stop
  | none => []

/-- The characters of the whole occurrence in the text `s`. -/
def text (o : Occurrence) (s : List Char) : List Char :=
  slice s o.span.start o.span.stop

end Occurrence

namespace Pattern

/-- The preferred occurrence that starts at the place. -/
def at? (p : Pattern) (place : Place) : Option Occurrence :=
  p.read ⟨place, []⟩ fun r => some ⟨⟨place.pos, r.place.pos⟩, r.groups⟩

/-- The preferred occurrence at the start of the text. -/
def atStart? (p : Pattern) (s : List Char) : Option Occurrence :=
  p.at? (Place.start s)

/-- The leftmost occurrence at or after a place. -/
def findFrom? (p : Pattern) (before : Option Char) (pos : Nat) : List Char → Option Occurrence
  | [] => p.at? ⟨before, pos, []⟩
  | c :: rest =>
    match p.at? ⟨before, pos, c :: rest⟩ with
    | some o => some o
    | none => findFrom? p (some c) (pos + 1) rest

/-- The leftmost occurrence in the text. -/
def find? (p : Pattern) (s : List Char) : Option Occurrence :=
  p.findFrom? none 0 s

/-- Whether the pattern occurs in the text. -/
def occursIn (p : Pattern) (s : List Char) : Bool :=
  (p.find? s).isSome

/-- The occurrences from a place on, after the next `skip` characters have been passed over. An
occurrence that takes nothing is passed over. -/
def findAllFrom (p : Pattern) (before : Option Char) (pos : Nat) :
    Nat → List Char → List Occurrence
  | _, [] => []
  | skip + 1, c :: rest => findAllFrom p (some c) (pos + 1) skip rest
  | 0, c :: rest =>
    match p.at? ⟨before, pos, c :: rest⟩ with
    | some o =>
      if pos < o.span.stop then o :: findAllFrom p (some c) (pos + 1) (o.span.stop - pos - 1) rest
      else findAllFrom p (some c) (pos + 1) 0 rest
    | none => findAllFrom p (some c) (pos + 1) 0 rest

/-- All occurrences that do not overlap, from left to right. -/
def findAll (p : Pattern) (s : List Char) : List Occurrence :=
  p.findAllFrom none 0 0 s

end Pattern

/-- The text `s`, read from position `pos`, with each stretch replaced. The stretches are in order and
apart. -/
def spliceFrom (pos : Nat) (s : List Char) : List (Span × List Char) → List Char
  | [] => s
  | (span, new) :: rest =>
    s.take (span.start - pos) ++ new ++ spliceFrom span.stop (s.drop (span.stop - pos)) rest

/-- The text with each stretch replaced. -/
def splice (s : List Char) (edits : List (Span × List Char)) : List Char :=
  spliceFrom 0 s edits

/-- The text with every occurrence of the pattern replaced by what `new` makes of it. -/
def Pattern.replaceAll (p : Pattern) (new : Occurrence → List Char) (s : List Char) : List Char :=
  splice s ((p.findAll s).map fun o => (o.span, new o))

end EsqlAudit.Text
