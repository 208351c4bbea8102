/-!
Plain operations on texts: slices by position, pieces between separators, and joining.
Texts are lists of characters, and every position counts characters.
-/
namespace EsqlAudit.Text

/-- The characters from position `start` up to, not including, position `stop`. -/
def slice (s : List Char) (start stop : Nat) : List Char :=
  (s.drop start).take (stop - start)

/-- A position given as an integer: a negative one counts from the end, and both ends are clamped. -/
def position (s : List Char) (i : Int) : Nat :=
  if i < 0 then (s.length + i).toNat else Nat.min i.toNat s.length

/-- Puts a character before the pieces that follow it. -/
def splitStep (sep c : Char) (pieces : List (List Char)) : List (List Char) :=
  if c == sep then [] :: pieces
  else
    match pieces with
    | [] => [[c]]
    | piece :: rest => (c :: piece) :: rest

/-- The pieces between occurrences of `sep`, always at least one. -/
def splitOn (sep : Char) (s : List Char) : List (List Char) :=
  s.foldr (splitStep sep) [[]]

/-- The pieces one after the other with `sep` between them. -/
def joinWith (sep : List Char) : List (List Char) → List Char
  | [] => []
  | [s] => s
  | s :: rest => s ++ sep ++ joinWith sep rest

/-- Whether `part` occurs in the text. -/
def contains (part : List Char) : List Char → Bool
  | [] => part.isEmpty
  | c :: rest => part.isPrefixOf (c :: rest) || contains part rest

end EsqlAudit.Text
