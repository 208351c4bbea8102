/-!
How alike two texts are: the share of their characters that lie in common runs, where the longest common run
is taken first and then the runs on both sides of it.
-/
namespace EsqlAudit.Text

/-- The number of characters that two texts share at their starts. -/
def sharedStart : List Char → List Char → Nat
  | a :: as, b :: bs => if a == b then sharedStart as bs + 1 else 0
  | _, _ => 0

/-- A run of characters that stands in two texts. -/
structure CommonRun where
  first : Nat
  second : Nat
  length : Nat

/-- The longest common run; of several, the one that comes first in the first text, then in the second. -/
def longestRun (a b : List Char) : CommonRun :=
  (List.range a.length).foldl (fun best i =>
    (List.range b.length).foldl (fun best j =>
      let n := sharedStart (a.drop i) (b.drop j)
      if best.length < n then ⟨i, j, n⟩ else best) best) ⟨0, 0, 0⟩

/-- The number of characters in common runs. -/
def matched (a b : List Char) : Nat :=
  match longestRun a b with
  | ⟨i, j, n⟩ =>
    if n = 0 ∨ a.length ≤ i then 0
    else n + matched (a.take i) (b.take j) + matched (a.drop (i + n)) (b.drop (j + n))
termination_by a.length
decreasing_by
  all_goals
    simp only [List.length_take, List.length_drop] at *
    omega

/-- How alike a text is to another: twice the characters in common runs, out of all characters. -/
structure Likeness where
  text : List Char
  common : Nat
  total : Nat

/-- The likeness of a text to a word. -/
def likeness (word text : List Char) : Likeness :=
  ⟨text, 2 * matched text word, text.length + word.length⟩

/-- Whether at least six characters of ten are in common runs. -/
def Likeness.isClose (l : Likeness) : Bool := decide (6 * l.total ≤ 10 * l.common)

/-- The more alike comes first; of texts that are equally alike, the greater one. -/
def Likeness.before (l r : Likeness) : Bool :=
  if l.common * r.total == r.common * l.total then
    !decide (String.ofList l.text < String.ofList r.text)
  else decide (r.common * l.total < l.common * r.total)

/-- The three texts that are most alike to a word, as far as they are close to it. -/
def closeTo (word : List Char) (texts : List (List Char)) : List (List Char) :=
  ((((texts.map (likeness word)).filter Likeness.isClose).mergeSort Likeness.before).take 3).map
    (·.text)

end EsqlAudit.Text
