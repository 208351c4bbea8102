import EsqlAudit.Text.Blank
import EsqlAudit.Text.CaseTable

/-!
Upper case, lower case and case folding of whole texts, and the key under which a keyword is compared
without regard to case.
-/
namespace EsqlAudit.Text

/-- The code point that the first run holding `n` gives for it. -/
def shiftBy : List CaseRun → Nat → Option Nat
  | [], _ => none
  | r :: rest, n =>
    if r.first ≤ n && n ≤ r.last && (n - r.first) % r.stride == 0 then some (n + r.shift).toNat
    else shiftBy rest n

/-- The other case of a letter: its expansion, else the letter its run leads to, else itself. -/
def otherCase (runs : List CaseRun) (expansions : List (Nat × List Nat)) (c : Char) : List Char :=
  match expansions.find? (·.1 == c.toNat) with
  | some (_, cs) => cs.map Char.ofNat
  | none => [((shiftBy runs c.toNat).map Char.ofNat).getD c]

def upperChar (c : Char) : List Char :=
  if c.toNat < 128 then [c.toUpper] else otherCase upperRuns upperExpansions c

def lowerChar (c : Char) : List Char :=
  if c.toNat < 128 then [c.toLower] else otherCase lowerRuns lowerExpansions c

def foldChar (c : Char) : List Char :=
  if c.toNat < 128 then [c.toLower] else otherCase foldRuns foldExpansions c

/-- The text with every letter in upper case. -/
def upper (s : List Char) : List Char :=
  s.flatMap upperChar

/-- The text with every letter folded, so that texts differing only in case become equal. -/
def fold (s : List Char) : List Char :=
  s.flatMap foldChar

def isCased (c : Char) : Bool :=
  if c.toNat < 128 then c.isAlpha else inRanges casedRanges c.toNat

def isCaseIgnorable (c : Char) : Bool :=
  if c.toNat < 128 then c == '\'' || c == '.' || c == ':' || c == '^' || c == '\x60'
  else inRanges caseIgnorableRanges c.toNat

/-- Whether the nearest character that is no mark inside the word is a cased letter. -/
def nextIsCased (s : List Char) : Bool :=
  match s.dropWhile isCaseIgnorable with
  | [] => false
  | c :: _ => isCased c

/-- Lower case of the rest of a text, given the characters before it from the nearest on. A capital
sigma that ends a word becomes the final form. -/
def lowerAfter : List Char → List Char → List Char
  | _, [] => []
  | before, c :: rest =>
    let here :=
      if c == 'Σ' then [if nextIsCased before && !nextIsCased rest then 'ς' else 'σ']
      else lowerChar c
    here ++ lowerAfter (c :: before) rest

/-- The text with every letter in lower case. -/
def lower (s : List Char) : List Char :=
  lowerAfter [] s

/-- Two characters are the same letter of a keyword when their keys agree: the lower-case letter, where
the dotted capital and the dotless small `i` count as `i`, and the long `s` as `s`. -/
def caseKey (c : Char) : Char :=
  if c.toNat < 128 then c.toLower
  else if c == 'İ' || c == 'ı' then 'i'
  else if c == 'ſ' then 's'
  else ((shiftBy lowerRuns c.toNat).map Char.ofNat).getD c

end EsqlAudit.Text
