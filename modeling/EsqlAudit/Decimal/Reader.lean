import EsqlAudit.Decimal.Binary
import EsqlAudit.Text.Numeral

/-!
Doubles written in decimal digits of any script, with a point and an exponent. Blanks around a number, a sign
before it and single underscores between digits are allowed.
-/
namespace EsqlAudit.Decimal
open Text

/-- A digit of any script as its value; every other character as it is. -/
inductive Sign where
  | digit (value : Nat)
  | other (c : Char)

def Sign.ofChar (c : Char) : Sign :=
  match digitValue? c with
  | some d => .digit d
  | none => .other c

/-- Takes out the underscores, each of which has to stand between two digits. -/
def dropUnderscores (afterDigit : Bool) : List Sign → Option (List Sign)
  | [] => some []
  | .digit d :: rest => (dropUnderscores true rest).map (.digit d :: ·)
  | .other '_' :: .digit d :: rest =>
    if afterDigit then (dropUnderscores true rest).map (.digit d :: ·) else none
  | .other c :: rest => if c == '_' then none else (dropUnderscores false rest).map (.other c :: ·)

/-- The digits at the front, and what follows them. -/
def takeDigits : List Sign → List Nat × List Sign
  | .digit d :: rest =>
    let (ds, more) := takeDigits rest
    (d :: ds, more)
  | rest => ([], rest)

/-- The number that digits make. -/
def digitsNumber (digits : List Nat) : Nat :=
  digits.foldl (fun n d => n * 10 + d) 0

/-- Reads an exponent up to the end; nothing is an exponent of zero. -/
def readExponent : List Sign → Option Int
  | [] => some 0
  | .other e :: rest =>
    if e != 'e' && e != 'E' then none
    else
      let (negative, digits) := match rest with
        | .other '-' :: more => (true, more)
        | .other '+' :: more => (false, more)
        | more => (false, more)
      match takeDigits digits with
      | ([], _) => none
      | (ds, []) => some (if negative then -(digitsNumber ds : Int) else (digitsNumber ds : Int))
      | _ => none
  | _ => none

/-- Reads digits with a point and an exponent. -/
def readDecimal (negative : Bool) (s : List Sign) : Option Float :=
  let (whole, rest) := takeDigits s
  let (part, rest) := match rest with
    | .other '.' :: more => takeDigits more
    | more => ([], more)
  if whole.isEmpty && part.isEmpty then none
  else
    (readExponent rest).map fun e =>
      ofDecimal negative (digitsNumber (whole ++ part)) (e - (part.length : Int))

/-- Reads a number without a sign. -/
def readUnsigned (negative : Bool) (s : List Char) : Option Float :=
  let word := String.ofList (s.map Char.toLower)
  if word == "inf" || word == "infinity" then some (if negative then -1.0 / 0.0 else 1.0 / 0.0)
  else if word == "nan" then some (0.0 / 0.0)
  else (dropUnderscores false (s.map Sign.ofChar)).bind (readDecimal negative)

/-- Reads a number. -/
def readFloat (s : List Char) : Option Float :=
  match strip s with
  | '-' :: rest => readUnsigned true rest
  | '+' :: rest => readUnsigned false rest
  | rest => readUnsigned false rest

end EsqlAudit.Decimal
