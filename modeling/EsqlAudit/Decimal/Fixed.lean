import EsqlAudit.Decimal.Binary

/-!
Numbers with a set number of decimal places. The exact value of the double is rounded, and a tie goes to
the even last digit.
-/
namespace EsqlAudit.Decimal

/-- The nearest multiple of `10 ^ -places` to a finite number's size, counted in such units. -/
def unitsOf (places : Nat) (b : Binary) : Nat :=
  let (n, d) := scaled b.mantissa b.exponent
  roundDiv .even (n * Nat.pow 10 places) d

/-- A text filled with zeros on the left up to a width. -/
def padZeros (width : Nat) (digits : List Char) : List Char :=
  List.replicate (width - digits.length) '0' ++ digits

/-- A count of units of `10 ^ -places` in decimal digits. -/
def unitsText (places units : Nat) : String :=
  let digits := padZeros (places + 1) (Nat.toDigits 10 units)
  let whole := digits.take (digits.length - places)
  let part := digits.drop (digits.length - places)
  String.ofList (if places == 0 then whole else whole ++ '.' :: part)

/-- A number with a set number of decimal places. -/
def fixed (places : Nat) (x : Float) : String :=
  match decode x with
  | .finite b => (if b.negative then "-" else "") ++ unitsText places (unitsOf places b)
  | .infinite negative => if negative then "-inf" else "inf"
  | .notANumber => "nan"

/-- The double nearest to a number rounded to a set number of decimal places. -/
def roundTo (places : Nat) (x : Float) : Float :=
  match decode x with
  | .finite b =>
    let size := (nearest (unitsOf places b) (Nat.pow 10 places)).getD x
    if b.negative then -size else size
  | _ => x

/-- The whole part of a number. -/
def truncate (x : Float) : Int :=
  match decode x with
  | .finite b =>
    let (n, d) := scaled b.mantissa b.exponent
    if b.negative then -((n / d : Nat) : Int) else ((n / d : Nat) : Int)
  | _ => 0

/-- Digits with a comma before every group of three, from the right. -/
def groupThousands (digits : List Char) : List Char :=
  let n := digits.length
  (digits.zipIdx.map fun (c, i) =>
    if i != 0 && (n - i) % 3 == 0 then [',', c] else [c]).flatten

/-- A whole number with its digits in groups of three. -/
def grouped (i : Int) : String :=
  let size := String.ofList (groupThousands (Nat.toDigits 10 i.natAbs))
  if i < 0 then "-" ++ size else size

end EsqlAudit.Decimal
