/-!
Double-precision numbers as whole numbers times powers of two, and the double nearest to a quotient of
whole numbers.
-/
namespace EsqlAudit.Decimal

/-- How two equally near choices are settled. -/
inductive Tie where
  | even | up

/-- The whole number nearest to `num / den`. -/
def roundDiv (tie : Tie) (num den : Nat) : Nat :=
  let q := num / den
  let twice := 2 * (num % den)
  if twice < den then q
  else if den < twice then q + 1
  else
    match tie with
    | .up => q + 1
    | .even => if q % 2 == 0 then q else q + 1

/-- A finite number `± mantissa * 2 ^ exponent`. -/
structure Binary where
  negative : Bool
  mantissa : Nat
  exponent : Int

/-- What the bits of a double stand for. -/
inductive Decoded where
  | finite (b : Binary)
  | infinite (negative : Bool)
  | notANumber

/-- Reads the bits of a double. -/
def decode (x : Float) : Decoded :=
  let bits : Nat := x.toBits.toNat
  let negative := bits / Nat.pow 2 63 == 1
  let biased : Nat := bits / Nat.pow 2 52 % Nat.pow 2 11
  let fraction : Nat := bits % Nat.pow 2 52
  if biased == 2047 then
    if fraction == 0 then .infinite negative else .notANumber
  else if biased == 0 then .finite ⟨negative, fraction, -1074⟩
  else .finite ⟨negative, fraction + Nat.pow 2 52, (biased : Int) - 1075⟩

/-- `n * 2 ^ e` as a quotient of whole numbers. -/
def scaled (n : Nat) (e : Int) : Nat × Nat :=
  if 0 ≤ e then (n * Nat.pow 2 e.toNat, 1) else (n, Nat.pow 2 (-e).toNat)

/-- The double with the given mantissa below `2 ^ 53` and exponent, if it is in range. -/
def pack (mantissa : Nat) (exponent : Int) : Option Float :=
  if mantissa < Nat.pow 2 52 then some (Float.ofBits (UInt64.ofNat mantissa))
  else if 971 < exponent then none
  else some (Float.ofBits (UInt64.ofNat ((exponent + 1075).toNat * Nat.pow 2 52 + (mantissa - Nat.pow 2 52))))

/-- The double nearest to `num / den`, a tie going to the even mantissa; none if it is too large. -/
def nearest (num den : Nat) : Option Float :=
  if num == 0 then some 0.0
  else
    -- `num / den` lies between a quarter and four times `2 ^ guess`.
    let guess : Int := (Nat.log2 num : Int) - (Nat.log2 den : Int)
    let quotient (e : Int) : Nat × Nat :=
      if 0 ≤ e then (num, den * Nat.pow 2 e.toNat) else (num * Nat.pow 2 (-e).toNat, den)
    let fits (e : Int) : Bool :=
      let (n, d) := quotient e
      Nat.pow 2 52 * d ≤ n
    let free : Int := if fits (guess - 52) then guess - 52 else guess - 53
    let exponent : Int := if free < -1074 then -1074 else free
    let (n, d) := quotient exponent
    let mantissa := roundDiv .even n d
    if mantissa == Nat.pow 2 53 then pack (Nat.pow 2 52) (exponent + 1) else pack mantissa exponent

/-- The double nearest to a whole number; none if it is too large. -/
def ofInt (i : Int) : Option Float :=
  if i < 0 then (nearest i.natAbs 1).map fun x => -x else nearest i.natAbs 1

/-- The double nearest to a decimal `± digits * 10 ^ exponent`, infinite if it is too large. -/
def ofDecimal (negative : Bool) (digits : Nat) (exponent : Int) : Float :=
  let size :=
    if digits == 0 then some 0.0
    else if 400 < exponent then none
    else if exponent + (Nat.log2 digits : Int) < -1200 then some 0.0
    else if 0 ≤ exponent then nearest (digits * Nat.pow 10 exponent.toNat) 1
    else nearest digits (Nat.pow 10 (-exponent).toNat)
  let x := size.getD (1.0 / 0.0)
  if negative then -x else x

end EsqlAudit.Decimal
