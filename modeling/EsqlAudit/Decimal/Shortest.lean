import EsqlAudit.Decimal.Binary

/-!
The fewest decimal digits that read back as a given double, and their layout.
-/
namespace EsqlAudit.Decimal

/-- The reals that round to a double, as the two ends of an interval over a common denominator. The ends
belong to it when the mantissa is even. -/
structure Interval where
  low : Nat
  high : Nat
  den : Nat
  closed : Bool

/-- The interval of a positive number. Below a power of two the neighbour is half as far. -/
def interval (b : Binary) : Interval :=
  let narrow := b.mantissa == Nat.pow 2 52 && -1074 < b.exponent
  let (n, d) := scaled (4 * b.mantissa) b.exponent
  let (u, _) := scaled 1 b.exponent
  ⟨if narrow then n - u else n - 2 * u, n + 2 * u, 4 * d, b.mantissa % 2 == 0⟩

/-- Whether `digits * 10 ^ e` lies in the interval. -/
def Interval.holds (i : Interval) (digits : Nat) (e : Int) : Bool :=
  let (n, d) := if 0 ≤ e then (digits * Nat.pow 10 e.toNat, 1) else (digits, Nat.pow 10 (-e).toNat)
  let low := i.low * d
  let high := i.high * d
  let x := n * i.den
  if i.closed then low ≤ x && x ≤ high else low < x && x < high

/-- Digits and the power of ten of the last of them. -/
structure Decimals where
  digits : Nat
  exponent : Int

/-- The decimal of the grid `10 ^ e` that reads back: of the two neighbours of the value the nearer one
in the interval, a tie going to the even digit. -/
def onGrid? (b : Binary) (i : Interval) (e : Int) : Option Decimals :=
  let (n, d) := scaled b.mantissa b.exponent
  let (n, d) := if 0 ≤ e then (n, d * Nat.pow 10 e.toNat) else (n * Nat.pow 10 (-e).toNat, d)
  let below := n / d
  let nearer := roundDiv .even n d
  let other := if nearer == below then below + 1 else below
  if i.holds nearer e then some ⟨nearer, e⟩
  else if i.holds other e then some ⟨other, e⟩
  else none

/-- The least power of ten above a positive number, searched upward from `k`. -/
def scaleFrom (n d : Nat) : Nat → Int → Int
  | 0, k => k
  | fuel + 1, k =>
    let below := if 0 ≤ k then n < d * Nat.pow 10 k.toNat else n * Nat.pow 10 (-k).toNat < d
    if below then k else scaleFrom n d fuel (k + 1)

/-- The decimals of the first grid that holds one reading back. Seventeen digits always do; the exact
value stands for the case that no grid does. -/
def shortestDecimals (b : Binary) : Decimals :=
  let i := interval b
  let (n, d) := scaled b.mantissa b.exponent
  -- The power of ten is at least three tenths of the power of two.
  let estimate : Int := (((Nat.log2 n : Int) - (Nat.log2 d : Int) - 1) * 30103) / 100000 - 1
  let k := scaleFrom n d 4 estimate
  let found := (List.range 17).findSome? fun (j : Nat) => onGrid? b i (k - (j : Int) - 1)
  found.getD <|
    if 0 ≤ b.exponent then ⟨b.mantissa * Nat.pow 2 b.exponent.toNat, 0⟩
    else ⟨b.mantissa * Nat.pow 5 (-b.exponent).toNat, b.exponent⟩

/-- Digits without the zeros at their end, and how many there were. -/
def stripZeros (digits : List Char) : List Char × Nat :=
  let kept := (digits.reverse.dropWhile (· == '0')).reverse
  (kept, digits.length - kept.length)

/-- How a number is laid out: positionally when the power of ten of its first digit is at least `least`
and below `limit`, else with an exponent of at least `width` digits. -/
structure Layout where
  least : Int
  limit : Int
  width : Nat

/-- The exponent with its sign. -/
def exponentText (width : Nat) (e : Int) : List Char :=
  let digits := Nat.toDigits 10 e.natAbs
  (if e < 0 then '-' else '+') :: (List.replicate (width - digits.length) '0' ++ digits)

/-- Lays out digits that stand for `0.digits * 10 ^ point`. A whole number keeps one zero after the
point. -/
def Layout.place (f : Layout) (digits : List Char) (point : Int) : List Char :=
  let first := point - 1
  if f.least ≤ first && first < f.limit then
    if point ≤ 0 then '0' :: '.' :: (List.replicate (-point).toNat '0' ++ digits)
    else
      let whole := digits.take point.toNat
      let zeros := List.replicate (point.toNat - whole.length) '0'
      let part := digits.drop point.toNat
      whole ++ zeros ++ '.' :: (if part.isEmpty then ['0'] else part)
  else
    let part := digits.drop 1
    digits.take 1 ++ (if part.isEmpty then [] else '.' :: part) ++ 'e' :: exponentText f.width first

/-- A finite number in the fewest digits. -/
def Layout.finite (f : Layout) (b : Binary) : String :=
  let sign := if b.negative then ['-'] else []
  if b.mantissa == 0 then String.ofList (sign ++ ['0', '.', '0'])
  else
    let s := shortestDecimals b
    let digits := Nat.toDigits 10 s.digits
    let kept := (stripZeros digits).1
    String.ofList (sign ++ f.place kept ((digits.length : Int) + s.exponent))

/-- Numbers of reports: positional from `0.0001` up to, not including, `10 ^ 16`. -/
def Layout.report : Layout := ⟨-4, 16, 2⟩

end EsqlAudit.Decimal
