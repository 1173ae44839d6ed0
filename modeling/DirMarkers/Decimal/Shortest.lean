/-!
The shortest decimal that reads back as a given binary number. A binary number stands for all
numbers that are rounded to it; among the decimals in that interval the ones with the fewest digits
are taken, and of those the nearest to the number itself.
-/

namespace DirMarkers

/-- A positive decimal number: its digits as a whole number, times a power of ten. -/
structure Decimal where
  digits : Nat
  exponent : Int
deriving DecidableEq, Repr

namespace Decimal

def twoTo (n : Nat) : Nat :=
  Nat.pow 2 n

def tenTo (n : Nat) : Nat :=
  Nat.pow 10 n

/-- A positive number given as a fraction, with the interval of the numbers that are rounded to
it, all over one denominator.
-/
structure Interval where
  low : Nat
  value : Nat
  high : Nat
  denominator : Nat
  /-- Whether the ends of the interval belong to it. -/
  closed : Bool
deriving DecidableEq, Repr

/-- The interval of `mantissa` times two to the power of `exponent`. Below a mantissa of only one
bit the next number is nearer, unless there are no smaller exponents.
-/
def Interval.ofBinary (mantissa : Nat) (exponent : Int) (narrow : Bool) : Interval :=
  let scale := exponent - 2
  let up := twoTo scale.toNat
  let below := if narrow then 1 else 2
  ⟨(4 * mantissa - below) * up, 4 * mantissa * up, (4 * mantissa + 2) * up, twoTo (-scale).toNat,
    mantissa % 2 = 0⟩

def Interval.contains (i : Interval) (d : Decimal) : Bool :=
  let number := d.digits * tenTo d.exponent.toNat * i.denominator
  let scale := tenTo (-d.exponent).toNat
  if i.closed then i.low * scale ≤ number && number ≤ i.high * scale
  else i.low * scale < number && number < i.high * scale

/-- The distance of a decimal from the number in the middle, up to a factor that depends on the
exponent alone.
-/
def Interval.distance (i : Interval) (d : Decimal) : Nat :=
  let number := d.digits * tenTo d.exponent.toNat * i.denominator
  let middle := i.value * tenTo (-d.exponent).toNat
  (number - middle) + (middle - number)

/-- The two neighbours of a number among the multiples of a power of ten. -/
def Interval.neighbours (i : Interval) (exponent : Int) : Decimal × Decimal :=
  let below := i.value * tenTo (-exponent).toNat / (i.denominator * tenTo exponent.toNat)
  (⟨below, exponent⟩, ⟨below + 1, exponent⟩)

/-- The better neighbour that lies in the interval, if one does; of two that are equally near, the
even one.
-/
def Interval.onGrid (i : Interval) (exponent : Int) : Option Decimal :=
  let (below, above) := i.neighbours exponent
  match i.contains below, i.contains above with
  | false, false => none
  | true, false => some below
  | false, true => some above
  | true, true =>
    if i.distance below < i.distance above then some below
    else if i.distance above < i.distance below then some above
    else if below.digits % 2 = 0 then some below
    else some above

/-- How many digits stand in front of the decimal point; not positive for a number below one
tenth.
-/
def Interval.magnitude (i : Interval) : Int :=
  if i.denominator ≤ i.value then (Nat.toDigits 10 (i.value / i.denominator)).length
  else 1 - (Nat.toDigits 10 ((i.denominator - 1) / i.value)).length

/-- The first hit among grids of ever more digits; seventeen always suffice. -/
def Interval.shortest (i : Interval) : Decimal :=
  let grids := (List.range 18).map fun (n : Nat) => i.magnitude - Int.ofNat n
  (grids.findSome? i.onGrid).getD ⟨0, 0⟩

/-- Drops zeros at the end of the digits of a decimal. -/
def strip (fuel : Nat) (d : Decimal) : Decimal :=
  match fuel with
  | 0 => d
  | fuel + 1 =>
    if d.digits ≠ 0 && d.digits % 10 = 0 then strip fuel ⟨d.digits / 10, d.exponent + 1⟩
    else d

/-- The interval of a positive finite number, from its bits. -/
def Interval.ofFloat (x : Float) : Interval :=
  let bits := x.toBits.toNat % twoTo 63
  let fraction := bits % twoTo 52
  let biased := bits / twoTo 52
  if biased = 0 then Interval.ofBinary fraction (-1074) false
  else
    Interval.ofBinary (twoTo 52 + fraction) (Int.ofNat biased - 1075)
      (fraction = 0 && 1 < biased)

/-- The shortest decimal that reads back as a positive finite number. -/
def shortest (x : Float) : Decimal :=
  (Interval.ofFloat x).shortest.strip 20

end Decimal

end DirMarkers
