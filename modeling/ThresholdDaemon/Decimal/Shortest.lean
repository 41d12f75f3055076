/-!
# Shortest decimal digits of a binary fraction

A finite positive binary floating-point number stands for the interval of reals that round to
it. Its shortest decimal digits are the fewest digits that name a point of that interval, and of
those the nearest to the number. For each count of digits only the two neighbours of the number
on the grid of that many digits can be nearest, so both are tested, in exact arithmetic.
-/
namespace ThresholdDaemon.Decimal

/-- A positive number `digits · 10 ^ exponent` in decimal. -/
structure Scientific where
  /-- The digits as a number. -/
  digits : Nat
  /-- The power of ten of the last digit. -/
  exponent : Int
  deriving DecidableEq, Repr

/-- The number of decimal digits of a number. -/
def digitCount (n : Nat) : Nat := (Nat.toDigits 10 n).length

/-- A positive binary number and the interval of reals that round to it, all over one
denominator. -/
structure Interval where
  /-- The number itself. -/
  value : Nat
  /-- The lower end. -/
  low : Nat
  /-- The upper end. -/
  high : Nat
  /-- The common denominator. -/
  denominator : Nat
  /-- The ends themselves round to the number. -/
  closed : Bool
  deriving Repr

namespace Interval

/-- The interval of `mantissa · 2 ^ exponent`. The lower end is nearer when the number below has
a smaller exponent, which `narrow` says. -/
def ofBinary (mantissa : Nat) (exponent : Int) (narrow : Bool) : Interval :=
  let up := exponent.toNat
  let down := (-exponent).toNat
  { value := 4 * mantissa * Nat.pow 2 up
    low := (4 * mantissa - (if narrow then 1 else 2)) * Nat.pow 2 up
    high := (4 * mantissa + 2) * Nat.pow 2 up
    denominator := 4 * Nat.pow 2 down
    closed := mantissa % 2 = 0 }

/-- A point of the interval, given over the same denominator after both are scaled. -/
def contains (interval : Interval) (point scale : Nat) : Bool :=
  if interval.closed then interval.low * scale ≤ point && point ≤ interval.high * scale
  else interval.low * scale < point && point < interval.high * scale

/-- The power of ten of the first decimal digit of the number. -/
def leadingExponent (interval : Interval) : Int :=
  let whole := interval.value / interval.denominator
  if whole ≠ 0 then (digitCount whole : Int) - 1
  else
    let inverse := (interval.denominator + interval.value - 1) / interval.value
    0 - (digitCount (inverse - 1) : Int)

/-- The point of the interval on the grid of this many digits that is nearest to the number; of
two at the same distance the one with the even last digit. -/
def onGrid? (interval : Interval) (count : Nat) : Option Scientific :=
  let exponent := interval.leadingExponent - (count : Int) + 1
  let up := Nat.pow 10 exponent.toNat
  let down := Nat.pow 10 (-exponent).toNat
  let unit := interval.denominator * up
  let value := interval.value * down
  let below := value / unit
  let above := below + 1
  let fits (digits : Nat) : Bool := digits ≠ 0 && interval.contains (digits * unit) down
  let toBelow := value - below * unit
  let toAbove := above * unit - value
  let belowFirst := toBelow < toAbove || (toBelow = toAbove && below % 2 = 0)
  if fits below && (belowFirst || !fits above) then some ⟨below, exponent⟩
  else if fits above then some ⟨above, exponent⟩
  else none

/-- The first grid, from `count` digits on, that meets the interval. -/
def searchFrom (interval : Interval) : (fuel count : Nat) → Scientific
  | 0, _ => ⟨0, 0⟩
  | fuel + 1, count => (interval.onGrid? count).getD (searchFrom interval fuel (count + 1))

end Interval

/-- A positive number without the zeros at the end of its digits. -/
def Scientific.trim (fuel : Nat) (number : Scientific) : Scientific :=
  match fuel with
  | 0 => number
  | fuel + 1 =>
    if number.digits ≠ 0 ∧ number.digits % 10 = 0 then
      trim fuel ⟨number.digits / 10, number.exponent + 1⟩
    else number

/-- The leading bit of the mantissa of a normal double, which its bits do not hold. -/
def hiddenBit : Nat := 4503599627370496

/-- The shortest digits of a finite positive double, given by its bits: seventeen digits always
reach the interval. -/
def shortest (bits : UInt64) : Scientific :=
  let raw := bits.toNat
  let fraction : Nat := raw % hiddenBit
  let biased : Nat := raw / hiddenBit % 2048
  let interval :=
    if biased = 0 then Interval.ofBinary fraction (-1074) false
    else
      Interval.ofBinary (hiddenBit + fraction) ((biased : Int) - 1075)
        (fraction = 0 && 1 < biased)
  (interval.searchFrom 17 1).trim 20

end ThresholdDaemon.Decimal
