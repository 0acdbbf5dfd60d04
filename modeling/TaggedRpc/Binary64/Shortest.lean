import TaggedRpc.Binary64.Basic

/-!
# Shortest decimals

The decimal with the fewest digits that still rounds to a given double, and of those the nearest to
it; of two equally near ones, the greater. All arithmetic is on natural numbers: the double and the
ends of the interval that rounds to it are fractions over one denominator.
-/

namespace TaggedRpc

/-- A decimal number: `digits` times ten to the power `exponent`. -/
structure Decimal where
  digits : Nat
  exponent : Int
  deriving DecidableEq, Repr

/-- A positive number and the interval of numbers that round to it, as fractions. -/
structure RoundingInterval where
  /-- The numerator of the lower end. -/
  low : Nat
  /-- The numerator of the number itself. -/
  value : Nat
  /-- The numerator of the upper end. -/
  high : Nat
  /-- The common denominator. -/
  denominator : Nat
  /-- Whether the ends themselves round to the number. -/
  closed : Bool
  deriving Repr

namespace RoundingInterval

/-- Whether `digits` times ten to the power `exponent` rounds to the number. -/
def contains (interval : RoundingInterval) (digits : Nat) (exponent : Int) : Bool :=
  let point := digits * Nat.pow 10 exponent.toNat * interval.denominator
  let low := interval.low * Nat.pow 10 (-exponent).toNat
  let high := interval.high * Nat.pow 10 (-exponent).toNat
  if interval.closed then low ≤ point && point ≤ high else low < point && point < high

/-- The greatest multiple of ten to the power `exponent` that is at most the number, and whether the
number is nearer to it than to the next one. -/
def floorOn (interval : RoundingInterval) (exponent : Int) : Nat × Bool :=
  let value := interval.value * Nat.pow 10 (-exponent).toNat
  let unit := interval.denominator * Nat.pow 10 exponent.toNat
  (value / unit, 2 * (value % unit) < unit)

/-- The multiple of ten to the power `exponent` that stands for the number, if one rounds to it. -/
def multipleOn? (interval : RoundingInterval) (exponent : Int) : Option Nat :=
  let (floor, nearFloor) := interval.floorOn exponent
  match interval.contains floor exponent, interval.contains (floor + 1) exponent with
  | true, true => some (if nearFloor then floor else floor + 1)
  | true, false => some floor
  | false, true => some (floor + 1)
  | false, false => none

/-- The number of digits that the number has before its decimal point; zero or less if the first
digit that is not zero comes after it. -/
def wholeDigits (interval : RoundingInterval) : Int :=
  if interval.denominator ≤ interval.value then
    (Nat.toDigits 10 (interval.value / interval.denominator)).length
  else
    1 - (Nat.toDigits 10 ((interval.denominator - 1) / interval.value)).length

/-- The decimal with the fewest digits that rounds to the number. Seventeen digits suffice for every
double. -/
def shortest (interval : RoundingInterval) : Decimal :=
  let found := (List.range 17).findSome? fun (extra : Nat) =>
    let exponent := interval.wholeDigits - 1 - extra
    (interval.multipleOn? exponent).map fun (digits : Nat) => Decimal.mk digits exponent
  found.getD ⟨interval.value / interval.denominator, 0⟩

end RoundingInterval

namespace Binary64

/-- The interval of numbers that round to the magnitude of a finite double other than zero. The
magnitude is `significand` times two to the power `exponent - 1075`. A power of two lies closer to
its lower neighbour than to its upper one, unless it has the least exponent. -/
def roundingInterval (x : Binary64) : RoundingInterval :=
  let significand := x.fractionBits + if x.exponentBits = 0 then 0 else Nat.pow 2 52
  let exponent := max x.exponentBits 1
  let scale := Nat.pow 2 (exponent - 1077)
  { low := (4 * significand - if x.fractionBits = 0 && 1 < x.exponentBits then 1 else 2) * scale
    value := 4 * significand * scale
    high := (4 * significand + 2) * scale
    denominator := Nat.pow 2 (1077 - exponent)
    closed := significand % 2 == 0 }

end Binary64

end TaggedRpc
