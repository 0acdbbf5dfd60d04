import TaggedRpc.Binary64.Shortest

/-!
# Text of doubles

Doubles in positional notation: the shortest decimal that rounds to the number, never with an
exponent, without a decimal point where nothing follows it. The sign of zero is kept.
-/

namespace TaggedRpc

/-- A decimal in positional notation. Zeros at the end of the fraction are dropped, and so is the
point if no fraction is left. -/
def Decimal.positional (d : Decimal) : String :=
  let digits := Nat.toDigits 10 d.digits
  if 0 ≤ d.exponent then
    String.ofList (digits ++ List.replicate d.exponent.toNat '0')
  else
    let places := (-d.exponent).toNat
    let padded := digits.leftpad (places + 1) '0'
    let whole := padded.take (padded.length - places)
    let fraction := (padded.drop (padded.length - places)).reverse.dropWhile (· == '0') |>.reverse
    String.ofList (if fraction.isEmpty then whole else whole ++ '.' :: fraction)

namespace Binary64

/-- The text of a number without its sign. -/
def magnitudeText (x : Binary64) : String :=
  if x.isInfinite then "inf"
  else if x.isZero then "0"
  else x.roundingInterval.shortest.positional

/-- The text of a double. -/
def text (x : Binary64) : String :=
  if x.isNaN then "NaN" else if x.isNegative then "-" ++ x.magnitudeText else x.magnitudeText

end Binary64

end TaggedRpc
