/-!
# Double-precision numbers

Double-precision numbers as their 64 bits: one for the sign, eleven for the exponent, fifty-two for
the fraction. Equality of bits and equality of numbers differ: a NaN is no number
(`sameNumber_self_iff`), and the two zeros are one.
-/

namespace TaggedRpc

/-- A double-precision number in the IEEE-754 binary format. -/
structure Binary64 where
  /-- The bits, the sign first. -/
  bits : UInt64
  deriving DecidableEq, Repr

namespace Binary64

/-- Whether the sign bit is set. -/
def isNegative (x : Binary64) : Bool := x.bits.toNat / Nat.pow 2 63 == 1

/-- The eleven bits of the exponent. -/
def exponentBits (x : Binary64) : Nat := x.bits.toNat / Nat.pow 2 52 % Nat.pow 2 11

/-- The fifty-two bits of the fraction. -/
def fractionBits (x : Binary64) : Nat := x.bits.toNat % Nat.pow 2 52

/-- Whether the exponent is the one that infinities and NaNs share. -/
def isSpecial (x : Binary64) : Bool := x.exponentBits == 2047

/-- Whether this is not a number. -/
def isNaN (x : Binary64) : Bool := x.isSpecial && x.fractionBits != 0

/-- Whether this is one of the two infinities. -/
def isInfinite (x : Binary64) : Bool := x.isSpecial && x.fractionBits == 0

/-- Whether this is one of the two zeros. -/
def isZero (x : Binary64) : Bool := x.exponentBits == 0 && x.fractionBits == 0

/-- Whether two doubles are the same number. -/
def sameNumber (x y : Binary64) : Bool :=
  !x.isNaN && !y.isNaN && (x == y || (x.isZero && y.isZero))

/-- A double is the same number as itself exactly when it is a number. -/
theorem sameNumber_self_iff (x : Binary64) : x.sameNumber x ↔ x.isNaN = false := by
  simp [sameNumber]

end Binary64

end TaggedRpc
