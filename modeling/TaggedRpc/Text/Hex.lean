/-!
# Hexadecimal text

Lower-case hexadecimal spellings of natural numbers and of bytes. A number is written with as few
digits as it needs or padded with zeros to a width; a byte always takes two digits.
-/

namespace TaggedRpc.Text

/-- The digits of a number in base sixteen, without leading zeros. -/
def hexDigits (n : Nat) : List Char := Nat.toDigits 16 n

/-- A number in base sixteen, without leading zeros. -/
def hex (n : Nat) : String := String.ofList (hexDigits n)

/-- A number in base sixteen, with leading zeros up to a width. -/
def hexPadded (width n : Nat) : String := String.ofList ((hexDigits n).leftpad width '0')

/-- The two digits of a byte, high half first. -/
def hexByte (b : UInt8) : List Char := [Nat.digitChar (b.toNat / 16), Nat.digitChar (b.toNat % 16)]

/-- A sequence of bytes, two digits each. -/
def hexBytes (bytes : List UInt8) : String := String.ofList (bytes.flatMap hexByte)

/-- Bytes take two digits each. -/
theorem length_hexBytes (bytes : List UInt8) : (hexBytes bytes).length = 2 * bytes.length := by
  simp only [hexBytes, String.length_ofList]
  induction bytes with
  | nil => rfl
  | cons b rest ih => simp only [List.flatMap_cons, List.length_append, ih, hexByte,
      List.length_cons, List.length_nil]; omega

end TaggedRpc.Text
