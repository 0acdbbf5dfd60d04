import TaggedRpc.Binary64.Basic
import TaggedRpc.Envelope.Basic
import TaggedRpc.Envelope.Read
import TaggedRpc.Wire.Tag

/-!
# Bytes of wire values

The bytes of the parts that messages are made of. A message is its parts one after another. Counts,
lengths and tags are written as they are given, so parts need not fit together.
-/

namespace TaggedRpc

namespace Encode

/-- The last `width` digits of a number in base 256, the most significant first. -/
def digits256 : Nat → Nat → List UInt8
  | 0, _ => []
  | width + 1, n => digits256 width (n / 256) ++ [UInt8.ofNat n]

/-- A number takes as many bytes as it is given. -/
theorem length_digits256 (width n : Nat) : (digits256 width n).length = width := by
  induction width generalizing n with
  | zero => rfl
  | succ width ih => rw [digits256, List.length_append, ih]; rfl

/-- A number in some bytes, the most significant first. -/
def natural (width n : Nat) : ByteArray := (digits256 width n).toByteArray

/-- An unsigned byte. -/
def uint8 (n : UInt8) : ByteArray := natural 1 n.toNat

/-- A signed integer of one byte. -/
def int8 (n : Int8) : ByteArray := natural 1 n.toUInt8.toNat

/-- A signed integer of two bytes. -/
def int16 (n : Int16) : ByteArray := natural 2 n.toUInt16.toNat

/-- A signed integer of four bytes. -/
def int32 (n : Int32) : ByteArray := natural 4 n.toUInt32.toNat

/-- A signed integer of eight bytes. -/
def int64 (n : Int64) : ByteArray := natural 8 n.toUInt64.toNat

/-- A truth value. -/
def bool (b : Bool) : ByteArray := uint8 (if b then 1 else 0)

/-- A double-precision number. -/
def double (x : Binary64) : ByteArray := natural 8 x.bits.toNat

/-- A length or a count. One that does not fit wraps around. -/
def count (n : Nat) : ByteArray := int32 (Int32.ofNat n)

/-- A string of any bytes. -/
def bytes (content : ByteArray) : ByteArray := count content.size ++ content

/-- A string of text. -/
def text (content : String) : ByteArray := bytes content.toUTF8

/-- The header of a field. -/
def fieldHeader (tag : UInt8) (id : Int16) : ByteArray := uint8 tag ++ int16 id

/-- The end of a struct. -/
def stop : ByteArray := uint8 Tag.stop.toByte

/-- The header of a map. -/
def mapHeader (key value : Tag) (size : Int32) : ByteArray :=
  uint8 key.toByte ++ uint8 value.toByte ++ int32 size

/-- The header of a set or a list. -/
def sequenceHeader (item : Tag) (size : Int32) : ByteArray := uint8 item.toByte ++ int32 size

/-- The header of a message. -/
def envelope (e : Envelope) : ByteArray :=
  match e.framing with
  | .strict =>
    natural 4 (Envelope.version ||| e.kind.toByte.toUInt32).toNat ++ text e.method ++
      int32 e.sequenceId
  | .legacy => text e.method ++ uint8 e.kind.toByte ++ int32 e.sequenceId

end Encode

end TaggedRpc
