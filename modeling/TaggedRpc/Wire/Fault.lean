import TaggedRpc.Text.Hex

/-!
# Wire faults

What can be wrong with bytes on the wire, and the sentence for each. Only a truncation can be cured
by more input.
-/

namespace TaggedRpc

/-- What is wrong with the bytes at some place of a buffer. -/
inductive Fault where
  /-- A read at `offset` needs more bytes than the buffer still has. -/
  | truncated (offset needed available : Nat)
  /-- A length on the wire is negative. -/
  | negativeLength (length : Int32)
  /-- A length on the wire is above a ceiling. -/
  | lengthTooLarge (length ceiling : Nat)
  /-- A versioned header carries a version that is not supported. -/
  | unsupportedVersion (version : UInt32)
  /-- A value cannot be stepped over because its tag byte says nothing about its size. -/
  | unknownType (tag : UInt8)
  /-- A value cannot be stepped over because it opens more containers than allowed. -/
  | skipDepthExceeded (limit : Nat)
  deriving DecidableEq, Repr

namespace Fault

/-- The sentence for a fault. -/
def message : Fault → String
  | truncated offset needed available =>
    s!"unexpected end of buffer at offset {offset}: needed {needed} bytes, {available} available"
  | negativeLength length => s!"invalid length prefix: {length.toInt}"
  | lengthTooLarge length ceiling => s!"length {length} exceeds maximum {ceiling}"
  | unsupportedVersion version =>
    "unsupported protocol version: 0x" ++ Text.hexPadded 8 version.toNat
  | unknownType tag => s!"cannot skip value with unknown type tag {tag.toNat}"
  | skipDepthExceeded limit => s!"maximum nesting depth {limit} exceeded while skipping value"

/-- Whether the fault is that the buffer ended early. -/
def isTruncation : Fault → Bool
  | truncated .. => true
  | _ => false

end Fault

end TaggedRpc
