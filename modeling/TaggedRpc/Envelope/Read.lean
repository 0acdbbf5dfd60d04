import TaggedRpc.Envelope.Basic
import TaggedRpc.Wire.Read

/-!
# Reading envelopes

A header starts with four bytes. If they are a negative number, they are a version and a kind, and
the method with its length and the sequence number follow. Otherwise they are the length of the
method, and the method, the kind and the sequence number follow.
-/

namespace TaggedRpc

namespace Envelope

/-- The part of the first word that says the version. -/
def versionMask : UInt32 := 0xffff0000

/-- The version that is supported. -/
def version : UInt32 := 0x80010000

/-- The kind that a versioned first word says: its last byte. -/
def kindOfWord (word : UInt32) : Kind := .ofByte word.toUInt8

variable {buf : ByteArray}

/-- Read the rest of a header whose first word says the version and the kind. -/
def readStrict (word : UInt32) : Read buf Envelope := do
  if word &&& versionMask ≠ version then
    throw (.unsupportedVersion (word &&& versionMask))
  let method ← Read.string
  let sequenceId ← Read.int32
  return ⟨method, kindOfWord word, sequenceId, .strict⟩

/-- Read the rest of a header whose first word is the length of the method. -/
def readLegacy (length : Nat) : Read buf Envelope := do
  if Read.stringCeiling < length then
    throw (.lengthTooLarge length Read.stringCeiling)
  let method ← Read.bytes length
  let kind ← Read.uint8
  let sequenceId ← Read.int32
  return ⟨Text.ofBytes method, .ofByte kind, sequenceId, .legacy⟩

/-- Read a header. A header that cannot be read leaves the cursor at the part that fails. -/
def read : Read buf Envelope := do
  let word ← Read.int32
  if word < 0 then readStrict word.toUInt32 else readLegacy word.toNatClampNeg

end Envelope

end TaggedRpc
