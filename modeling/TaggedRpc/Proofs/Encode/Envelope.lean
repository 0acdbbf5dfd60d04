import TaggedRpc.Proofs.Encode.Reads

/-!
# Round trip of envelopes

The header of a message is read back in both layouts, if its method is not above the ceiling for
strings. A method may be any bytes (`takes_header`). One that is text is read back as it is, and so
is a kind that is the kind of some byte (`takes_read`).
-/

namespace TaggedRpc

/-- The header of a message in a layout, whose method is any bytes and whose kind is any byte. -/
def Encode.header (framing : Framing) (method : ByteArray) (kind : UInt8) (sequenceId : Int32) :
    ByteArray :=
  match framing with
  | .strict =>
    natural 4 (Envelope.version ||| kind.toUInt32).toNat ++ bytes method ++ int32 sequenceId
  | .legacy => bytes method ++ uint8 kind ++ int32 sequenceId

namespace Envelope

variable {buf : ByteArray}

private theorem word_of_kind (b : UInt8) :
    (version ||| b.toUInt32).toInt32 < 0 ∧ (version ||| b.toUInt32) &&& versionMask = version ∧
      (version ||| b.toUInt32).toUInt8 = b := by
  have all : ∀ n : Fin 256, (version ||| (UInt8.ofNat n).toUInt32).toInt32 < 0 ∧
      (version ||| (UInt8.ofNat n).toUInt32) &&& versionMask = version ∧
        (version ||| (UInt8.ofNat n).toUInt32).toUInt8 = UInt8.ofNat n := by
    decide +kernel
  have one := all ⟨b.toNat, b.toNat_lt⟩
  rw [UInt8.ofNat_toNat] at one
  exact one

section Header

variable {method : ByteArray} (fits : method.size ≤ Read.stringCeiling) (kind : UInt8)
  (sequenceId : Int32)

include fits

private theorem takes_strict :
    Read.Takes (read : Read buf Envelope) (Encode.header .strict method kind sequenceId)
      ⟨Text.ofBytes method, .ofByte kind, sequenceId, .strict⟩ := by
  obtain ⟨negative, versioned, last⟩ := word_of_kind kind
  have word : Read.Takes (Read.int32 : Read buf Int32)
      (Encode.natural 4 (version ||| kind.toUInt32).toNat) (version ||| kind.toUInt32).toInt32 :=
    Read.takes_number (UInt32.toNat_lt _) (Int32.toBitVec_inj.mp (BitVec.ofNat_toNat 32 _))
  unfold Encode.header
  dsimp only
  rw [ByteArray.append_assoc]
  apply word.bind
  rw [if_pos negative]
  unfold readStrict
  dsimp only
  rw [UInt32.toUInt32_toInt32, if_neg (not_not_intro versioned)]
  apply (Read.takes_binary fits).bind
  apply (Read.takes_int32 sequenceId).map
  rw [kindOfWord, last]

private theorem takes_legacy :
    Read.Takes (read : Read buf Envelope) (Encode.header .legacy method kind sequenceId)
      ⟨Text.ofBytes method, .ofByte kind, sequenceId, .legacy⟩ := by
  have short : method.size ≤ Read.countCeiling := Nat.le_trans fits (by decide)
  unfold Encode.header Encode.bytes
  dsimp only
  rw [ByteArray.append_assoc, ByteArray.append_assoc]
  apply (Read.takes_int32 _).bind
  rw [if_neg (Read.not_ofNat_neg short), Read.toNatClampNeg_ofNat short]
  unfold readLegacy
  dsimp only
  rw [if_neg (Nat.not_lt_of_le fits)]
  apply (Read.takes_bytes method).bind
  apply (Read.takes_uint8 kind).bind
  exact (Read.takes_int32 sequenceId).map rfl

/-- A header of any bytes is read back, as far as its method is text. -/
theorem takes_header (framing : Framing) :
    Read.Takes (read : Read buf Envelope) (Encode.header framing method kind sequenceId)
      ⟨Text.ofBytes method, .ofByte kind, sequenceId, framing⟩ := by
  cases framing with
  | strict => exact takes_strict fits kind sequenceId
  | legacy => exact takes_legacy fits kind sequenceId

end Header

/-- A header is read back. -/
theorem takes_read {envelope : Envelope}
    (method : envelope.method.utf8ByteSize ≤ Read.stringCeiling)
    (known : ∃ b, Kind.ofByte b = envelope.kind) :
    Read.Takes (read : Read buf Envelope) (Encode.envelope envelope) envelope := by
  have takes : Read.Takes (read : Read buf Envelope) (Encode.envelope envelope)
      ⟨Text.ofBytes envelope.method.toUTF8, .ofByte envelope.kind.toByte, envelope.sequenceId,
        envelope.framing⟩ := takes_header method _ _ _
  rwa [Text.ofBytes_toUTF8, (Kind.ofByte_toByte_iff envelope.kind).mpr known] at takes

end Envelope

end TaggedRpc
