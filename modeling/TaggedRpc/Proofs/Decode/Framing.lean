import TaggedRpc.Proofs.Decode.Consumed
import TaggedRpc.Proofs.Decode.InStep
import TaggedRpc.Proofs.Encode.Envelope

/-!
# The layout of a header

A body means the same behind a header in either layout (`decode_framing`). The two layouts differ by
three bytes, so the offsets in the texts of faults may differ as well, but nothing else does,
whether the body is well formed or not. In a complete message no text says an offset.
-/

namespace TaggedRpc

variable {limits : Limits} {registry : Option Registry} {buf buf' : ByteArray} {shift : Nat}

private theorem Encode.size_header_strict (method : ByteArray) (kind : UInt8) (sequenceId : Int32) :
    (header .strict method kind sequenceId).size =
      (header .legacy method kind sequenceId).size + 3 := by
  unfold header int32 uint8
  simp only [ByteArray.size_append, size_natural]
  omega

/-- Two places with the same bytes behind them in buffers of two sizes. -/
theorem Cursor.continues_of_rest {c : Cursor buf} {d : Cursor buf'} (same : d.rest = c.rest)
    (size : buf'.size = buf.size + shift) : c.Continues shift [] d := by
  refine ⟨?_, by rw [same, List.append_nil]⟩
  have before := c.pos_add_remaining
  have before' := d.pos_add_remaining
  rw [← length_rest] at before before'
  rw [same] at before'
  omega

private theorem Labels.hidesShift_withoutTexts : withoutTexts.HidesShift shift := fun _ => rfl

/-- A message behind a header in any layout is decoded. -/
theorem decode_header (limits : Limits) (registry : Option Registry) {method : ByteArray}
    (fits : method.size ≤ Read.stringCeiling) (framing : Framing) (kind : UInt8)
    (sequenceId : Int32) (rest : ByteArray) :
    ∃ c : Cursor (Encode.header framing method kind sequenceId ++ rest),
      c.rest = rest.data.toList ∧
        decode limits registry (Encode.header framing method kind sequenceId ++ rest) =
          .ok (Decoder.messageBehind limits registry
            ⟨Text.ofBytes method, .ofByte kind, sequenceId, framing⟩ c) := by
  obtain ⟨c, header, -, behind⟩ := (Envelope.takes_header fits kind sequenceId framing).start
  exact ⟨c, behind, decode_eq_ok_iff.mpr ⟨_, c, header, rfl⟩⟩

/-- Two messages with the same body, the first one behind a header with a version, the second one
behind a header without one. -/
structure Message.Reframed (strict legacy : Message) : Prop where
  envelope : legacy.envelope = { strict.envelope with framing := .legacy }
  protocol : strict.protocol = legacy.protocol
  nameSource : strict.nameSource = legacy.nameSource
  bytesConsumed : strict.bytesConsumed = legacy.bytesConsumed + 3
  totalBytes : strict.totalBytes = legacy.totalBytes + 3
  fields : strict.fields.withoutTexts = legacy.fields.withoutTexts

namespace Decoder

variable {envelope : Envelope} {c : Cursor buf} {d : Cursor buf'}

/-- Behind two headers the same body is decoded to the same message, but for texts and sizes. -/
theorem reframed (place : c.Continues 3 [] d) (size : buf'.size = buf.size + 3) :
    (messageBehind limits registry envelope d).Reframed
      (messageBehind limits registry { envelope with framing := .legacy } c) := by
  have paired := paired_body Labels.hidesShift_withoutTexts limits registry registry
    { envelope with framing := .legacy } envelope place
  cases paired with
  | ok same near =>
    constructor
    · rfl
    · rfl
    · rfl
    · exact near.place.pos
    · exact size
    · exact (same.2 (.refl _ _)).symm

private theorem fields_eq_of_complete (skips : limits.skipUnbuilt) (place : c.Continues shift [] d)
    (complete : (messageBehind limits registry envelope d).fields.incomplete = none) :
    (messageBehind limits registry envelope d).fields =
      (messageBehind limits registry { envelope with framing := .legacy } c).fields := by
  have paired := paired_body Labels.hidesShift_withoutTexts limits registry registry envelope
    envelope place
  have kept : (body limits registry envelope c).2.desync = none := by
    cases paired with
    | ok _ near =>
      have final := complete_iff.mp complete
      rw [near.desync, Option.map_eq_none_iff] at final
      exact final
  exact (body_of_complete skips place kept).1

end Decoder

/-- The two layouts of the header are interchangeable. For every method of bytes that are not above
the ceiling for strings, every kind, every sequence number and every body, well formed or not, both
messages are decoded: to the same method, kind, sequence number and names, with three more bytes in
the versioned one, and to trees that differ in the texts of faults only. If the versioned message is
complete the trees are the same. -/
theorem decode_framing (limits : Limits) (registry : Option Registry) (method : ByteArray)
    (fits : method.size ≤ Read.stringCeiling) (kind : UInt8) (sequenceId : Int32)
    (rest : ByteArray) :
    ∃ strict legacy : Message,
      decode limits registry (Encode.header .strict method kind sequenceId ++ rest) = .ok strict ∧
      decode limits registry (Encode.header .legacy method kind sequenceId ++ rest) = .ok legacy ∧
      strict.envelope = ⟨Text.ofBytes method, .ofByte kind, sequenceId, .strict⟩ ∧
      strict.Reframed legacy ∧
      (limits.skipUnbuilt → strict.fields.incomplete = none → strict.fields = legacy.fields) := by
  obtain ⟨d, behind', decoded'⟩ := decode_header limits registry fits .strict kind sequenceId rest
  obtain ⟨c, behind, decoded⟩ := decode_header limits registry fits .legacy kind sequenceId rest
  have size : (Encode.header .strict method kind sequenceId ++ rest).size =
      (Encode.header .legacy method kind sequenceId ++ rest).size + 3 := by
    rw [ByteArray.size_append, ByteArray.size_append, Encode.size_header_strict]
    omega
  -- The headers differ by three bytes, and the same bytes are behind them.
  have place : c.Continues 3 [] d := Cursor.continues_of_rest (behind'.trans behind.symm) size
  refine ⟨_, _, decoded', decoded, rfl, Decoder.reframed place size, ?_⟩
  exact fun skips complete => Decoder.fields_eq_of_complete skips place complete

/-- A body of one short integer behind a method that is not text. -/
theorem decode_binaryMethod :
    ∃ strict legacy : Message,
      decode {} none (Encode.header .strict ⟨#[255]⟩ 1 7 ++ ⟨#[6, 0, 1, 0, 5, 0]⟩) = .ok strict ∧
      decode {} none (Encode.header .legacy ⟨#[255]⟩ 1 7 ++ ⟨#[6, 0, 1, 0, 5, 0]⟩) = .ok legacy ∧
      strict.Reframed legacy ∧ strict.fields = legacy.fields := by
  have run : (decode {} none (Encode.header .strict ⟨#[255]⟩ 1 7 ++ ⟨#[6, 0, 1, 0, 5, 0]⟩)
      ).toOption.map (fun message => message.fields.incomplete) = some none := by
    decide +kernel
  obtain ⟨strict, legacy, decoded, decoded', -, reframed, same⟩ :=
    decode_framing {} none ⟨#[255]⟩ (by decide) 1 7 ⟨#[6, 0, 1, 0, 5, 0]⟩
  rw [decoded] at run
  exact ⟨strict, legacy, decoded, decoded', reframed, same rfl (Option.some.inj run)⟩

end TaggedRpc
