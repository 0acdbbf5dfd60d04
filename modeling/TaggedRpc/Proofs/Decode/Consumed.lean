import TaggedRpc.Proofs.Decode.Continuation
import TaggedRpc.Proofs.Decode.Message

/-!
# The bytes of a complete message

A message whose fields are complete is decoded from the bytes that it consumes, whatever comes
behind them (`decode_append`, `decode_of_append`). So no message that is cut short is complete.
-/

namespace TaggedRpc

variable {limits : Limits} {registry : Option Registry} {buf buf' : ByteArray} {shift : Nat}
  {more : List UInt8}

/-- At the start of a longer buffer more bytes follow. -/
theorem Cursor.start_continues (buf suffix : ByteArray) :
    (Cursor.start buf).Continues 0 suffix.data.toList (Cursor.start (buf ++ suffix)) :=
  (Cursor.start buf).extend_continues suffix

namespace Decoder

variable {envelope : Envelope} {c : Cursor buf} {d : Cursor buf'}

/-- The body of a message goes on being the same with more bytes behind, or is cut short. -/
theorem body_continued (skips : limits.skipUnbuilt) (registry : Option Registry)
    (envelope : Envelope) (place : c.Continues shift more d) :
    Continued shift more
      (.ok (body limits registry envelope c).1 (body limits registry envelope c).2)
      (.ok (body limits registry envelope d).1 (body limits registry envelope d).2) :=
  (lasting_readFields (lasting_values skips _ _) (meets_skipValue skips _ _)).outcome
    ⟨place, rfl, rfl, rfl⟩

/-- A complete body stays the same with more bytes behind. -/
theorem body_of_complete (skips : limits.skipUnbuilt) (place : c.Continues shift more d)
    (kept : (body limits registry envelope c).2.desync = none) :
    (body limits registry envelope d).1 = (body limits registry envelope c).1 ∧
      (body limits registry envelope c).2.Continues shift more
        (body limits registry envelope d).2 := by
  have continued := body_continued skips registry envelope place
  generalize (body limits registry envelope d).1 = fields' at continued ⊢
  generalize (body limits registry envelope d).2 = t at continued ⊢
  cases continued with
  | ok near => exact ⟨rfl, near⟩
  | lost lost =>
    rw [kept] at lost
    cases lost

private theorem complete_of_body (skips : limits.skipUnbuilt) (place : c.Continues shift more d)
    (kept : (body limits registry envelope d).2.desync = none)
    (within : more.length ≤ (body limits registry envelope d).2.cursor.remaining) :
    (body limits registry envelope c).2.desync = none := by
  have continued := body_continued skips registry envelope place
  generalize (body limits registry envelope c).1 = fields at continued
  generalize (body limits registry envelope c).2 = s at continued ⊢
  cases continued with
  | ok near => exact near.kept
  | lost lost uses => exact absurd (uses _ _ rfl kept) (Nat.not_lt_of_le within)

private theorem messageBehind_of_complete (skips : limits.skipUnbuilt)
    (place : c.Continues 0 more d) (kept : (body limits registry envelope c).2.desync = none) :
    messageBehind limits registry envelope d =
      { messageBehind limits registry envelope c with totalBytes := buf'.size } := by
  obtain ⟨same, near⟩ := body_of_complete skips place kept
  unfold messageBehind
  rw [same, pos, pos, near.place.pos, Nat.add_zero]

/-- The fields of a message are complete exactly when synchronisation is kept. -/
theorem complete_iff :
    (messageBehind limits registry envelope c).fields.incomplete = none ↔
      (body limits registry envelope c).2.desync = none := Option.map_eq_none_iff

end Decoder

open Decoder

variable {message : Message}

/-- A message consumes no more bytes than there are. -/
theorem bytesConsumed_le (decoded : decode limits registry buf = .ok message) :
    message.bytesConsumed ≤ buf.size := by
  obtain ⟨envelope, c, -, rfl⟩ := decode_eq_ok_iff.mp decoded
  exact (body limits registry envelope c).2.cursor.pos_le_size

/-- A complete message is decoded with any bytes behind it. -/
theorem decode_append (skips : limits.skipUnbuilt)
    (decoded : decode limits registry buf = .ok message)
    (complete : message.fields.incomplete = none) (suffix : ByteArray) :
    decode limits registry (buf ++ suffix) =
      .ok { message with totalBytes := buf.size + suffix.size } := by
  obtain ⟨envelope, c, header, rfl⟩ := decode_eq_ok_iff.mp decoded
  have first := Envelope.lasting_read.outcome (Cursor.start_continues buf suffix)
  generalize header' : Envelope.read (Cursor.start (buf ++ suffix)) = outcome at first
  rw [header] at first
  cases first with
  | @ok _ _ d place =>
    refine decode_eq_ok_iff.mpr ⟨envelope, d, header', ?_⟩
    rw [messageBehind_of_complete skips place (complete_iff.mp complete), ByteArray.size_append]

/-- A complete message is decoded without the bytes behind it. -/
theorem decode_of_append (skips : limits.skipUnbuilt) {suffix : ByteArray}
    (decoded : decode limits registry (buf ++ suffix) = .ok message)
    (complete : message.fields.incomplete = none) (within : message.bytesConsumed ≤ buf.size) :
    decode limits registry buf = .ok { message with totalBytes := buf.size } := by
  obtain ⟨envelope, d, header, rfl⟩ := decode_eq_ok_iff.mp decoded
  have kept := complete_iff.mp complete
  have total := (body limits registry envelope d).2.cursor.pos_add_remaining
  have behind : suffix.data.toList.length ≤
      (body limits registry envelope d).2.cursor.remaining := by
    change (body limits registry envelope d).2.cursor.pos ≤ buf.size at within
    rw [ByteArray.size_append] at total
    rw [Array.length_toList, ByteArray.size_data]
    omega
  have first := Envelope.lasting_read.outcome (Cursor.start_continues buf suffix)
  generalize header' : Envelope.read (Cursor.start buf) = outcome at first
  rw [header] at first
  cases first with
  | @ok _ c _ place =>
    have kept' := complete_of_body skips place kept behind
    refine decode_eq_ok_iff.mpr ⟨envelope, c, header', ?_⟩
    rw [messageBehind_of_complete skips place kept']
    rfl
  | cut short follow uses =>
    have used := uses envelope d rfl
    have moved : d.pos ≤ (body limits registry envelope d).2.cursor.pos :=
      pos_le_readStruct limits _ _ { start (buf ++ suffix) with cursor := d }
    have before := d.pos_add_remaining
    omega

/-- A message that is cut short before the end of a complete one is truncated or incomplete. -/
theorem decode_of_cut (skips : limits.skipUnbuilt) {suffix : ByteArray}
    (decoded : decode limits registry (buf ++ suffix) = .ok message)
    (complete : message.fields.incomplete = none) (cut : buf.size < message.bytesConsumed)
    (long : firstWordSize ≤ buf.size) :
    (∃ fault offset, fault.isTruncation ∧
      decode limits registry buf = .error (.framing fault offset buf.size)) ∨
    ∃ part, decode limits registry buf = .ok part ∧ part.fields.incomplete.isSome := by
  obtain ⟨envelope, d, header, rfl⟩ := decode_eq_ok_iff.mp decoded
  have first := Envelope.lasting_read.outcome (Cursor.start_continues buf suffix)
  generalize header' : Envelope.read (Cursor.start buf) = outcome at first
  rw [header] at first
  cases first with
  | @cut fault c _ short => exact .inl ⟨fault, c.pos, short, decode_of_error long header'⟩
  | @ok _ c _ place =>
    refine .inr ⟨_, decode_eq_ok_iff.mpr ⟨envelope, c, header', rfl⟩, ?_⟩
    rw [Option.isSome_iff_ne_none]
    -- A complete part would end where the whole message does, which is behind the cut.
    intro whole
    have kept := complete_iff.mp whole
    have same := messageBehind_of_complete skips place kept
    have within : (body limits registry envelope c).2.cursor.pos ≤ buf.size :=
      (body limits registry envelope c).2.cursor.pos_le_size
    rw [same] at cut
    exact absurd cut (Nat.not_lt_of_le within)

/-- A complete message depends only on the bytes that it consumes, and no message that is cut short
is complete. With other bytes behind those that it consumes it is decoded to the same fields, texts
included. With fewer bytes than it consumes decoding says that there are too few for any message, or
that the header is truncated, or that the fields are incomplete. -/
theorem decode_consumed (limits : Limits) (registry : Option Registry) (buf : ByteArray)
    (skips : limits.skipUnbuilt) {message : Message}
    (decoded : decode limits registry buf = .ok message)
    (complete : message.fields.incomplete = none) :
    (∀ suffix : ByteArray,
      decode limits registry (buf.extract 0 message.bytesConsumed ++ suffix) =
        .ok { message with totalBytes := message.bytesConsumed + suffix.size }) ∧
    ∀ size < message.bytesConsumed,
      (size < firstWordSize →
        decode limits registry (buf.extract 0 size) = .error (.tooShort size)) ∧
      (firstWordSize ≤ size →
        (∃ fault offset, fault.isTruncation ∧
          decode limits registry (buf.extract 0 size) = .error (.framing fault offset size)) ∨
        ∃ part, decode limits registry (buf.extract 0 size) = .ok part ∧
          part.fields.incomplete.isSome) := by
  have within : message.bytesConsumed ≤ buf.size := bytesConsumed_le decoded
  have split (size : Nat) (le : size ≤ buf.size) :
      (buf.extract 0 size).size = size ∧
        buf.extract 0 size ++ buf.extract size buf.size = buf := by
    simp [ByteArray.extract_append_extract, ByteArray.size_extract, le]
  constructor
  · intro suffix
    obtain ⟨count, whole⟩ := split message.bytesConsumed within
    rw [← whole] at decoded
    -- The bytes behind the message are taken away before others are put there.
    have alone := decode_of_append skips decoded complete (Nat.le_of_eq count.symm)
    have behind := decode_append skips alone complete suffix
    rwa [count] at behind
  · intro size lt
    obtain ⟨count, whole⟩ := split size (by omega)
    constructor
    · intro short
      rw [decode_of_short (by rwa [count]), count]
    · intro long
      rw [← whole] at decoded
      have cut := decode_of_cut skips decoded complete (by rwa [count]) (by rwa [count])
      rwa [count] at cut

/-- A call with one field, which is a struct with one short integer, and one byte behind it. -/
def structCall : ByteArray :=
  ⟨#[0x80, 1, 0, 1, 0, 0, 0, 1, 102, 0, 0, 0, 7, 12, 0, 1, 6, 0, 2, 0, 5, 0, 0, 9]⟩

/-- The byte behind the call may be any bytes, and the call is not complete without its last one. -/
theorem decode_structCall :
    ∃ message, decode {} none structCall = .ok message ∧
      (∀ suffix, decode {} none (structCall.extract 0 23 ++ suffix) =
        .ok { message with totalBytes := 23 + suffix.size }) ∧
      ((∃ fault offset, fault.isTruncation ∧
        decode {} none (structCall.extract 0 22) = .error (.framing fault offset 22)) ∨
      ∃ part, decode {} none (structCall.extract 0 22) = .ok part ∧
        part.fields.incomplete.isSome) := by
  have run : (decode {} none structCall).toOption.map
      (fun message => (message.fields.incomplete, message.bytesConsumed)) = some (none, 23) := by
    decide +kernel
  obtain ⟨message, decoded, seen⟩ := decode_of_seen run
  have count : message.bytesConsumed = 23 := congrArg Prod.snd seen
  obtain ⟨behind, before⟩ := decode_consumed {} none structCall rfl decoded (congrArg Prod.fst seen)
  refine ⟨message, decoded, fun suffix => ?_, (before 22 (by rw [count]; decide)).2 (by decide)⟩
  have same := behind suffix
  rwa [count] at same ⊢

end TaggedRpc
