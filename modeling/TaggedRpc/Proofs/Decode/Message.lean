import TaggedRpc.Decode.Message

/-!
# Outcomes of decoding messages

A message is decoded exactly when its envelope is, and what it is decoded to follows from where the
envelope ends.
-/

namespace TaggedRpc

variable {limits : Limits} {registry : Option Registry} {buf : ByteArray}

namespace Decoder

/-- The names of the fields of a message. -/
def namesOf (registry : Option Registry) (envelope : Envelope) : FieldNames :=
  (FieldNames.resolve registry envelope.method envelope.kind).1

/-- The fields of a message at a place behind its envelope, and the decoder behind them. -/
def body (limits : Limits) (registry : Option Registry) (envelope : Envelope) (c : Cursor buf) :
    Fields × Decoder buf :=
  readFields limits (namesOf registry envelope)
    (values limits (namesOf registry envelope) limits.maxDepth) { start buf with cursor := c }

/-- The message with an envelope that ends at a place. -/
def messageBehind (limits : Limits) (registry : Option Registry) (envelope : Envelope)
    (c : Cursor buf) : Message where
  envelope := envelope
  fields := (body limits registry envelope c).1
  bytesConsumed := (body limits registry envelope c).2.pos
  totalBytes := buf.size
  protocol := if Method.isKnown envelope.method then some Method.family else none
  nameSource := (FieldNames.resolve registry envelope.method envelope.kind).2

end Decoder

private theorem firstWordSize_le_of_read {envelope : Envelope} {c : Cursor buf}
    (header : Envelope.read (Cursor.start buf) = .ok envelope c) :
    Decoder.firstWordSize ≤ buf.size := by
  obtain ⟨word, d, first, -⟩ := bind_eq_ok_iff.mp header
  have moved := Read.advances_int32.le_of_ok first
  exact Nat.le_trans (Nat.le_trans (Nat.le_add_left _ _) moved) d.pos_le_size

/-- A buffer that is too short for a first word is not decoded. -/
theorem decode_of_short (short : buf.size < Decoder.firstWordSize) :
    decode limits registry buf = .error (.tooShort buf.size) := by
  rw [decode, Decoder.message, if_pos short]

/-- A message whose envelope cannot be read is not decoded. -/
theorem decode_of_error {fault : Fault} {c : Cursor buf} (long : Decoder.firstWordSize ≤ buf.size)
    (header : Envelope.read (Cursor.start buf) = .error fault c) :
    decode limits registry buf = .error (.framing fault c.pos buf.size) := by
  have place : (Decoder.start buf).cursor = Cursor.start buf := rfl
  rw [decode, Decoder.message, if_neg (Nat.not_lt_of_le long), place, header]

/-- A message is decoded exactly when its envelope is read. -/
theorem decode_eq_ok_iff {message : Message} :
    decode limits registry buf = .ok message ↔ ∃ envelope c,
      Envelope.read (Cursor.start buf) = .ok envelope c ∧
        Decoder.messageBehind limits registry envelope c = message := by
  have place : (Decoder.start buf).cursor = Cursor.start buf := rfl
  unfold decode Decoder.message
  rw [place]
  cases header : Envelope.read (Cursor.start buf) with
  | error fault c =>
    constructor
    · intro decoded
      split at decoded <;> cases decoded
    · rintro ⟨envelope, c, impossible, -⟩
      cases impossible
  | ok envelope c =>
    rw [if_neg (Nat.not_lt_of_le (firstWordSize_le_of_read header))]
    constructor
    · intro decoded
      cases decoded
      exact ⟨envelope, c, rfl, rfl⟩
    · rintro ⟨_, _, ⟨⟩, rfl⟩
      rfl

/-- A message of which something is seen is decoded. -/
theorem decode_of_seen {α : Type} {view : Message → α} {seen : α}
    (run : (decode limits registry buf).toOption.map view = some seen) :
    ∃ message, decode limits registry buf = .ok message ∧ view message = seen := by
  cases decoded : decode limits registry buf with
  | error error =>
    rw [decoded] at run
    cases run
  | ok message =>
    rw [decoded] at run
    exact ⟨message, rfl, Option.some.inj run⟩

/-- A message is not decoded exactly when its envelope is not read. -/
theorem decode_eq_error_iff {error : DecodeError} :
    decode limits registry buf = .error error ↔
      buf.size < Decoder.firstWordSize ∧ error = .tooShort buf.size ∨
      Decoder.firstWordSize ≤ buf.size ∧ ∃ fault c,
        Envelope.read (Cursor.start buf) = .error fault c ∧
          error = .framing fault c.pos buf.size := by
  by_cases short : buf.size < Decoder.firstWordSize
  · rw [decode_of_short short]
    constructor
    · rintro ⟨⟩
      exact .inl ⟨short, rfl⟩
    · rintro (⟨-, rfl⟩ | ⟨long, -⟩)
      · rfl
      · exact absurd short (Nat.not_lt_of_le long)
  · have long := Nat.le_of_not_lt short
    cases header : Envelope.read (Cursor.start buf) with
    | error fault c =>
      rw [decode_of_error long header]
      constructor
      · rintro ⟨⟩
        exact .inr ⟨long, fault, c, rfl, rfl⟩
      · rintro (⟨short', -⟩ | ⟨-, _, _, ⟨⟩, rfl⟩)
        · exact absurd short' short
        · rfl
    | ok envelope c =>
      rw [decode_eq_ok_iff.mpr ⟨envelope, c, header, rfl⟩]
      constructor
      · rintro ⟨⟩
      · rintro (⟨short', -⟩ | ⟨-, _, _, ⟨⟩, -⟩)
        exact absurd short' short

end TaggedRpc
