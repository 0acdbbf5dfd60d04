import TaggedRpc.Proofs.Wire.Continuation

/-!
# Only a truncation can be cured

What is read from a buffer is read from it with any bytes behind, and so is what is wrong with it,
unless what is wrong is that the buffer ends early (`only_truncation_cured`). So a reader that is
given its input in parts need not wait for more after a fault of any other kind.
-/

namespace TaggedRpc

variable {α : Type}

namespace Read

/-- A read that more bytes behind the buffer do not change, unless it is truncated. Its results and
all its other faults stay, and it ends at the same place. -/
structure Conclusive (read : (buf : ByteArray) → Read buf α) : Prop where
  ok : ∀ {buf : ByteArray} {c d : Cursor buf} {a : α}, read buf c = .ok a d →
    ∀ suffix, read (buf ++ suffix) (c.extend suffix) = .ok a (d.extend suffix)
  error : ∀ {buf : ByteArray} {c d : Cursor buf} {fault : Fault}, read buf c = .error fault d →
    fault.isTruncation = false →
      ∀ suffix, read (buf ++ suffix) (c.extend suffix) = .error fault (d.extend suffix)

/-- A read that lasts in every longer buffer is conclusive. -/
theorem conclusive_of_lasting {read : (buf : ByteArray) → Read buf α}
    (lasting : ∀ buf suffix : ByteArray,
      Lasting 0 suffix.data.toList (read buf) (read (buf ++ suffix))) :
    Conclusive read where
  ok {buf c d a} outcome suffix := by
    have continued := (lasting buf suffix).outcome (c.extend_continues suffix)
    generalize read (buf ++ suffix) (c.extend suffix) = outcome' at continued ⊢
    rw [outcome] at continued
    cases continued with
    | ok place => rw [place.eq_extend]
  error {buf c d fault} outcome firm suffix := by
    have continued := (lasting buf suffix).outcome (c.extend_continues suffix)
    generalize read (buf ++ suffix) (c.extend suffix) = outcome' at continued ⊢
    rw [outcome] at continued
    cases continued with
    | error place => rw [Fault.moved_of_firm firm, place.eq_extend]
    | cut short =>
      rw [firm] at short
      cases short

end Read

open Read (Conclusive conclusive_of_lasting)

/-- More bytes behind a buffer cure nothing but a truncation. This holds of every read of a number,
a length, a text or bytes, of the header of a message, and of skipping a value with any tag and any
limit, from every place in the buffer. -/
theorem only_truncation_cured :
    Conclusive (fun _ => Read.uint8) ∧ Conclusive (fun _ => Read.int8) ∧
    Conclusive (fun _ => Read.int16) ∧ Conclusive (fun _ => Read.int32) ∧
    Conclusive (fun _ => Read.int64) ∧ Conclusive (fun _ => Read.double) ∧
    Conclusive (fun _ => Read.length) ∧
    (∀ ceiling, Conclusive fun _ => Read.lengthUpTo ceiling) ∧
    Conclusive (fun _ => Read.string) ∧ Conclusive (fun _ => Read.skipString) ∧
    (∀ count, Conclusive fun _ => Read.bytes count) ∧
    (∀ count, Conclusive fun _ => Read.advance count) ∧
    Conclusive (fun _ => Envelope.read) ∧
    ∀ limit tag, Conclusive fun _ => Read.skipValue limit tag := by
  refine ⟨?uint8, ?int8, ?int16, ?int32, ?int64, ?double, ?length, ?lengthUpTo, ?string,
    ?skipString, ?bytes, ?advance, ?envelope, ?skipValue⟩
  case uint8 => exact conclusive_of_lasting fun _ _ => Read.lasting_uint8
  case int8 => exact conclusive_of_lasting fun _ _ => Read.lasting_int8
  case int16 => exact conclusive_of_lasting fun _ _ => Read.lasting_int16
  case int32 => exact conclusive_of_lasting fun _ _ => Read.lasting_int32
  case int64 => exact conclusive_of_lasting fun _ _ => Read.lasting_int64
  case double => exact conclusive_of_lasting fun _ _ => Read.lasting_double
  case length => exact conclusive_of_lasting fun _ _ => Read.lasting_length
  case lengthUpTo =>
    exact fun ceiling => conclusive_of_lasting fun _ _ => Read.lasting_lengthUpTo ceiling
  case string => exact conclusive_of_lasting fun _ _ => Read.lasting_string
  case skipString => exact conclusive_of_lasting fun _ _ => Read.lasting_skipString
  case bytes => exact fun count => conclusive_of_lasting fun _ _ => Read.lasting_bytes count
  case advance => exact fun count => conclusive_of_lasting fun _ _ => Read.lasting_advance count
  case envelope => exact conclusive_of_lasting fun _ _ => Envelope.lasting_read
  case skipValue =>
    exact fun limit tag => conclusive_of_lasting fun _ _ => Read.lasting_skipValue limit tag

/-- A list of two structs. The first has a field with a tag that is not assigned, the second one is
missing. -/
def unknownInStruct : ByteArray := ⟨#[12, 0, 0, 0, 2, 9, 0, 1]⟩

/-- No bytes behind the list make its unknown tag known, although more bytes are missing as well. -/
theorem skipValue_unknownInStruct :
    Read.skipValue 2 Tag.list.toByte (Cursor.start unknownInStruct) =
        .error (.unknownType 9) (Cursor.start unknownInStruct) ∧
      ∀ suffix, Read.skipValue 2 Tag.list.toByte ((Cursor.start unknownInStruct).extend suffix) =
        .error (.unknownType 9) ((Cursor.start unknownInStruct).extend suffix) := by
  have seen : (match Read.skipValue 2 Tag.list.toByte (Cursor.start unknownInStruct) with
      | .ok _ _ => none
      | .error fault _ => some fault) = some (.unknownType 9) := by
    decide +kernel
  split at seen
  · cases seen
  · next fault c failed =>
    cases seen
    cases Read.eq_of_skipValue_error failed
    obtain ⟨-, -, -, -, -, -, -, -, -, -, -, -, -, skipping⟩ := only_truncation_cured
    exact ⟨failed, (skipping 2 Tag.list.toByte).error failed rfl⟩

end TaggedRpc
