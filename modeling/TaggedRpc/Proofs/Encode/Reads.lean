import TaggedRpc.Encode.Bytes
import TaggedRpc.Proofs.Wire.Spans

/-!
# Reads of encoded parts

Every part that is written is read back, whatever bytes follow it (`Read.Takes`). Numbers are read
back because their digits in base 256 are; lengths, text and the header of a message are made of
numbers and bytes.
-/

namespace TaggedRpc

/-! ## Digits -/

/-- One more byte is one more digit. -/
theorem bigEndian_concat (bytes : List UInt8) (b : UInt8) :
    bigEndian (bytes ++ [b]) = 256 * bigEndian bytes + b.toNat := by
  rw [bigEndian, List.foldl_append]
  rfl

/-- The digits of a number in base 256 spell the number, as far as they go. -/
theorem bigEndian_digits256 (width n : Nat) :
    bigEndian (Encode.digits256 width n) = n % Nat.pow 256 width := by
  induction width generalizing n with
  | zero =>
    rw [Nat.pow_eq, Nat.pow_zero, Nat.mod_one]
    rfl
  | succ width ih =>
    have digit : (UInt8.ofNat n).toNat = n % 256 := UInt8.toNat_ofNat'
    rw [Encode.digits256, bigEndian_concat, ih, digit, Nat.pow_eq, Nat.pow_eq, Nat.pow_succ',
      Nat.mod_mul, Nat.add_comm]

/-- A number takes as many bytes as it is given. -/
theorem Encode.size_natural (width n : Nat) : (Encode.natural width n).size = width := by
  rw [Encode.natural, List.size_toByteArray, Encode.length_digits256]

/-- The bytes of two buffers in a row are those of the first and then those of the second. -/
theorem toList_data_append (first second : ByteArray) :
    (first ++ second).data.toList = first.data.toList ++ second.data.toList := by
  rw [ByteArray.data_append, Array.toList_append]

/-- The place in front of some bytes at the end of two buffers in a row is where the first ends. -/
theorem Cursor.pos_of_rest_eq {first second : ByteArray} {c : Cursor (first ++ second)}
    (behind : c.rest = second.data.toList) : c.pos = first.size := by
  have total := c.pos_add_remaining
  rw [← c.length_rest, behind, Array.length_toList, ByteArray.size_data,
    ByteArray.size_append] at total
  exact Nat.add_right_cancel total

namespace Read

variable {buf : ByteArray} {α β : Type}

/-- A read that takes some bytes from the front and gives a result, whatever follows them. -/
def Takes (read : Read buf α) (bytes : ByteArray) (a : α) : Prop :=
  ∀ ⦃c : Cursor buf⦄ ⦃rest : List UInt8⦄, c.rest = bytes.data.toList ++ rest →
    ∃ d, read c = .ok a d ∧ d.rest = rest

/-! ## Parts in a row -/

/-- A result without an action takes nothing. -/
theorem takes_pure (a : α) : Takes (pure a : Read buf α) .empty a := by
  intro c rest front
  exact ⟨c, rfl, front⟩

/-- A function of the result takes the same bytes. -/
theorem Takes.map {read : Read buf α} {bytes : ByteArray} {a : α} (takes : Takes read bytes a)
    {f : α → β} {b : β} (same : f a = b) : Takes (f <$> read) bytes b := by
  intro c rest front
  obtain ⟨d, outcome, behind⟩ := takes front
  exact ⟨d, map_eq_ok_iff.mpr ⟨a, outcome, same⟩, behind⟩

/-- Two reads in a row take the bytes of both. -/
theorem Takes.bind {read : Read buf α} {next : α → Read buf β} {bytes bytes' : ByteArray} {a : α}
    {b : β} (first : Takes read bytes a) (second : Takes (next a) bytes' b) :
    Takes (read >>= next) (bytes ++ bytes') b := by
  intro c rest front
  rw [toList_data_append, List.append_assoc] at front
  obtain ⟨d, outcome, behind⟩ := first front
  obtain ⟨e, outcome', behind'⟩ := second behind
  exact ⟨e, bind_eq_ok_iff.mpr ⟨a, d, outcome, outcome'⟩, behind'⟩

/-- An undone read takes what the read does. -/
theorem Takes.atomically {read : Read buf α} {bytes : ByteArray} {a : α}
    (takes : Takes read bytes a) : Takes (atomically read) bytes a := by
  intro c rest front
  obtain ⟨d, outcome, behind⟩ := takes front
  exact ⟨d, atomically_eq_ok_iff.mpr outcome, behind⟩

/-- At the start of a buffer a read takes what is in front and ends behind it. -/
theorem Takes.start {bytes trailing : ByteArray} {read : Read (bytes ++ trailing) α} {a : α}
    (takes : Takes read bytes a) :
    ∃ c, read (Cursor.start (bytes ++ trailing)) = .ok a c ∧ c.pos = bytes.size ∧
      c.rest = trailing.data.toList := by
  have front : (Cursor.start (bytes ++ trailing)).rest =
      bytes.data.toList ++ trailing.data.toList := toList_data_append _ _
  obtain ⟨c, outcome, behind⟩ := takes front
  exact ⟨c, outcome, Cursor.pos_of_rest_eq behind, behind⟩

/-! ## Bytes and numbers -/

/-- As many bytes as there are in front are these bytes. -/
theorem takes_bytes (content : ByteArray) :
    Takes (bytes content.size : Read buf ByteArray) content content := by
  intro c rest front
  have size : content.data.toList.length = content.size := by
    rw [Array.length_toList, ByteArray.size_data]
  have enough : content.size ≤ c.remaining := by
    rw [← Cursor.length_rest, front, List.length_append, size]
    exact Nat.le_add_right _ _
  have same : buf.extract c.pos (c.pos + content.size) = content := by
    apply ByteArray.ext
    apply Array.ext'
    rw [ByteArray.data_extract, Array.toList_extract, List.extract_eq_take_drop,
      Nat.add_sub_cancel_left]
    change c.rest.take content.size = content.data.toList
    rw [front, ← size, List.take_left]
  refine ⟨c.forward content.size enough, ?_, ?_⟩
  · rw [bytes, dif_pos enough, same]
  · rw [Cursor.rest_forward, front, ← size, List.drop_left]

/-- As many bytes as there are in front can be passed. -/
theorem takes_advance (content : ByteArray) :
    Takes (advance content.size : Read buf Unit) content () := by
  intro c rest front
  obtain ⟨d, outcome, behind⟩ := takes_bytes content front
  exact ⟨d, (spans_bytes content.size c d).mp ⟨content, outcome⟩, behind⟩

/-- A number that fits is read back. -/
theorem takes_natural {width n : Nat} (fits : n < Nat.pow 256 width) :
    Takes (natural width : Read buf Nat) (Encode.natural width n) n := by
  have spelled : bigEndian (Encode.natural width n).data.toList = n := by
    rw [Encode.natural, List.toList_data_toByteArray, bigEndian_digits256, Nat.mod_eq_of_lt fits]
  have takes : Takes (natural (Encode.natural width n).size : Read buf Nat)
      (Encode.natural width n) n := (takes_bytes _).map spelled
  rw [Encode.size_natural] at takes
  exact takes

/-- What is made of a number that fits is read back. -/
theorem takes_number {width n : Nat} {ofNat : Nat → β} {b : β} (fits : n < Nat.pow 256 width)
    (same : ofNat n = b) :
    Takes (ofNat <$> natural width : Read buf β) (Encode.natural width n) b :=
  (takes_natural fits).map same

/-- An unsigned byte is read back. -/
theorem takes_uint8 (n : UInt8) : Takes (uint8 : Read buf UInt8) (Encode.uint8 n) n :=
  takes_number n.toNat_lt UInt8.ofNat_toNat

/-- A signed byte is read back. -/
theorem takes_int8 (n : Int8) : Takes (int8 : Read buf Int8) (Encode.int8 n) n :=
  takes_number n.toUInt8.toNat_lt (Int8.toBitVec_inj.mp (BitVec.ofNat_toNat 8 n.toBitVec))

/-- A truth value is read back as one or zero. -/
theorem takes_bool (b : Bool) :
    Takes (int8 : Read buf Int8) (Encode.bool b) (if b then 1 else 0) := by
  cases b
  · exact takes_int8 0
  · exact takes_int8 1

/-- A signed integer of two bytes is read back. -/
theorem takes_int16 (n : Int16) : Takes (int16 : Read buf Int16) (Encode.int16 n) n :=
  takes_number n.toUInt16.toNat_lt (Int16.toBitVec_inj.mp (BitVec.ofNat_toNat 16 n.toBitVec))

/-- A signed integer of four bytes is read back. -/
theorem takes_int32 (n : Int32) : Takes (int32 : Read buf Int32) (Encode.int32 n) n :=
  takes_number n.toUInt32.toNat_lt (Int32.toBitVec_inj.mp (BitVec.ofNat_toNat 32 n.toBitVec))

/-- A signed integer of eight bytes is read back. -/
theorem takes_int64 (n : Int64) : Takes (int64 : Read buf Int64) (Encode.int64 n) n :=
  takes_number n.toUInt64.toNat_lt (Int64.toBitVec_inj.mp (BitVec.ofNat_toNat 64 n.toBitVec))

/-- A double-precision number is read back, bit by bit. -/
theorem takes_double (x : Binary64) : Takes (double : Read buf Binary64) (Encode.double x) x :=
  takes_number x.bits.toNat_lt (congrArg Binary64.mk UInt64.ofNat_toNat)

/-! ## Lengths and text -/

/-- The greatest length or count that fits into the four bytes for it. -/
def countCeiling : Nat := 2147483647

/-- A count that fits is read as the number that it was made of. -/
theorem toNatClampNeg_ofNat {n : Nat} (fits : n ≤ countCeiling) :
    (Int32.ofNat n).toNatClampNeg = n :=
  Int32.toNatClampNeg_ofNat_of_lt (Nat.lt_of_le_of_lt fits (by decide))

/-- A count that fits is not negative. -/
theorem not_ofNat_neg {n : Nat} (fits : n ≤ countCeiling) : ¬ Int32.ofNat n < 0 := by
  rw [Int32.lt_iff_toInt_lt, Int32.toInt_ofNat_of_lt (Nat.lt_of_le_of_lt fits (by decide))]
  exact Int.not_lt_of_ge (Int.natCast_nonneg n)

/-- A length that fits is read back. -/
theorem takes_length {n : Nat} (fits : n ≤ countCeiling) :
    Takes (length : Read buf Nat) (Encode.count n) n := by
  apply Takes.atomically
  rw [← ByteArray.append_empty (b := Encode.count n)]
  apply (takes_int32 (Int32.ofNat n)).bind
  rw [if_neg (not_ofNat_neg fits), toNatClampNeg_ofNat fits]
  exact takes_pure n

private theorem takes_lengthUpTo {n ceiling : Nat} (fits : n ≤ countCeiling) (le : n ≤ ceiling) :
    Takes (lengthUpTo ceiling : Read buf Nat) (Encode.count n) n := by
  intro c rest front
  obtain ⟨d, outcome, behind⟩ := takes_length fits front
  exact ⟨d, lengthUpTo_eq_ok_iff.mpr ⟨outcome, le⟩, behind⟩

/-- A string of bytes whose length fits can be passed, above the ceiling or not. -/
theorem takes_skipString {content : ByteArray} (fits : content.size ≤ countCeiling) :
    Takes (skipString : Read buf Unit) (Encode.bytes content) () :=
  ((takes_length fits).bind (takes_advance content)).atomically

/-- A string of bytes that is not above the ceiling is read back as the text of its bytes. -/
theorem takes_binary {content : ByteArray} (le : content.size ≤ stringCeiling) :
    Takes (string : Read buf String) (Encode.bytes content) (Text.ofBytes content) := by
  have fits : content.size ≤ countCeiling := Nat.le_trans le (by decide)
  apply Takes.atomically
  apply (takes_lengthUpTo fits le).bind
  exact (takes_bytes content).map rfl

/-- Text that is not above the ceiling for strings is read back. -/
theorem takes_string {content : String} (le : content.utf8ByteSize ≤ stringCeiling) :
    Takes (string : Read buf String) (Encode.text content) content := by
  have takes : Takes (string : Read buf String) (Encode.text content)
      (Text.ofBytes content.toUTF8) := takes_binary le
  rwa [Text.ofBytes_toUTF8] at takes

end Read

end TaggedRpc
