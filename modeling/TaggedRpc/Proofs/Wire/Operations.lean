import Mathlib.Data.Nat.Digits.Defs
import TaggedRpc.Proofs.Encode.Grammar
import TaggedRpc.Proofs.Wire.Continuation

/-!
# Runs of cursor operations

What is read at a cursor after any run of operations (`Cursor.after_exact`). A read of fixed width
succeeds exactly if its bytes remain, and gives the number that they spell in base 256, in two's
complement if it is signed. A string is read exactly if its length and its bytes are there and it is
not above the ceiling, and passed above the ceiling as well. An operation that fails leaves no
trace.
-/

namespace TaggedRpc

/-! ## Numbers that bytes spell -/

/-- The number that bytes spell, the most significant first. -/
def unsigned (bytes : List UInt8) : Nat := Nat.ofDigits 256 (bytes.reverse.map UInt8.toNat)

/-- The number that bytes spell in two's complement: in the upper half of all that as many bytes can
spell without a sign, the number of these is taken off. -/
def twosComplement (bytes : List UInt8) : Int :=
  if 2 * unsigned bytes < Nat.pow 256 bytes.length then unsigned bytes
  else unsigned bytes - (Nat.pow 256 bytes.length : Nat)

private theorem bigEndian_eq_unsigned (bytes : List UInt8) : bigEndian bytes = unsigned bytes := by
  induction bytes using List.reverseRecOn with
  | nil => rfl
  | append_singleton front last ih =>
    rw [bigEndian_concat, ih, unsigned, unsigned, List.reverse_concat, List.map_cons,
      Nat.ofDigits_cons, Nat.add_comm]

private theorem unsigned_lt (bytes : List UInt8) : unsigned bytes < Nat.pow 256 bytes.length := by
  rw [← bigEndian_eq_unsigned]
  exact bigEndian_lt bytes

private theorem toInt_ofNat_unsigned {bytes : List UInt8} {width bits : Nat}
    (length : bytes.length = width) (size : bits = 8 * width) :
    (BitVec.ofNat bits (unsigned bytes)).toInt = twosComplement bytes := by
  have power : 2 ^ bits = Nat.pow 256 bytes.length := by
    rw [size, length, Nat.pow_mul]
    rfl
  have below : unsigned bytes < 2 ^ bits := power ▸ unsigned_lt bytes
  rw [BitVec.toInt_eq_toNat_cond, BitVec.toNat_ofNat, Nat.mod_eq_of_lt below, twosComplement, power]

private theorem length_encode_count (n : Nat) : (Encode.count n).data.toList.length = 4 := by
  rw [Array.length_toList, ByteArray.size_data, Encode.count, Encode.int32, Encode.size_natural]

private theorem twosComplement_count {n : Nat} (fits : n ≤ Read.countCeiling) :
    twosComplement (Encode.count n).data.toList = n := by
  have below : n < Nat.pow 256 4 := Nat.lt_of_le_of_lt fits (by decide)
  have same : (Int32.ofNat n).toUInt32.toNat = n := Nat.mod_eq_of_lt below
  have spelled : unsigned (Encode.count n).data.toList = n := by
    rw [← bigEndian_eq_unsigned, Encode.count, Encode.int32, same, Encode.natural,
      List.toList_data_toByteArray, bigEndian_digits256, Nat.mod_eq_of_lt below]
  have half : 2 * n < Nat.pow 256 4 := by
    change n ≤ 2147483647 at fits
    change 2 * n < 4294967296
    omega
  rw [twosComplement, spelled, length_encode_count, if_pos half]

private theorem eq_count_of_twosComplement {word : List UInt8} {n : Nat} (four : word.length = 4)
    (spelled : twosComplement word = n) :
    n ≤ Read.countCeiling ∧ word = (Encode.count n).data.toList := by
  have all : Nat.pow 256 4 = 4294967296 := rfl
  have below := unsigned_lt word
  rw [twosComplement, four, all] at spelled
  rw [four, all] at below
  split at spelled
  · next half =>
    have same : unsigned word = n := by omega
    have digits := digits256_bigEndian word
    have kept : (Int32.ofNat n).toUInt32.toNat = n := Nat.mod_eq_of_lt (by omega)
    rw [four, bigEndian_eq_unsigned, same] at digits
    refine ⟨?_, ?_⟩
    · change n ≤ 2147483647
      omega
    · rw [Encode.count, Encode.int32, kept, Encode.natural, List.toList_data_toByteArray, digits]
  · omega

/-! ## Reads at a place -/

namespace Cursor

variable {buf : ByteArray} {α : Type}

/-- A read that passes a fixed number of bytes. It succeeds exactly if as many remain, and then it
gives what they spell and ends behind them. -/
structure FixedAt (c : Cursor buf) (read : Read buf α) (width : Nat)
    (spell : List UInt8 → α → Prop) : Prop where
  succeeds_iff : (∃ a d, read c = .ok a d) ↔ width ≤ c.remaining
  gives : ∀ a d, read c = .ok a d → spell (c.rest.take width) a ∧ d.pos = c.pos + width

/-- A string of some bytes stands at a place: four bytes that spell its length, and then its own. -/
def StringAt (c : Cursor buf) (content : ByteArray) : Prop :=
  ∃ word behind, c.rest = word ++ content.data.toList ++ behind ∧ word.length = 4 ∧
    twosComplement word = content.size

variable {c d : Cursor buf}

private theorem fixedAt_bytes (c : Cursor buf) (count : Nat) :
    c.FixedAt (Read.bytes count) count fun bytes content => content.data.toList = bytes where
  succeeds_iff := by
    unfold Read.bytes
    split <;> simp [*]
  gives content d outcome := by
    unfold Read.bytes at outcome
    split at outcome
    · cases outcome
      exact ⟨c.toList_extract count, rfl⟩
    · cases outcome

private theorem fixedAt_advance (c : Cursor buf) (count : Nat) :
    c.FixedAt (Read.advance count) count fun _ _ => True where
  succeeds_iff := by
    unfold Read.advance
    split <;> simp [*]
  gives a d outcome := by
    unfold Read.advance at outcome
    split at outcome
    · cases outcome
      exact ⟨trivial, rfl⟩
    · cases outcome

private theorem fixedAt_number {ofNat : Nat → α} {width : Nat} {spell : List UInt8 → α → Prop}
    (made : ∀ bytes, bytes.length = width → spell bytes (ofNat (unsigned bytes)))
    (c : Cursor buf) : c.FixedAt (ofNat <$> Read.natural width) width spell where
  succeeds_iff := by
    rw [← (c.fixedAt_bytes width).succeeds_iff]
    constructor
    · rintro ⟨a, d, outcome⟩
      obtain ⟨n, number, -⟩ := map_eq_ok_iff.mp outcome
      obtain ⟨content, taken, -⟩ := map_eq_ok_iff.mp number
      exact ⟨content, d, taken⟩
    · rintro ⟨content, d, taken⟩
      exact ⟨_, d, map_eq_ok_iff.mpr ⟨_, map_eq_ok_iff.mpr ⟨content, taken, rfl⟩, rfl⟩⟩
  gives a d outcome := by
    obtain ⟨n, number, rfl⟩ := map_eq_ok_iff.mp outcome
    obtain ⟨content, taken, rfl⟩ := map_eq_ok_iff.mp number
    have enough := (c.fixedAt_bytes width).succeeds_iff.mp ⟨content, d, taken⟩
    obtain ⟨spelled, moved⟩ := (c.fixedAt_bytes width).gives content d taken
    rw [spelled, bigEndian_eq_unsigned]
    exact ⟨made _ (by rw [List.length_take, c.length_rest]; omega), moved⟩

private theorem eq_append_rest_iff {front behind : List UInt8} (split : c.rest = front ++ behind) :
    c.rest = front ++ d.rest ↔ d.pos = c.pos + front.length := by
  constructor
  · intro same
    have lengths := congrArg List.length same
    have total := c.pos_add_remaining
    have total' := d.pos_add_remaining
    rw [List.length_append, c.length_rest, d.length_rest] at lengths
    omega
  · intro place
    have dropped : d.rest = c.rest.drop front.length := by
      rw [Cursor.rest, Cursor.rest, List.drop_drop, place]
    rw [dropped, split, List.drop_left]

private theorem length_encode_bytes (content : ByteArray) :
    (Encode.bytes content).data.toList.length = 4 + content.size := by
  rw [Encode.bytes, toList_data_append, List.length_append, length_encode_count,
    Array.length_toList, ByteArray.size_data]

/-- A string stands at a place exactly if what is written for it does. -/
theorem stringAt_iff {content : ByteArray} :
    c.StringAt content ↔ content.size ≤ Read.countCeiling ∧
      ∃ behind, c.rest = (Encode.bytes content).data.toList ++ behind := by
  constructor
  · rintro ⟨word, behind, front, four, spelled⟩
    obtain ⟨fits, rfl⟩ := eq_count_of_twosComplement four spelled
    exact ⟨fits, behind, by rw [front, Encode.bytes, toList_data_append]⟩
  · rintro ⟨fits, behind, front⟩
    refine ⟨(Encode.count content.size).data.toList, behind, ?_, length_encode_count _,
      twosComplement_count fits⟩
    rw [front, Encode.bytes, toList_data_append]

/-- Strings at one place are as long as one another. -/
theorem StringAt.size_eq {content content' : ByteArray} (first : c.StringAt content)
    (second : c.StringAt content') : content.size = content'.size := by
  obtain ⟨word, behind, front, four, spelled⟩ := first
  obtain ⟨word', behind', front', four', spelled'⟩ := second
  have same : word = word' := by
    rw [front, List.append_assoc, List.append_assoc] at front'
    exact (List.append_inj front' (four.trans four'.symm)).1
  rw [same, spelled'] at spelled
  exact Int.ofNat.inj spelled.symm

/-- A string can be passed up to a place exactly if it stands there and ends at that place. -/
theorem skipString_eq_ok_iff : Read.skipString c = .ok () d ↔
    ∃ content, c.StringAt content ∧ d.pos = c.pos + 4 + content.size := by
  constructor
  · intro passed
    obtain ⟨n, e, size, rest⟩ := bind_eq_ok_iff.mp (Read.atomically_eq_ok_iff.mp passed)
    obtain ⟨content, taken⟩ := (Read.spans_bytes n e d).mpr rest
    obtain ⟨fits, front⟩ := Read.length_eq_ok_iff.mp size
    obtain ⟨rfl, behind⟩ := Read.bytes_eq_ok_iff.mp taken
    have split : c.rest = (Encode.bytes content).data.toList ++ d.rest := by
      rw [front, behind, Encode.bytes, toList_data_append, List.append_assoc]
    refine ⟨content, stringAt_iff.mpr ⟨fits, d.rest, split⟩, ?_⟩
    rw [(eq_append_rest_iff split).mp split, length_encode_bytes, Nat.add_assoc]
  · rintro ⟨content, stands, place⟩
    obtain ⟨fits, behind, split⟩ := stringAt_iff.mp stands
    refine Read.eq_ok_of_takes (Read.takes_skipString fits) ((eq_append_rest_iff split).mpr ?_)
    rw [place, length_encode_bytes, Nat.add_assoc]

/-- A string is read up to a place exactly if it can be passed up to there and is not above the
ceiling. -/
theorem string_eq_ok_iff {text : String} : Read.string c = .ok text d ↔
    ∃ content, c.StringAt content ∧ content.size ≤ Read.stringCeiling ∧
      text = Text.ofBytes content ∧ d.pos = c.pos + 4 + content.size := by
  rw [Read.string_eq_ok_iff]
  constructor
  · rintro ⟨content, le, rfl, split⟩
    have fits : content.size ≤ Read.countCeiling := Nat.le_trans le (by decide)
    refine ⟨content, stringAt_iff.mpr ⟨fits, d.rest, split⟩, le, rfl, ?_⟩
    rw [(eq_append_rest_iff split).mp split, length_encode_bytes, Nat.add_assoc]
  · rintro ⟨content, stands, le, rfl, place⟩
    obtain ⟨-, behind, split⟩ := stringAt_iff.mp stands
    refine ⟨content, le, rfl, (eq_append_rest_iff split).mpr ?_⟩
    rw [place, length_encode_bytes, Nat.add_assoc]

private theorem StringAt.exists_behind {content : ByteArray} (stands : c.StringAt content) :
    ∃ d : Cursor buf, d.pos = c.pos + 4 + content.size := by
  obtain ⟨word, behind, front, four, -⟩ := stands
  have lengths := congrArg List.length front
  have total := c.pos_add_remaining
  rw [List.length_append, List.length_append, c.length_rest, four, Array.length_toList,
    ByteArray.size_data] at lengths
  exact ⟨⟨c.pos + 4 + content.size, by omega⟩, rfl⟩

/-- A string that can be passed is not read exactly if it is above the ceiling. -/
theorem skipped_unread_iff :
    ((∃ d, Read.skipString c = .ok () d) ∧ ∀ text d, Read.string c ≠ .ok text d) ↔
      ∃ content, c.StringAt content ∧ Read.stringCeiling < content.size := by
  constructor
  · rintro ⟨⟨d, passed⟩, unread⟩
    obtain ⟨content, stands, place⟩ := skipString_eq_ok_iff.mp passed
    refine ⟨content, stands, Nat.lt_of_not_le fun le => ?_⟩
    exact unread _ d (string_eq_ok_iff.mpr ⟨content, stands, le, rfl, place⟩)
  · rintro ⟨content, stands, large⟩
    obtain ⟨d, place⟩ := stands.exists_behind
    refine ⟨⟨d, skipString_eq_ok_iff.mpr ⟨content, stands, place⟩⟩, fun text e read => ?_⟩
    obtain ⟨content', stands', le, -, -⟩ := string_eq_ok_iff.mp read
    rw [stands.size_eq stands'] at large
    exact Nat.not_lt_of_le le large

/-! ## Runs -/

/-- What may be done at a cursor. -/
inductive Operation where
  | uint8
  | int8
  | int16
  | int32
  | int64
  | double
  | string
  | skipString
  | bytes (count : Nat)
  | advance (count : Nat)
  | length (ceiling : Nat)
  | moveTo (pos : Nat)
  | toEnd
  deriving DecidableEq, Repr

namespace Operation

/-- What an operation gives if it does not fail. -/
def Result : Operation → Type
  | uint8 => UInt8
  | int8 => Int8
  | int16 => Int16
  | int32 => Int32
  | int64 => Int64
  | double => Binary64
  | string => String
  | bytes _ => ByteArray
  | length _ => Nat
  | skipString | advance _ | moveTo _ | toEnd => Unit

/-- An operation as a read. To move to a place never fails. -/
def run : (operation : Operation) → Read buf operation.Result
  | uint8 => Read.uint8
  | int8 => Read.int8
  | int16 => Read.int16
  | int32 => Read.int32
  | int64 => Read.int64
  | double => Read.double
  | string => Read.string
  | skipString => Read.skipString
  | bytes count => Read.bytes count
  | advance count => Read.advance count
  | length ceiling => Read.lengthUpTo ceiling
  | moveTo pos => fun c => .ok () (c.moveTo pos)
  | toEnd => fun c => .ok () c.toEnd

end Operation

/-- The cursor that an outcome leaves, whether it is a success or not. -/
def leaves : EStateM.Result Fault (Cursor buf) α → Cursor buf
  | .ok _ d => d
  | .error _ d => d

/-- The cursor after operations one after another. -/
def after (operations : List Operation) (c : Cursor buf) : Cursor buf :=
  operations.foldl (fun c operation => leaves (operation.run c)) c

/-- The operations of a run that do not fail in it. -/
def succeeded (c : Cursor buf) : List Operation → List Operation
  | [] => []
  | operation :: rest =>
    match operation.run c with
    | .ok _ d => operation :: succeeded d rest
    | .error _ d => succeeded d rest

private theorem eq_of_atomically_error {read : Read buf α} {fault : Fault}
    (failed : Read.atomically read c = .error fault d) : d = c := by
  unfold Read.atomically at failed
  split at failed <;> cases failed
  rfl

private theorem eq_of_number_error {ofNat : Nat → α} {width : Nat} {fault : Fault}
    (failed : (ofNat <$> Read.natural width) c = .error fault d) : d = c := by
  have missing : Read.bytes width c = .error fault d :=
    map_eq_error_iff.mp (map_eq_error_iff.mp failed)
  unfold Read.bytes at missing
  split at missing <;> cases missing
  rfl

/-- An operation that fails leaves the cursor where it was. -/
theorem Operation.eq_of_error {operation : Operation} {fault : Fault}
    (failed : operation.run c = .error fault d) : d = c := by
  cases operation with
  | uint8 | int8 | int16 | int32 | int64 | double => exact eq_of_number_error failed
  | string | skipString | length ceiling => exact eq_of_atomically_error failed
  | bytes count | advance count =>
    simp only [run, Read.bytes, Read.advance] at failed
    split at failed <;> cases failed
    rfl
  | moveTo pos | toEnd => cases failed

private theorem after_cons (operation : Operation) (rest : List Operation) (c : Cursor buf) :
    after (operation :: rest) c = after rest (leaves (operation.run c)) := rfl

/-- The operations of a run that fail make no difference to it. -/
theorem after_succeeded (operations : List Operation) (c : Cursor buf) :
    after (succeeded c operations) c = after operations c := by
  induction operations generalizing c with
  | nil => rfl
  | cons operation rest ih =>
    rw [succeeded, after_cons]
    split
    · next a d outcome =>
      rw [after_cons, outcome]
      exact ih d
    · next fault d failed =>
      rw [failed]
      cases Operation.eq_of_error failed
      exact ih c

/-- A length is read exactly if its four bytes remain and spell a number that is not negative and
not above the ceiling. -/
theorem lengthUpTo_eq_ok_iff {ceiling n : Nat} : Read.lengthUpTo ceiling c = .ok n d ↔
    4 ≤ c.remaining ∧ twosComplement (c.rest.take 4) = n ∧ n ≤ ceiling ∧ d.pos = c.pos + 4 := by
  have four := length_encode_count n
  rw [Read.lengthUpTo_eq_ok_iff, Read.length_eq_ok_iff]
  constructor
  · rintro ⟨⟨fits, split⟩, le⟩
    have place := (eq_append_rest_iff split).mp split
    rw [← c.length_rest, split, List.length_append, four, List.take_append_of_le_length four.ge,
      List.take_of_length_le four.le, twosComplement_count fits]
    exact ⟨Nat.le_add_right _ _, rfl, le, four ▸ place⟩
  · rintro ⟨enough, spelled, le, place⟩
    have word : (c.rest.take 4).length = 4 := by
      rw [List.length_take, c.length_rest]
      omega
    obtain ⟨fits, same⟩ := eq_count_of_twosComplement word spelled
    have split : c.rest = (Encode.count n).data.toList ++ c.rest.drop 4 := by
      rw [← same, List.take_append_drop]
    exact ⟨⟨fits, (eq_append_rest_iff split).mpr (four ▸ place)⟩, le⟩

/-- What operations do at a place. -/
structure Exact (c : Cursor buf) : Prop where
  /-- The place is in the buffer or at its end. -/
  pos_le_size : c.pos ≤ buf.size
  /-- An operation that fails leaves the cursor where it is. -/
  undone : ∀ (operation : Operation) (fault : Fault) (d : Cursor buf),
    operation.run c = .error fault d → d = c
  /-- Numbers are read from their fixed widths. -/
  uint8 : c.FixedAt Operation.uint8.run 1 fun bytes (n : UInt8) => n.toNat = unsigned bytes
  int8 : c.FixedAt Operation.int8.run 1 fun bytes (n : Int8) => n.toInt = twosComplement bytes
  int16 : c.FixedAt Operation.int16.run 2 fun bytes (n : Int16) => n.toInt = twosComplement bytes
  int32 : c.FixedAt Operation.int32.run 4 fun bytes (n : Int32) => n.toInt = twosComplement bytes
  int64 : c.FixedAt Operation.int64.run 8 fun bytes (n : Int64) => n.toInt = twosComplement bytes
  double : c.FixedAt Operation.double.run 8 fun bytes (x : Binary64) =>
    x.bits.toNat = unsigned bytes
  /-- As many bytes as are asked for are read as they are, or passed. -/
  bytes : ∀ count, c.FixedAt (Operation.bytes count).run count fun bytes (content : ByteArray) =>
    content.data.toList = bytes
  advance : ∀ count, c.FixedAt (Operation.advance count).run count fun _ _ => True
  /-- A length is read if its four bytes are there and it is neither negative nor too large. -/
  length_iff : ∀ (ceiling n : Nat) (d : Cursor buf),
    (Operation.length ceiling).run c = .ok n d ↔
      4 ≤ c.remaining ∧ twosComplement (c.rest.take 4) = n ∧ n ≤ ceiling ∧ d.pos = c.pos + 4
  /-- A string is read if it is there and not above the ceiling. -/
  string_iff : (∃ (text : String) (d : Cursor buf), Operation.string.run c = .ok text d) ↔
    ∃ content, c.StringAt content ∧ content.size ≤ Read.stringCeiling
  /-- The text of a string is that of its bytes, and its end is behind them. -/
  string : ∀ (text : String) (d : Cursor buf), Operation.string.run c = .ok text d →
    ∃ content, c.StringAt content ∧ text = Text.ofBytes content ∧
      d.pos = c.pos + 4 + content.size
  /-- A string that is read can be passed up to the same place. -/
  skipString_of_string : ∀ (text : String) (d : Cursor buf), Operation.string.run c = .ok text d →
    Operation.skipString.run c = .ok () d
  /-- A string can be passed and not read exactly if it is there and above the ceiling. -/
  skipped_unread_iff :
    ((∃ d : Cursor buf, Operation.skipString.run c = .ok () d) ∧
        ∀ (text : String) (d : Cursor buf), Operation.string.run c ≠ .ok text d) ↔
      ∃ content, c.StringAt content ∧ Read.stringCeiling < content.size

/-- What operations do is exact at every place in a buffer. -/
theorem exact_at (c : Cursor buf) : c.Exact := by
  constructor
  case pos_le_size => exact c.pos_le_size
  case undone => exact fun _ _ _ => Operation.eq_of_error
  case uint8 =>
    refine fixedAt_number (fun bytes one => ?_) c
    have below := unsigned_lt bytes
    rw [one] at below
    exact Nat.mod_eq_of_lt below
  case int8 => exact fixedAt_number (fun _ width => toInt_ofNat_unsigned width rfl) c
  case int16 => exact fixedAt_number (fun _ width => toInt_ofNat_unsigned width rfl) c
  case int32 => exact fixedAt_number (fun _ width => toInt_ofNat_unsigned width rfl) c
  case int64 => exact fixedAt_number (fun _ width => toInt_ofNat_unsigned width rfl) c
  case double =>
    refine fixedAt_number (fun bytes eight => ?_) c
    have below := unsigned_lt bytes
    rw [eight] at below
    exact Nat.mod_eq_of_lt below
  case bytes => exact c.fixedAt_bytes
  case advance => exact c.fixedAt_advance
  case length_iff => exact fun _ _ _ => lengthUpTo_eq_ok_iff
  case string_iff =>
    constructor
    · rintro ⟨text, d, read⟩
      obtain ⟨content, stands, le, -, -⟩ := string_eq_ok_iff.mp read
      exact ⟨content, stands, le⟩
    · rintro ⟨content, stands, le⟩
      obtain ⟨d, place⟩ := stands.exists_behind
      exact ⟨_, d, string_eq_ok_iff.mpr ⟨content, stands, le, rfl, place⟩⟩
  case string =>
    intro text d read
    obtain ⟨content, stands, -, shown, place⟩ := string_eq_ok_iff.mp read
    exact ⟨content, stands, shown, place⟩
  case skipString_of_string => exact fun _ _ => Read.skipString_of_string
  case skipped_unread_iff => exact skipped_unread_iff

/-- After any run of operations what they do at the cursor is exact, and the operations of the run
that failed have left no trace. -/
theorem after_exact (buf : ByteArray) (operations : List Operation) :
    (after operations (start buf)).Exact ∧
      after (succeeded (start buf) operations) (start buf) = after operations (start buf) :=
  ⟨exact_at _, after_succeeded operations (start buf)⟩

end Cursor

end TaggedRpc
