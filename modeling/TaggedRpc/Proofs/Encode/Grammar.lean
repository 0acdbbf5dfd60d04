import Mathlib.Data.List.Induction
import TaggedRpc.Proofs.Encode.Envelope

/-!
# Grammar of headers

Which bytes are the header of a message (`Envelope.Header`), and that these are the ones that are
read as one (`Envelope.read_grammar`). A number is read exactly where its bytes stand in front, so
reading tells what was written: the parts of a header are found again one after another. Only one
byte of a header says nothing, the third of a versioned one.
-/

namespace TaggedRpc

private theorem Cursor.eq_of_rest_eq {buf : ByteArray} {c d : Cursor buf} (same : c.rest = d.rest) :
    c = d := by
  have left := congrArg List.length same
  have total := c.pos_add_remaining
  have total' := d.pos_add_remaining
  rw [c.length_rest, d.length_rest] at left
  exact Cursor.ext (by omega)

/-! ## Numbers -/

/-- Bytes are the digits of the number that they spell. -/
theorem digits256_bigEndian (bytes : List UInt8) :
    Encode.digits256 bytes.length (bigEndian bytes) = bytes := by
  induction bytes using List.reverseRecOn with
  | nil => rfl
  | append_singleton front last ih =>
    have below : last.toNat < 256 := last.toNat_lt
    have quotient : (256 * bigEndian front + last.toNat) / 256 = bigEndian front := by omega
    have digit : UInt8.ofNat (256 * bigEndian front + last.toNat) = last := by
      apply UInt8.toNat.inj
      rw [UInt8.toNat_ofNat']
      omega
    rw [List.length_append, List.length_singleton, Encode.digits256, bigEndian_concat, quotient,
      digit, ih]

/-- Bytes spell a number that their digits suffice for. -/
theorem bigEndian_lt (bytes : List UInt8) : bigEndian bytes < Nat.pow 256 bytes.length := by
  have spelled := bigEndian_digits256 bytes.length (bigEndian bytes)
  rw [digits256_bigEndian] at spelled
  rw [spelled]
  exact Nat.mod_lt _ (Nat.pow_pos (by decide))

private theorem natural_bigEndian (content : ByteArray) :
    Encode.natural content.size (bigEndian content.data.toList) = content := by
  have size : content.size = content.data.toList.length := by
    rw [Array.length_toList, ByteArray.size_data]
  rw [Encode.natural, size, digits256_bigEndian]
  exact ByteArray.ext (Array.ext' List.toList_data_toByteArray)

namespace Read

variable {buf : ByteArray} {α : Type} {c d : Cursor buf}

/-- A read succeeds up to the end of what it takes. -/
theorem eq_ok_of_takes {read : Read buf α} {bytes : ByteArray} {a : α} (takes : Takes read bytes a)
    (front : c.rest = bytes.data.toList ++ d.rest) : read c = .ok a d := by
  obtain ⟨e, outcome, behind⟩ := takes front
  rw [outcome, Cursor.eq_of_rest_eq behind]

/-- Some bytes are read exactly where they stand in front and are as many. -/
theorem bytes_eq_ok_iff {count : Nat} {content : ByteArray} :
    bytes count c = .ok content d ↔
      content.size = count ∧ c.rest = content.data.toList ++ d.rest := by
  constructor
  · intro outcome
    unfold bytes at outcome
    split at outcome
    · next enough =>
      cases outcome
      have total := c.pos_add_remaining
      refine ⟨by rw [ByteArray.size_extract]; omega, ?_⟩
      have same : (buf.extract c.pos (c.pos + count)).data.toList = c.rest.take count := by
        rw [ByteArray.data_extract, Array.toList_extract, List.extract_eq_take_drop,
          Nat.add_sub_cancel_left]
        rfl
      rw [same, Cursor.rest_forward, List.take_append_drop]
    · cases outcome
  · rintro ⟨rfl, front⟩
    exact eq_ok_of_takes (takes_bytes content) front

/-- A number is read exactly where its bytes stand in front, and if it fits. -/
theorem natural_eq_ok_iff {width n : Nat} :
    natural width c = .ok n d ↔
      n < Nat.pow 256 width ∧ c.rest = (Encode.natural width n).data.toList ++ d.rest := by
  constructor
  · intro outcome
    obtain ⟨content, taken, rfl⟩ := map_eq_ok_iff.mp outcome
    obtain ⟨rfl, front⟩ := bytes_eq_ok_iff.mp taken
    have fits := bigEndian_lt content.data.toList
    rw [Array.length_toList, ByteArray.size_data] at fits
    rw [natural_bigEndian]
    exact ⟨fits, front⟩
  · rintro ⟨fits, front⟩
    exact eq_ok_of_takes (takes_natural fits) front

/-- A byte is read exactly where it stands in front. -/
theorem uint8_eq_ok_iff {b : UInt8} :
    uint8 c = .ok b d ↔ c.rest = (Encode.uint8 b).data.toList ++ d.rest := by
  constructor
  · intro outcome
    obtain ⟨n, number, rfl⟩ := map_eq_ok_iff.mp outcome
    obtain ⟨fits, front⟩ := natural_eq_ok_iff.mp number
    have same : (UInt8.ofNat n).toNat = n := Nat.mod_eq_of_lt fits
    rw [Encode.uint8, same]
    exact front
  · exact eq_ok_of_takes (takes_uint8 b)

/-- A signed integer of four bytes is read exactly where its bytes stand in front. -/
theorem int32_eq_ok_iff {n : Int32} :
    int32 c = .ok n d ↔ c.rest = (Encode.int32 n).data.toList ++ d.rest := by
  constructor
  · intro outcome
    obtain ⟨m, number, rfl⟩ := map_eq_ok_iff.mp outcome
    obtain ⟨fits, front⟩ := natural_eq_ok_iff.mp number
    have same : (Int32.ofNat m).toUInt32.toNat = m := Nat.mod_eq_of_lt fits
    rw [Encode.int32, same]
    exact front
  · exact eq_ok_of_takes (takes_int32 n)

private theorem ofNat_toNatClampNeg {n : Int32} (positive : ¬ n < 0) :
    n.toNatClampNeg ≤ countCeiling ∧ Int32.ofNat n.toNatClampNeg = n := by
  rw [Int32.lt_iff_toInt_lt, Int32.toInt_zero, Int.not_lt] at positive
  have below : n.toInt < 2 ^ 31 := Int32.toInt_lt n
  constructor
  · show n.toInt.toNat ≤ 2147483647
    omega
  · show Int32.ofNat n.toInt.toNat = n
    rw [← Int32.ofInt_eq_ofNat, Int.toNat_of_nonneg positive, Int32.ofInt_toInt]

/-- A length is read exactly where it stands in front as a count, and if it fits. -/
theorem length_eq_ok_iff {n : Nat} :
    length c = .ok n d ↔ n ≤ countCeiling ∧ c.rest = (Encode.count n).data.toList ++ d.rest := by
  constructor
  · intro outcome
    obtain ⟨word, e, number, checked⟩ := bind_eq_ok_iff.mp (atomically_eq_ok_iff.mp outcome)
    split at checked
    · exact absurd checked throw_ne_ok
    · next positive =>
      obtain ⟨rfl, rfl⟩ := pure_eq_ok_iff.mp checked
      obtain ⟨fits, same⟩ := ofNat_toNatClampNeg positive
      rw [Encode.count, same]
      exact ⟨fits, int32_eq_ok_iff.mp number⟩
  · rintro ⟨fits, front⟩
    exact eq_ok_of_takes (takes_length fits) front

/-- A string is read exactly where its length and its bytes stand in front, and if it is not above
the ceiling. -/
theorem string_eq_ok_iff {text : String} :
    string c = .ok text d ↔ ∃ content : ByteArray, content.size ≤ stringCeiling ∧
      Text.ofBytes content = text ∧ c.rest = (Encode.bytes content).data.toList ++ d.rest := by
  constructor
  · intro outcome
    obtain ⟨n, e, size, body⟩ := bind_eq_ok_iff.mp (atomically_eq_ok_iff.mp outcome)
    obtain ⟨content, f, taken, last⟩ := bind_eq_ok_iff.mp body
    obtain ⟨rfl, rfl⟩ := pure_eq_ok_iff.mp last
    obtain ⟨length, le⟩ := lengthUpTo_eq_ok_iff.mp size
    obtain ⟨-, front⟩ := length_eq_ok_iff.mp length
    obtain ⟨rfl, behind⟩ := bytes_eq_ok_iff.mp taken
    refine ⟨content, le, rfl, ?_⟩
    rw [front, behind, Encode.bytes, toList_data_append, List.append_assoc]
  · rintro ⟨content, le, rfl, front⟩
    exact eq_ok_of_takes (takes_binary le) front

end Read

namespace Envelope

variable {buf : ByteArray} {c d : Cursor buf}

/-! ## Words -/

/-- Four bytes that spell a number, the most significant first. -/
def Spells (bytes : ByteArray) (n : Nat) : Prop :=
  bytes.size = 4 ∧ bigEndian bytes.data.toList = n

private theorem spells_iff {bytes : ByteArray} {n : Nat} :
    Spells bytes n ↔ n < Nat.pow 256 4 ∧ bytes = Encode.natural 4 n := by
  constructor
  · rintro ⟨size, rfl⟩
    have fits := bigEndian_lt bytes.data.toList
    have same := natural_bigEndian bytes
    rw [Array.length_toList, ByteArray.size_data, size] at fits
    rw [size] at same
    exact ⟨fits, same.symm⟩
  · rintro ⟨fits, rfl⟩
    refine ⟨Encode.size_natural 4 n, ?_⟩
    rw [Encode.natural, List.toList_data_toByteArray, bigEndian_digits256, Nat.mod_eq_of_lt fits]

private theorem spells_length_iff {bytes : ByteArray} {n : Nat} (fits : n ≤ Read.stringCeiling) :
    Spells bytes n ↔ bytes = Encode.count n := by
  have below : n < Nat.pow 256 4 := Nat.lt_of_le_of_lt fits (by decide)
  have same : (Int32.ofNat n).toUInt32.toNat = n := Nat.mod_eq_of_lt below
  rw [spells_iff, Encode.count, Encode.int32, same]
  exact and_iff_right below

private theorem spells_int32_iff {bytes : ByteArray} {n : Int32} :
    Spells bytes n.toUInt32.toNat ↔ bytes = Encode.int32 n := by
  rw [spells_iff]
  exact and_iff_right n.toUInt32.toNat_lt

private theorem neg_iff (word : Int32) : word < 0 ↔ 2147483648 ≤ word.toUInt32.toNat := by
  have same : word.toUInt32.toNat = word.toBitVec.toNat := rfl
  rw [Int32.lt_iff_toInt_lt, Int32.toInt_zero, same]
  change word.toBitVec.toInt < 0 ↔ _
  rw [BitVec.toInt_neg_iff]
  omega

private theorem versioned_iff (word : UInt32) :
    word &&& versionMask = version ↔ word.toNat / 65536 = 0x8001 := by
  have masked : word.toBitVec &&& versionMask.toBitVec = word.toBitVec >>> 16 <<< 16 := by
    rw [BitVec.shiftLeft_ushiftRight]
    rfl
  have value : (word &&& versionMask).toNat = word.toNat / 65536 * 65536 := by
    change (word.toBitVec &&& versionMask.toBitVec).toNat = word.toBitVec.toNat / 65536 * 65536
    have below := word.toBitVec.isLt
    rw [masked, BitVec.toNat_shiftLeft, BitVec.toNat_ushiftRight, Nat.shiftLeft_eq,
      Nat.shiftRight_eq_div_pow]
    omega
  have number : version.toNat = 0x8001 * 65536 := rfl
  rw [← UInt32.toNat_inj, value, number]
  omega

private theorem digits_int32 (word : Int32) :
    (Encode.int32 word).data.toList =
      [UInt8.ofNat (word.toUInt32.toNat / 256 / 256 / 256),
        UInt8.ofNat (word.toUInt32.toNat / 256 / 256), UInt8.ofNat (word.toUInt32.toNat / 256),
        UInt8.ofNat word.toUInt32.toNat] :=
  List.toList_data_toByteArray

private theorem strictWord_iff {word : Int32} {kind : UInt8} :
    word < 0 ∧ word.toUInt32 &&& versionMask = version ∧ word.toUInt32.toUInt8 = kind ↔
      ∃ spare, Encode.int32 word = ⟨#[0x80, 0x01, spare, kind]⟩ := by
  have below := word.toUInt32.toNat_lt
  rw [neg_iff, versioned_iff]
  constructor
  · rintro ⟨-, versioned, rfl⟩
    have first : word.toUInt32.toNat / 256 / 256 / 256 = 0x80 := by omega
    have second : UInt8.ofNat (word.toUInt32.toNat / 256 / 256) = 0x01 := by
      rw [← UInt8.toNat_inj, UInt8.toNat_ofNat']
      change _ = 1
      omega
    refine ⟨UInt8.ofNat (word.toUInt32.toNat / 256), ByteArray.ext (Array.ext' ?_)⟩
    rw [digits_int32, first, second]
    rfl
  · rintro ⟨spare, same⟩
    have digits := digits_int32 word
    rw [same] at digits
    simp only [List.cons.injEq, ← UInt8.toNat_inj, UInt8.toNat_ofNat'] at digits
    obtain ⟨first, second, -, last, -⟩ := digits
    change 0x80 = _ at first
    change 1 = _ at second
    refine ⟨by omega, by omega, ?_⟩
    rw [← UInt8.toNat_inj, last, UInt32.toNat_toUInt8]

private theorem exists_int32 {bytes : ByteArray} (size : bytes.size = 4) :
    ∃ word, Encode.int32 word = bytes := by
  have fits := bigEndian_lt bytes.data.toList
  rw [Array.length_toList, ByteArray.size_data, size] at fits
  have same : (UInt32.ofNat (bigEndian bytes.data.toList)).toInt32.toUInt32.toNat =
      bigEndian bytes.data.toList := Nat.mod_eq_of_lt fits
  refine ⟨(UInt32.ofNat (bigEndian bytes.data.toList)).toInt32, ?_⟩
  rw [Encode.int32, same, ← size, natural_bigEndian]

/-! ## Headers -/

/-- The bytes that are a header in some layout, with the bytes of its method, the byte of its kind,
and its sequence number. -/
inductive Header : Framing → ByteArray → UInt8 → Int32 → ByteArray → Prop where
  /-- The version, a byte that says nothing, the kind, the method behind its length, and the
  sequence number. -/
  | strict {method size sequence : ByteArray} {spare kind : UInt8} {sequenceId : Int32}
      (fits : method.size ≤ Read.stringCeiling) (counted : Spells size method.size)
      (numbered : Spells sequence sequenceId.toUInt32.toNat) :
      Header .strict method kind sequenceId
        (⟨#[0x80, 0x01, spare, kind]⟩ ++ size ++ method ++ sequence)
  /-- The method behind its length, the kind, and the sequence number. -/
  | legacy {method size sequence : ByteArray} {kind : UInt8} {sequenceId : Int32}
      (fits : method.size ≤ Read.stringCeiling) (counted : Spells size method.size)
      (numbered : Spells sequence sequenceId.toUInt32.toNat) :
      Header .legacy method kind sequenceId (size ++ method ++ ⟨#[kind]⟩ ++ sequence)

private theorem uint8_eq (b : UInt8) : Encode.uint8 b = ⟨#[b]⟩ := by
  rw [Encode.uint8, Encode.natural, Encode.digits256, UInt8.ofNat_toNat]
  rfl

section Parts

variable {method bytes : ByteArray} {kind : UInt8} {sequenceId : Int32}

/-- The bytes of a versioned header are its first word, and what is written for its method and its
sequence number. -/
theorem header_strict_iff :
    Header .strict method kind sequenceId bytes ↔ method.size ≤ Read.stringCeiling ∧
      ∃ spare, bytes =
        ⟨#[0x80, 0x01, spare, kind]⟩ ++ (Encode.bytes method ++ Encode.int32 sequenceId) := by
  constructor
  · rintro (⟨fits, counted, numbered⟩ | _)
    rw [(spells_length_iff fits).mp counted, spells_int32_iff.mp numbered, ByteArray.append_assoc,
      ByteArray.append_assoc, ← ByteArray.append_assoc (a := Encode.count _)]
    exact ⟨fits, _, rfl⟩
  · rintro ⟨fits, spare, rfl⟩
    rw [Encode.bytes, ← ByteArray.append_assoc, ← ByteArray.append_assoc]
    exact .strict fits ((spells_length_iff fits).mpr rfl) (spells_int32_iff.mpr rfl)

/-- The bytes of a header without a version are what is written for its parts. -/
theorem header_legacy_iff :
    Header .legacy method kind sequenceId bytes ↔ method.size ≤ Read.stringCeiling ∧
      bytes = Encode.bytes method ++ (Encode.uint8 kind ++ Encode.int32 sequenceId) := by
  rw [uint8_eq, ← ByteArray.append_assoc]
  constructor
  · rintro (_ | ⟨fits, counted, numbered⟩)
    rw [(spells_length_iff fits).mp counted, spells_int32_iff.mp numbered]
    exact ⟨fits, rfl⟩
  · rintro ⟨fits, rfl⟩
    exact .legacy fits ((spells_length_iff fits).mpr rfl) (spells_int32_iff.mpr rfl)

end Parts

/-- The bytes of a header with the byte that says nothing set to zero, if there is one. -/
def clearSpare : Framing → List UInt8 → List UInt8
  | .strict, bytes => bytes.set 2 0
  | .legacy, bytes => bytes

/-- The rest of a versioned header is read exactly where its word says the version, and the method
and the sequence number stand in front. -/
theorem readStrict_eq_ok_iff {word : UInt32} {e : Envelope} :
    readStrict word c = .ok e d ↔ word &&& versionMask = version ∧
      ∃ method : ByteArray, method.size ≤ Read.stringCeiling ∧
        e = ⟨Text.ofBytes method, kindOfWord word, e.sequenceId, .strict⟩ ∧
        c.rest = (Encode.bytes method ++ Encode.int32 e.sequenceId).data.toList ++ d.rest := by
  unfold readStrict
  by_cases versioned : word &&& versionMask = version
  · rw [if_neg (not_not_intro versioned), and_iff_right versioned]
    constructor
    · intro outcome
      obtain ⟨text, c₁, string, outcome⟩ := bind_eq_ok_iff.mp outcome
      obtain ⟨sequenceId, c₂, number, outcome⟩ := bind_eq_ok_iff.mp outcome
      obtain ⟨rfl, rfl⟩ := pure_eq_ok_iff.mp outcome
      obtain ⟨method, fits, rfl, front⟩ := Read.string_eq_ok_iff.mp string
      refine ⟨method, fits, rfl, ?_⟩
      rw [front, Read.int32_eq_ok_iff.mp number, toList_data_append, List.append_assoc]
    · rintro ⟨method, fits, same, front⟩
      have takes : Read.Takes (do
          let text ← Read.string
          let sequenceId ← Read.int32
          return ⟨text, kindOfWord word, sequenceId, .strict⟩ : Read buf Envelope)
          (Encode.bytes method ++ Encode.int32 e.sequenceId) e :=
        (Read.takes_binary fits).bind ((Read.takes_int32 e.sequenceId).map same.symm)
      exact Read.eq_ok_of_takes takes front
  · rw [if_pos versioned]
    exact iff_of_false throw_ne_ok fun both => versioned both.1

/-- The rest of a header without a version is read exactly where the method is not above the
ceiling, and it, the kind and the sequence number stand in front. -/
theorem readLegacy_eq_ok_iff {length : Nat} {e : Envelope} :
    readLegacy length c = .ok e d ↔ length ≤ Read.stringCeiling ∧
      ∃ (method : ByteArray) (kind : UInt8), method.size = length ∧
        e = ⟨Text.ofBytes method, .ofByte kind, e.sequenceId, .legacy⟩ ∧
        c.rest = (method ++ (Encode.uint8 kind ++ Encode.int32 e.sequenceId)).data.toList ++
          d.rest := by
  unfold readLegacy
  by_cases fits : length ≤ Read.stringCeiling
  · rw [if_neg (Nat.not_lt_of_le fits), and_iff_right fits]
    constructor
    · intro outcome
      obtain ⟨method, c₁, taken, outcome⟩ := bind_eq_ok_iff.mp outcome
      obtain ⟨kind, c₂, byte, outcome⟩ := bind_eq_ok_iff.mp outcome
      obtain ⟨sequenceId, c₃, number, outcome⟩ := bind_eq_ok_iff.mp outcome
      obtain ⟨rfl, rfl⟩ := pure_eq_ok_iff.mp outcome
      obtain ⟨size, front⟩ := Read.bytes_eq_ok_iff.mp taken
      refine ⟨method, kind, size, rfl, ?_⟩
      rw [front, Read.uint8_eq_ok_iff.mp byte, Read.int32_eq_ok_iff.mp number, toList_data_append,
        toList_data_append, List.append_assoc, List.append_assoc]
    · rintro ⟨method, kind, rfl, same, front⟩
      have takes : Read.Takes (do
          let content ← Read.bytes method.size
          let kind ← Read.uint8
          let sequenceId ← Read.int32
          return ⟨Text.ofBytes content, .ofByte kind, sequenceId, .legacy⟩ : Read buf Envelope)
          (method ++ (Encode.uint8 kind ++ Encode.int32 e.sequenceId)) e :=
        (Read.takes_bytes method).bind
          ((Read.takes_uint8 kind).bind ((Read.takes_int32 e.sequenceId).map same.symm))
      exact Read.eq_ok_of_takes takes front
  · rw [if_pos (Nat.lt_of_not_le fits)]
    exact iff_of_false throw_ne_ok fun both => fits both.1

/-- A header is read exactly where the bytes of one stand in front, and says what they say. -/
theorem read_eq_ok_iff {e : Envelope} :
    read c = .ok e d ↔ ∃ (method : ByteArray) (kind : UInt8) (bytes : ByteArray),
      Header e.framing method kind e.sequenceId bytes ∧ e.method = Text.ofBytes method ∧
        e.kind = .ofByte kind ∧ c.rest = bytes.data.toList ++ d.rest := by
  constructor
  · intro outcome
    obtain ⟨word, c₁, number, outcome⟩ := bind_eq_ok_iff.mp outcome
    have front := Read.int32_eq_ok_iff.mp number
    split at outcome
    · next negative =>
      obtain ⟨versioned, method, fits, same, behind⟩ := readStrict_eq_ok_iff.mp outcome
      obtain ⟨spare, first⟩ := strictWord_iff.mp ⟨negative, versioned, rfl⟩
      rw [same]
      refine ⟨method, word.toUInt32.toUInt8, _, header_strict_iff.mpr ⟨fits, spare, rfl⟩, rfl, rfl,
        ?_⟩
      rw [front, first, behind, toList_data_append _ (_ ++ _), List.append_assoc]
    · next positive =>
      obtain ⟨fits, method, kind, size, same, behind⟩ := readLegacy_eq_ok_iff.mp outcome
      obtain ⟨-, counted⟩ := Read.ofNat_toNatClampNeg positive
      rw [← size] at fits counted
      rw [same]
      refine ⟨method, kind, _, header_legacy_iff.mpr ⟨fits, rfl⟩, rfl, rfl, ?_⟩
      rw [front, behind, ← counted, Encode.bytes, Encode.count, ByteArray.append_assoc,
        toList_data_append (Encode.int32 _), List.append_assoc]
  · obtain ⟨text, label, sequenceId, framing⟩ := e
    rintro ⟨method, kind, bytes, header, rfl, rfl, front⟩
    cases framing with
    | strict =>
      obtain ⟨fits, spare, rfl⟩ := header_strict_iff.mp header
      obtain ⟨word, first⟩ := @exists_int32 ⟨#[0x80, 0x01, spare, kind]⟩ rfl
      obtain ⟨negative, versioned, last⟩ := strictWord_iff.mpr ⟨spare, first⟩
      rw [← first, toList_data_append, List.append_assoc] at front
      obtain ⟨c₁, number, behind⟩ := Read.takes_int32 word front
      refine bind_eq_ok_iff.mpr ⟨word, c₁, number, ?_⟩
      rw [if_pos negative]
      refine readStrict_eq_ok_iff.mpr ⟨versioned, method, fits, ?_, behind⟩
      rw [kindOfWord, last]
    | legacy =>
      obtain ⟨fits, rfl⟩ := header_legacy_iff.mp header
      have short : method.size ≤ Read.countCeiling := Nat.le_trans fits (by decide)
      rw [Encode.bytes, Encode.count, ByteArray.append_assoc, toList_data_append,
        List.append_assoc] at front
      obtain ⟨c₁, number, behind⟩ := Read.takes_int32 _ front
      refine bind_eq_ok_iff.mpr ⟨_, c₁, number, ?_⟩
      rw [if_neg (Read.not_ofNat_neg short), Read.toNatClampNeg_ofNat short]
      exact readLegacy_eq_ok_iff.mpr ⟨fits, method, kind, rfl, rfl, behind⟩

private theorem natural_version (kind : UInt8) :
    Encode.natural 4 (version ||| kind.toUInt32).toNat = ⟨#[0x80, 0x01, 0, kind]⟩ := by
  have below : kind.toNat < 2 ^ 8 := kind.toNat_lt
  have number : (version ||| kind.toUInt32).toNat = 2 ^ 8 * 0x800100 + kind.toNat := by
    rw [UInt32.toNat_or, UInt8.toNat_toUInt32, Nat.two_pow_add_eq_or_of_lt below]
    rfl
  have upper : (2 ^ 8 * 0x800100 + kind.toNat) / 256 = 0x800100 := by omega
  have last : UInt8.ofNat (2 ^ 8 * 0x800100 + kind.toNat) = kind := by
    rw [← UInt8.toNat_inj, UInt8.toNat_ofNat']
    omega
  rw [number, Encode.natural, Encode.digits256, upper, last]
  rfl

/-- What is written for a header whose method is text are the bytes of the header, where the byte
that says nothing is zero. -/
theorem encode_of_header {framing : Framing} {text : String} {kind : UInt8} {sequenceId : Int32}
    {bytes : ByteArray} (header : Header framing text.toUTF8 kind sequenceId bytes) :
    (Encode.envelope ⟨text, .ofByte kind, sequenceId, framing⟩).data.toList =
      clearSpare framing bytes.data.toList := by
  cases framing with
  | strict =>
    obtain ⟨-, spare, rfl⟩ := header_strict_iff.mp header
    rw [Encode.envelope]
    dsimp only
    rw [Kind.toByte_ofByte, natural_version, ByteArray.append_assoc, toList_data_append,
      toList_data_append _ (_ ++ _), clearSpare]
    rfl
  | legacy =>
    obtain ⟨-, rfl⟩ := header_legacy_iff.mp header
    rw [Encode.envelope]
    dsimp only
    rw [Kind.toByte_ofByte, ByteArray.append_assoc]
    rfl

/-- The bytes that are read as a header are exactly those of the grammar, wherever they stand, and
the header says what they say. A header that is written is read back, whatever bytes follow it, if
its method is not above the ceiling and its kind is the kind of some byte. A header whose method is
UTF-8 is written again as it was, except that the byte that says nothing is zero. -/
theorem read_grammar (c : Cursor buf) :
    (∀ (e : Envelope) (bytes : ByteArray),
      (∃ d, read c = .ok e d ∧ c.rest = bytes.data.toList ++ d.rest) ↔
        bytes.data.toList <+: c.rest ∧ ∃ (method : ByteArray) (kind : UInt8),
          Header e.framing method kind e.sequenceId bytes ∧
            e.method = Text.ofBytes method ∧ e.kind = .ofByte kind) ∧
    (∀ (e : Envelope) (following : List UInt8),
      e.method.utf8ByteSize ≤ Read.stringCeiling → (∃ b, Kind.ofByte b = e.kind) →
        c.rest = (Encode.envelope e).data.toList ++ following →
          ∃ d, read c = .ok e d ∧ d.rest = following) ∧
    (∀ (framing : Framing) (method : ByteArray) (kind : UInt8) (sequenceId : Int32)
      (bytes : ByteArray), Header framing method kind sequenceId bytes → method.IsValidUTF8 →
        (Encode.envelope ⟨Text.ofBytes method, .ofByte kind, sequenceId, framing⟩).data.toList =
          clearSpare framing bytes.data.toList) := by
  refine ⟨fun e bytes => ⟨?_, ?_⟩, ?_, ?_⟩
  · rintro ⟨d, outcome, front⟩
    obtain ⟨method, kind, bytes', header, text, label, front'⟩ := read_eq_ok_iff.mp outcome
    have same : bytes' = bytes :=
      ByteArray.ext (Array.ext' (List.append_cancel_right (front'.symm.trans front)))
    rw [same] at header
    exact ⟨⟨d.rest, front.symm⟩, method, kind, header, text, label⟩
  · rintro ⟨⟨following, front⟩, method, kind, header, text, label⟩
    have enough : bytes.data.toList.length ≤ c.remaining := by
      rw [← c.length_rest, ← front, List.length_append]
      exact Nat.le_add_right _ _
    have behind : c.rest = bytes.data.toList ++ (c.forward _ enough).rest := by
      rw [Cursor.rest_forward, ← front, List.drop_left]
    exact ⟨_, read_eq_ok_iff.mpr ⟨method, kind, bytes, header, text, label, behind⟩, behind⟩
  · intro e following method known front
    exact takes_read method known front
  · intro framing method kind sequenceId bytes header valid
    obtain ⟨text, rfl⟩ : ∃ text : String, text.toUTF8 = method :=
      ⟨String.ofByteArray method valid, rfl⟩
    rw [Text.ofBytes_toUTF8]
    exact encode_of_header header

/-- The bytes of a versioned header, where the byte that says nothing is 42. -/
def sampleHeader : ByteArray := ⟨#[0x80, 0x01, 42, 0x01, 0, 0, 0, 1, 0x66, 0, 0, 0, 7]⟩

/-- A versioned header is read behind another byte, and written again with a zero in place of its
third byte. A header without a version is read back as it was written. -/
theorem read_sampleHeader :
    (∃ c d : Cursor (⟨#[255]⟩ ++ sampleHeader ++ ⟨#[9]⟩), c.pos = 1 ∧
      read c = .ok ⟨"f", .call, 7, .strict⟩ d ∧ c.rest = sampleHeader.data.toList ++ d.rest) ∧
    (Encode.envelope ⟨"f", .call, 7, .strict⟩).data.toList = sampleHeader.data.toList.set 2 0 ∧
    ∃ d, read (Cursor.start (Encode.envelope ⟨"f", .reply, -1, .legacy⟩ ++ ⟨#[9]⟩)) =
      .ok ⟨"f", .reply, -1, .legacy⟩ d ∧ d.rest = [9] := by
  have method : Text.ofBytes ⟨#[0x66]⟩ = "f" := Text.ofBytes_toUTF8 "f"
  have header : Header .strict ⟨#[0x66]⟩ 1 7 sampleHeader :=
    header_strict_iff.mpr ⟨by decide, 42, rfl⟩
  refine ⟨?_, ?_, ?_⟩
  · have front : sampleHeader.data.toList <+:
        (⟨1, by decide⟩ : Cursor (⟨#[255]⟩ ++ sampleHeader ++ ⟨#[9]⟩)).rest := ⟨[9], rfl⟩
    obtain ⟨d, outcome, behind⟩ := ((read_grammar _).1 ⟨"f", .call, 7, .strict⟩ sampleHeader).mpr
      ⟨front, ⟨#[0x66]⟩, 1, header, method.symm, rfl⟩
    exact ⟨_, d, rfl, outcome, behind⟩
  · have written := (read_grammar (Cursor.start .empty)).2.2 _ _ _ _ _ header "f".isValidUTF8
    rw [method] at written
    exact written
  · exact (read_grammar _).2.1 ⟨"f", .reply, -1, .legacy⟩ [9] (by decide) ⟨2, rfl⟩ rfl

end Envelope

end TaggedRpc
