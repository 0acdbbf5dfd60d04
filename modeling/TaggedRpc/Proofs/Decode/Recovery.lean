import TaggedRpc.Proofs.Decode.Counted
import TaggedRpc.Proofs.Decode.Noninterference
import TaggedRpc.Proofs.Encode.Skipped

/-!
# Recovery from fields that fail

A field whose value cannot be read is kept with its fault, and its value is skipped. The place is
then that behind the field, but the entries that were counted before the fault are not given back.
So the fields behind it are those of the message without the field if it counted no entries, or if
they come to no collection for which too few are left (`decode_of_failed_field`). Otherwise a
collection behind it may not be built for want of entries that no collection of the message has
(`decode_failedList`).
-/

namespace TaggedRpc

namespace Decoder

variable {buf buf' : ByteArray} {limits : Limits} {registry : Option Registry} {names : FieldNames}
  {depth : Nat} {before new : List (String × Field)} {tag : UInt8} {id : Int16}

/-! ## The count -/

private theorem Reaches.elements_le {done : List (String × Field)} {s t : Decoder buf}
    (reaches : Reaches limits names (values limits names depth) done s before t)
    (within : s.elements ≤ limits.maxElements) : t.elements ≤ limits.maxElements := by
  induction reaches with
  | here => exact within
  | @next done before s t c tag id kept header rest ih =>
    have counted := counts_readField (counts_values limits names depth) tag id
      (s := { s with cursor := c }) within
    exact ih counted.elements_le.2

private theorem elements_le_of_readField {s u : Decoder buf} {field : Field}
    (within : s.elements ≤ limits.maxElements)
    (read : readField limits (values limits names depth) tag id s = (field, u)) :
    s.elements ≤ u.elements := by
  have counted := counts_readField (counts_values limits names depth) tag id within
  rw [giving_eq_ok_iff.mpr read] at counted
  exact Nat.le_trans (Nat.le_add_right _ _) counted.elements_le.1

/-! ## One field less -/

/-- If reading fields reaches a field in one place, and in another one the bytes behind the field
instead, after the same fields and with as many entries counted, then all other fields are the same,
if they are complete and none of them has the key of the field. Entries that the field counted must
not be missed behind it. -/
theorem readFields_of_field_removed (skips : limits.skipUnbuilt) {s r u v : Decoder buf}
    {s' r' : Decoder buf'} {c : Cursor buf} {field : Field}
    (reaches : Reaches limits names (values limits names depth) [] s before r)
    (reaches' : Reaches limits names (values limits names depth) [] s' before r')
    (within : s.elements ≤ limits.maxElements) (elements : r'.elements = r.elements)
    (header : readHeader r.cursor = .ok (some (tag, id)) c)
    (read : readField limits (values limits names depth) tag id { r with cursor := c } = (field, u))
    (same : r'.cursor.rest = u.cursor.rest)
    (entries : EntriesFrom limits names (values limits names depth) u new v)
    (final : (readFields limits names (values limits names depth) s).2.desync = none)
    (alone : ∀ entry ∈ new ++ before, entry.1 ≠ names.keyFor id)
    (unspent : u.elements = r.elements ∨ ¬ FieldsRunOut limits names depth u) :
    ∃ fields v', readFields limits names (values limits names depth) s = (fields, v) ∧
      readFields limits names (values limits names depth) s' =
        (fields.without (names.keyFor id), v') ∧
      fields.get? (names.keyFor id) = some field ∧ v'.desync = none ∧
      v'.cursor.remaining = v.cursor.remaining := by
  have comes := comesTo_iff.mpr ⟨r, c, reaches, header, rfl⟩
  have whole := readFields_of_comesTo comes read entries
  rw [whole] at final
  have kept := entries.kept final
  have counted : r.elements ≤ u.elements :=
    elements_le_of_readField (s := { r with cursor := c }) (reaches.elements_le within) read
  obtain ⟨v', entries', final', left⟩ :
      ∃ v', EntriesFrom limits names (values limits names depth) r' new v' ∧ v'.desync = none ∧
        v'.cursor.remaining = v.cursor.remaining := by
    rcases unspent with none | unspent
    · exact entriesFrom_of_rest skips same kept reaches'.kept' entries final
        (elements.trans none.symm)
    · exact entriesFrom_of_fewer skips same kept reaches'.kept' entries final
        (elements ▸ counted) fun comes spent => unspent ⟨_, _, _, _, comes, spent⟩
  have apart : ∀ entry ∈ before.reverse ++ new.reverse, entry.1 ≠ names.keyFor id := by
    intro entry among
    exact alone entry (by simpa [or_comm] using among)
  refine ⟨_, v', whole, ?_, ?_, final', left⟩
  · rw [readFields_of_reaches reaches' entries', ← Fields.ofList_without apart, desyncReason,
      desyncReason, show v.desync = none from final, final']
    rfl
  · exact Fields.get?_ofList_last _ fun entry among => apart entry (List.mem_append_right _ among)

/-! ## Messages -/

/-- Decoding a message with an envelope reaches a field of its body, after some fields before. -/
def BodyReaches (limits : Limits) (registry : Option Registry) (buf : ByteArray)
    (envelope : Envelope) (before : List (String × Field)) (t : Decoder buf) : Prop :=
  ∃ c, Envelope.read (Cursor.start buf) = .ok envelope c ∧
    Reaches limits (namesOf registry envelope)
      (values limits (namesOf registry envelope) limits.maxDepth) []
      { start buf with cursor := c } before t

/-- Whatever bytes follow, decoding a message reaches the same field behind the first ones, with as
many entries counted. -/
private theorem BodyReaches.exchange (skips : limits.skipUnbuilt) {front suffix : ByteArray}
    {envelope : Envelope} {t : Decoder (front ++ suffix)}
    (reaches : BodyReaches limits registry (front ++ suffix) envelope before t)
    (place : t.pos = front.size) (suffix' : ByteArray) :
    ∃ u, BodyReaches limits registry (front ++ suffix') envelope before u ∧
      u.pos = front.size ∧ u.elements = t.elements := by
  obtain ⟨d, header, reaches⟩ := reaches
  have within := length_le_remaining place
  obtain ⟨c, e, header', start₀, start₁⟩ :=
    envelope_exchange header (Nat.le_trans within reaches.remaining_le) suffix'
  obtain ⟨s, alone, near⟩ := reaches.back skips start₀ within
  obtain ⟨u, reaches', near'⟩ := alone.forward skips start₁
  refine ⟨u, ⟨e, header', reaches'⟩, (near'.place.pos.trans near.place.pos.symm).trans place, ?_⟩
  exact near'.elements.trans near.elements.symm

end Decoder

open Decoder

/-- A field that fails leaves no trace on the others, if it has not counted any entries or none are
missed behind it. If decoding a complete message reaches a field behind some bytes, whose value
cannot be read and is skipped, and no other field has its key, then the message without the bytes of
the field is decoded to the same fields in the same order, without the one that failed. -/
theorem decode_of_failed_field (limits : Limits) (registry : Option Registry)
    (front field rest : ByteArray) (skips : limits.skipUnbuilt) {message : Message}
    (decoded : decode limits registry (front ++ (field ++ rest)) = .ok message)
    (complete : message.fields.incomplete = none) {before new : List (String × Field)}
    {s u v : Decoder (front ++ (field ++ rest))} {c : Cursor (front ++ (field ++ rest))}
    {tag : UInt8} {id : Int16} {text : String}
    (reaches : BodyReaches limits registry (front ++ (field ++ rest)) message.envelope before s)
    (place : s.pos = front.size) (header : readHeader s.cursor = .ok (some (tag, id)) c)
    (failed : readField limits
      (values limits (namesOf registry message.envelope) limits.maxDepth) tag id
        { s with cursor := c } = (.failed tag id text, u))
    (ends : u.pos = front.size + field.size)
    (entries : EntriesFrom limits (namesOf registry message.envelope)
      (values limits (namesOf registry message.envelope) limits.maxDepth) u new v)
    (alone : ∀ entry ∈ new ++ before, entry.1 ≠ (namesOf registry message.envelope).keyFor id)
    (unspent : u.elements = s.elements ∨
      ¬ FieldsRunOut limits (namesOf registry message.envelope) limits.maxDepth u) :
    ∃ message', decode limits registry (front ++ rest) = .ok message' ∧
      message'.envelope = message.envelope ∧
      message'.fields =
        message.fields.without ((namesOf registry message.envelope).keyFor id) ∧
      message.fields.get? ((namesOf registry message.envelope).keyFor id) =
        some (.failed tag id text) ∧
      message'.bytesConsumed + field.size = message.bytesConsumed := by
  obtain ⟨s', ⟨e', start', reaches'⟩, place', elements⟩ := reaches.exchange skips place rest
  obtain ⟨envelope, e, start, rfl⟩ := decode_eq_ok_iff.mp decoded
  obtain ⟨e₁, start₁, reaches⟩ := reaches
  rw [start] at start₁
  cases start₁
  change Envelope.read _ = .ok envelope e' at start'
  -- The bytes behind the field stand where the field stood.
  have same : s'.cursor.rest = u.cursor.rest := by
    rw [Cursor.rest_of_pos ends, Cursor.rest, show s'.cursor.pos = front.size from place',
      toList_data_append, ← ByteArray.size_data, ← Array.length_toList, List.drop_left]
  obtain ⟨fields, v', whole, whole', held, final', left⟩ :=
    readFields_of_field_removed skips reaches reaches' (Nat.zero_le _) elements header failed same
      entries (complete_iff.mp complete) alone unspent
  change body limits registry envelope e = _ at whole
  change body limits registry envelope e' = _ at whole'
  refine ⟨_, decode_eq_ok_iff.mpr ⟨envelope, e', start', rfl⟩, rfl, ?_, ?_, ?_⟩
  · change (body limits registry envelope e').1 = (body limits registry envelope e).1.without _
    rw [whole, whole']
  · change (body limits registry envelope e).1.get? _ = _
    rw [whole]
    exact held
  · change (body limits registry envelope e').2.pos + field.size =
      (body limits registry envelope e).2.pos
    have total := v.cursor.pos_add_remaining
    have total' := v'.cursor.pos_add_remaining
    rw [whole, whole']
    change v'.cursor.pos + _ = v.cursor.pos
    simp only [ByteArray.size_append] at total total'
    omega

namespace Decoder

section Written

variable {s : Decoder buf} {rest : List UInt8}

/-! ## Values that are not read -/

/-- A field whose value is not read keeps the fault, and ends behind the value, if that is what was
written for a payload. What was counted stays counted. -/
theorem exists_failed {payload : Payload} {fault : Fault} {t : Decoder buf}
    {values : ValueReader buf} (truthful : ∀ node ∈ payload.nodes, node.Truthful)
    (enough : payload.need ≤ limits.maxSkipDepth)
    (read : values.read payload.tag.toByte s = .error fault t)
    (front : s.cursor.rest = payload.encode.data.toList ++ rest) (id : Int16) :
    ∃ d, readField limits values payload.tag.toByte id s =
      (.failed payload.tag.toByte id fault.message, { t with cursor := d }) ∧ d.rest = rest := by
  obtain ⟨d, skipped, behind⟩ := Read.takes_skipValue truthful enough front
  refine ⟨d, ?_, behind⟩
  rw [readField_of_error read, skipOrLose_of_ok (s := { t with cursor := s.cursor }) skipped]

/-! ## Text that is too long -/

variable {text : String} (long : Read.stringCeiling < text.utf8ByteSize)
  (fits : text.utf8ByteSize ≤ Read.countCeiling)

include long fits

private theorem read_longText (front : s.cursor.rest = (Encode.text text).data.toList ++ rest) :
    (values limits names (depth + 1)).read Tag.string.toByte s =
      .error (.lengthTooLarge text.utf8ByteSize Read.stringCeiling) s := by
  rw [Encode.text, Encode.bytes, toList_data_append, List.append_assoc] at front
  obtain ⟨c, size, -⟩ := Read.takes_length fits front
  rw [read_of_string (Tag.ofByte?_toByte .string), map_eq_error_iff, reading_eq_error_iff]
  exact ⟨s.cursor, Read.string_of_tooLong size long, rfl⟩

private theorem read_longList (within : 1 ≤ limits.maxCollectionSize)
    (left : s.elements + 1 ≤ limits.maxElements)
    (front : s.cursor.rest =
      (Payload.list .string [.text text]).encode.data.toList ++ rest) :
    ∃ c, (values limits names (depth + 2)).read Tag.list.toByte s =
      .error (.lengthTooLarge text.utf8ByteSize Read.stringCeiling)
        ⟨c, s.elements + 1, s.desync⟩ := by
  have parts : (Payload.list .string [.text text]).encode =
      Encode.uint8 Tag.string.toByte ++ (Encode.int32 (Int32.ofNat 1) ++ Encode.text text) := by
    rw [Payload.encode, Payload.appendItems_eq, Payload.appendItems_cons, Payload.appendItems,
      ByteArray.append_empty, Encode.sequenceHeader, ByteArray.append_assoc]
    rfl
  rw [parts, toList_data_append, toList_data_append, List.append_assoc, List.append_assoc] at front
  obtain ⟨c, tagRead, behind⟩ := Read.takes_uint8 Tag.string.toByte front
  obtain ⟨d, countRead, behind⟩ := Read.takes_int32 (Int32.ofNat 1) behind
  have built : limits.refusal? s.elements .list (Int32.ofNat 1) = none := by
    have one : (Int32.ofNat 1).toNatClampNeg = 1 := rfl
    rw [Limits.refusal?, one, if_neg (Nat.not_lt_of_le within), if_neg (by omega)]
  have item : (values limits names (depth + 1)).read Tag.string.toByte
      ⟨d, s.elements + 1, s.desync⟩ =
        .error (.lengthTooLarge text.utf8ByteSize Read.stringCeiling)
          ⟨d, s.elements + 1, s.desync⟩ := read_longText long fits behind
  have header : sequenceHeader s.cursor = .ok ⟨_, _, Int32.ofNat 1⟩ d :=
    (bind_of_ok tagRead).trans (bind_of_ok countRead)
  refine ⟨d, ?_⟩
  rw [read_of_sequence (.list (Tag.ofByte?_toByte .list)), readCollection,
    bind_of_ok (reading_of_ok header)]
  exact (withinLimits_of_built (s := { s with cursor := d }) built).trans
    (map_eq_error_iff.mpr (turn_of_error (map_eq_error_iff.mpr item)))

end Written

/-! ## A call whose first field fails -/

/-- Limits under which only one entry is built. -/
def oneEntry : Limits := { maxElements := 1 }

/-- A text that is above the ceiling for strings by one byte. -/
def longText : String := String.ofList (List.replicate (Read.stringCeiling + 1) 'a')

/-- The bytes of a first field. -/
def firstField (payload : Payload) : ByteArray :=
  Encode.fieldHeader payload.tag.toByte 1 ++ payload.encode

/-- A second field, which is a list of one truth value, and the end of a call. -/
def behindFirst : ByteArray := ⟨#[15, 0, 2, 2, 0, 0, 0, 1, 1, 0]⟩

private theorem utf8ByteSize_longText : longText.utf8ByteSize = 10485761 := by
  have size (n : Nat) : (String.ofList (List.replicate n 'a')).utf8ByteSize = n := by
    induction n with
    | zero => rfl
    | succ n ih =>
      rw [List.replicate_succ, String.ofList_cons, String.utf8ByteSize_append, ih,
        String.utf8ByteSize_singleton]
      exact Nat.add_comm 1 n
  exact size _

private theorem reaches_firstField (limits : Limits) (payload : Payload) :
    ∃ (s : Decoder (Encode.envelope sampleCall ++ (firstField payload ++ behindFirst)))
      (c : Cursor (Encode.envelope sampleCall ++ (firstField payload ++ behindFirst))),
      BodyReaches limits none (Encode.envelope sampleCall ++ (firstField payload ++ behindFirst))
        sampleCall [] s ∧
      s.pos = (Encode.envelope sampleCall).size ∧ s.elements = 0 ∧ s.desync = none ∧
      readHeader s.cursor = .ok (some (payload.tag.toByte, 1)) c ∧
      c.rest = payload.encode.data.toList ++ behindFirst.data.toList := by
  have takes : Read.Takes (Envelope.read : Read (Encode.envelope sampleCall ++
      (firstField payload ++ behindFirst)) Envelope) (Encode.envelope sampleCall) sampleCall :=
    Envelope.takes_read (by decide) ⟨1, rfl⟩
  obtain ⟨e, start, place, behind⟩ := takes.start
  have front : e.rest = (Encode.fieldHeader payload.tag.toByte 1).data.toList ++
      (payload.encode.data.toList ++ behindFirst.data.toList) := by
    rw [behind, toList_data_append, firstField, toList_data_append, List.append_assoc]
  obtain ⟨c, header, last⟩ := takes_fieldHeader (toByte_tag_ne_stop payload) 1 front
  exact ⟨_, c, ⟨e, start, .here rfl⟩, place, rfl, rfl, header, last⟩

private theorem read_behindFirst : (values oneEntry .empty 32 : ValueReader behindFirst).read 15
    ⟨⟨3, by decide⟩, 0, none⟩ = .ok (.list [.bool true]) ⟨⟨9, by decide⟩, 1, none⟩ := by rfl

private theorem entries_behindFirst {u : Decoder buf}
    (same : u.cursor.rest = behindFirst.data.toList) (kept : u.desync = none)
    {value : Value} {counted : Nat}
    (read : (values oneEntry .empty 32 : ValueReader behindFirst).read 15
      ⟨⟨3, by decide⟩, u.elements, none⟩ = .ok value ⟨⟨9, by decide⟩, counted, none⟩) :
    ∃ v, EntriesFrom oneEntry .empty (values oneEntry .empty 32) u
      [("field_2", .decoded 15 2 value)] v ∧ v.desync = none := by
  have first : readHeader (Cursor.start behindFirst) = .ok (some (15, 2)) ⟨3, by decide⟩ := by rfl
  have last : readHeader (⟨9, by decide⟩ : Cursor behindFirst) = .ok none ⟨10, by decide⟩ := by rfl
  have key : FieldNames.empty.keyFor 2 = "field_2" := by decide +kernel
  have entries : EntriesFrom oneEntry .empty (values oneEntry .empty 32)
      ⟨Cursor.start behindFirst, u.elements, none⟩ [("field_2", .decoded 15 2 value)]
      ⟨⟨10, by decide⟩, counted, none⟩ := by
    intro done
    rw [readEntries_of_field rfl first, readField_of_ok read, readEntries_of_stop rfl last, key]
    rfl
  have skips : oneEntry.skipUnbuilt := rfl
  obtain ⟨v, entries', final, -⟩ := entriesFrom_of_rest skips same rfl kept entries rfl rfl
  exact ⟨v, entries', final⟩

section FirstFails

variable {payload : Payload} {fault : Fault} {counted : Nat}
  (truthful : ∀ node ∈ payload.nodes, node.Truthful) (enough : payload.need ≤ 256)
  (fails : ∀ {buf : ByteArray} {s : Decoder buf} {rest : List UInt8}, s.elements = 0 →
    s.cursor.rest = payload.encode.data.toList ++ rest →
      ∃ c, (values oneEntry .empty 32).read payload.tag.toByte s =
        .error fault ⟨c, counted, s.desync⟩)

include truthful enough fails

private theorem exists_firstFailed :
    ∃ (s u : Decoder (Encode.envelope sampleCall ++ (firstField payload ++ behindFirst)))
      (c : Cursor (Encode.envelope sampleCall ++ (firstField payload ++ behindFirst))),
      BodyReaches oneEntry none
        (Encode.envelope sampleCall ++ (firstField payload ++ behindFirst)) sampleCall [] s ∧
      s.pos = (Encode.envelope sampleCall).size ∧ s.elements = 0 ∧
      readHeader s.cursor = .ok (some (payload.tag.toByte, 1)) c ∧
      readField oneEntry (values oneEntry .empty 32) payload.tag.toByte 1 { s with cursor := c } =
        (.failed payload.tag.toByte 1 fault.message, u) ∧
      u.cursor.rest = behindFirst.data.toList ∧ u.elements = counted ∧ u.desync = none := by
  obtain ⟨s, c, reaches, place, none, kept, header, front⟩ := reaches_firstField oneEntry payload
  obtain ⟨d, read⟩ := fails (s := { s with cursor := c }) none front
  obtain ⟨e, failed, behind⟩ := exists_failed truthful (show payload.need ≤ oneEntry.maxSkipDepth
    from enough) read front 1
  exact ⟨s, _, c, reaches, place, none, header, failed, behind, rfl, kept⟩

private theorem decode_firstFailed {value : Value} {after : Nat}
    (read : (values oneEntry .empty 32 : ValueReader behindFirst).read 15
      ⟨⟨3, by decide⟩, counted, none⟩ = .ok value ⟨⟨9, by decide⟩, after, none⟩) :
    ∃ message, decode oneEntry none
        (Encode.envelope sampleCall ++ (firstField payload ++ behindFirst)) = .ok message ∧
      message.envelope = sampleCall ∧ message.fields.incomplete = none ∧
      message.fields.get? "field_1" =
        some (.failed payload.tag.toByte 1 fault.message) ∧
      message.fields.get? "field_2" = some (.decoded 15 2 value) := by
  obtain ⟨s, u, c, ⟨e, start, reaches⟩, -, -, header, failed, behind, rfl, kept⟩ :=
    exists_firstFailed truthful enough fails
  obtain ⟨v, entries, final⟩ := entries_behindFirst behind kept read
  have whole := readFields_of_comesTo (comesTo_iff.mpr ⟨s, c, reaches, header, rfl⟩) failed entries
  have key : (namesOf none sampleCall).keyFor 1 = "field_1" := by decide +kernel
  rw [key, desyncReason, final] at whole
  have fields : (body oneEntry none sampleCall e).1 =
      Fields.ofList [("field_1", .failed payload.tag.toByte 1 fault.message),
        ("field_2", .decoded 15 2 value)] := congrArg Prod.fst whole
  refine ⟨_, decode_eq_ok_iff.mpr ⟨sampleCall, e, start, rfl⟩, rfl, ?_, ?_, ?_⟩
  · exact congrArg Fields.incomplete fields
  · refine (congrArg (Fields.get? · "field_1") fields).trans (Fields.get?_ofList_last [] ?_)
    have apart : "field_2" ≠ "field_1" := by decide
    intro entry among
    rw [List.mem_singleton.mp among]
    exact apart
  · refine (congrArg (Fields.get? · "field_2") fields).trans (Fields.get?_ofList_last [_] ?_)
    exact List.forall_mem_nil _

end FirstFails

end Decoder

/-- The fault of the text that is too long. -/
def longFault : Fault := .lengthTooLarge longText.utf8ByteSize Read.stringCeiling

private theorem longText_fits : longText.utf8ByteSize ≤ Read.countCeiling := by
  rw [utf8ByteSize_longText]
  decide

private theorem longText_long : Read.stringCeiling < longText.utf8ByteSize := by
  rw [utf8ByteSize_longText]
  decide

/-- A call with a field that counts nothing before it fails. The text is too long, and the field is
left out without a trace: the list behind it is built, although it is the only entry that may be. -/
theorem decode_longText :
    ∃ message message',
      decode oneEntry none
        (Encode.envelope sampleCall ++ (firstField (.text longText) ++ behindFirst)) =
          .ok message ∧
      decode oneEntry none (Encode.envelope sampleCall ++ behindFirst) = .ok message' ∧
      message.fields.get? "field_1" = some (.failed 11 1 longFault.message) ∧
      message.fields.get? "field_2" = some (.decoded 15 2 (.list [.bool true])) ∧
      message'.fields = message.fields.without "field_1" := by
  have truthful : ∀ node ∈ (Payload.text longText).nodes, node.Truthful := by
    intro node inside
    rw [List.mem_singleton.mp inside]
    exact longText_fits
  have fails {buf : ByteArray} {s : Decoder buf} {rest : List UInt8} (fresh : s.elements = 0)
      (front : s.cursor.rest = (Payload.text longText).encode.data.toList ++ rest) :
      ∃ c, (values oneEntry .empty 32).read (Payload.text longText).tag.toByte s =
        .error longFault ⟨c, 0, s.desync⟩ :=
    ⟨s.cursor, fresh ▸ read_longText longText_long longText_fits front⟩
  have few : (Payload.text longText).need ≤ 256 := Nat.zero_le _
  obtain ⟨⟨_, _, _, _, _, _⟩, decoded, rfl, complete, first, second⟩ :=
    decode_firstFailed truthful few fails read_behindFirst
  obtain ⟨s, u, c, reaches, place, fresh, header, failed, behind, zero, kept⟩ :=
    exists_firstFailed truthful few fails
  obtain ⟨v, entries, -⟩ := entries_behindFirst behind kept (zero ▸ read_behindFirst)
  have key : (namesOf none sampleCall).keyFor 1 = "field_1" := by decide +kernel
  have alone : ∀ entry ∈ [("field_2", Field.decoded 15 2 (.list [.bool true]))] ++ [],
      entry.1 ≠ (namesOf none sampleCall).keyFor 1 := by
    have apart : "field_2" ≠ "field_1" := by decide
    intro entry among
    rw [List.append_nil] at among
    rw [List.mem_singleton.mp among, key]
    exact apart
  obtain ⟨message', decoded', -, fields, -⟩ :=
    decode_of_failed_field oneEntry none (Encode.envelope sampleCall)
      (firstField (.text longText)) behindFirst rfl decoded complete reaches place header
      failed (Cursor.pos_of_rest behind) entries alone (.inl (zero.trans fresh.symm))
  rw [key] at fields
  exact ⟨_, message', decoded, decoded', first, second, fields⟩

private theorem decode_behindFirst :
    ∃ message, decode oneEntry none (Encode.envelope sampleCall ++ behindFirst) = .ok message ∧
      message.fields = Fields.ofList [("field_2", .decoded 15 2 (.list [.bool true]))] := by
  have takes : Read.Takes
      (Envelope.read : Read (Encode.envelope sampleCall ++ behindFirst) Envelope)
      (Encode.envelope sampleCall) sampleCall := Envelope.takes_read (by decide) ⟨1, rfl⟩
  obtain ⟨e, start, -, behind⟩ := takes.start
  obtain ⟨v, entries, final⟩ := entries_behindFirst (u := ⟨e, 0, none⟩) behind rfl read_behindFirst
  have whole := readFields_of_reaches (.here rfl) entries
  rw [desyncReason, final] at whole
  exact ⟨_, decode_eq_ok_iff.mpr ⟨sampleCall, e, start, rfl⟩, congrArg Prod.fst whole⟩

private theorem read_listOfLongText {buf : ByteArray} {s : Decoder buf} {rest : List UInt8}
    (fresh : s.elements = 0)
    (front : s.cursor.rest = (Payload.list .string [.text longText]).encode.data.toList ++ rest) :
    ∃ c, (values oneEntry .empty 32).read Tag.list.toByte s =
      .error longFault ⟨c, 1, s.desync⟩ := by
  have left : s.elements + 1 ≤ oneEntry.maxElements := by
    rw [fresh]
    decide
  have within : 1 ≤ oneEntry.maxCollectionSize := by decide
  obtain ⟨c, read⟩ := read_longList longText_long longText_fits within left front
  rw [fresh] at read
  exact ⟨c, read⟩

/-- A failed field may leave a trace on the others. The list of the first field counts its text and
fails, for the text is too long, and then the list behind it is not built because no entry is left.
Without the first field it is built. -/
theorem decode_failedList :
    ∃ message message',
      decode oneEntry none (Encode.envelope sampleCall ++
        (firstField (.list .string [.text longText]) ++ behindFirst)) = .ok message ∧
      message.fields.incomplete = none ∧
      message.fields.get? "field_1" =
        some (.failed 15 1 "length 10485761 exceeds maximum 10485760") ∧
      message.fields.get? "field_2" =
        some (.decoded 15 2 (.placeholder (.elementBudgetExhausted .list 1))) ∧
      decode oneEntry none (Encode.envelope sampleCall ++ behindFirst) = .ok message' ∧
      message'.fields.get? "field_2" = some (.decoded 15 2 (.list [.bool true])) ∧
      message'.fields ≠ message.fields.without "field_1" := by
  have truthful : ∀ node ∈ (Payload.list .string [.text longText]).nodes, node.Truthful := by
    intro node inside
    change node ∈ [Payload.list .string [.text longText], .text longText] at inside
    rcases List.mem_pair.mp inside with rfl | rfl
    · exact ⟨by decide, fun item among => by rw [List.mem_singleton.mp among]; rfl⟩
    · exact longText_fits
  have few : (Payload.list .string [.text longText]).need ≤ 256 := by
    change Payload.needOfCollection [.string] 1 0 ≤ 256
    decide
  have list : (values oneEntry .empty 32 : ValueReader behindFirst).read 15
      ⟨⟨3, by decide⟩, 1, none⟩ = .ok (.placeholder (.elementBudgetExhausted .list 1))
        ⟨⟨9, by decide⟩, 1, none⟩ := by
    have skipped : Read.skipItems 256 2 2 1 (⟨8, by decide⟩ : Cursor behindFirst) =
        .ok () ⟨9, by decide⟩ := (Read.skipItems_eq_ok_iff (.inr rfl)).mpr rfl
    change giving (tooLarge oneEntry .list 2 2 1 (.elementBudgetExhausted .list 1))
      (⟨⟨8, by decide⟩, 1, none⟩ : Decoder behindFirst) = _
    rw [tooLarge_of_skips rfl]
    exact congrArg (EStateM.Result.ok _) (skipOrLose_of_ok (s := ⟨⟨8, by decide⟩, 1, none⟩) skipped)
  have text : longFault.message = "length 10485761 exceeds maximum 10485760" := by
    rw [longFault, utf8ByteSize_longText]
    decide +kernel
  obtain ⟨message, decoded, -, complete, first, second⟩ :=
    decode_firstFailed truthful few read_listOfLongText list
  rw [text] at first
  obtain ⟨message', decoded', fields⟩ := decode_behindFirst
  have built : message'.fields.get? "field_2" = some (.decoded 15 2 (.list [.bool true])) := by
    rw [fields]
    exact Fields.get?_ofList_last [] (List.forall_mem_nil _)
  refine ⟨message, message', decoded, complete, first, second, decoded', built, fun same => ?_⟩
  rw [same, Fields.get?_without _ (by decide), second] at built
  cases built

end TaggedRpc
