import TaggedRpc.Proofs.Decode.Message
import TaggedRpc.Proofs.Decode.Turns
import TaggedRpc.Proofs.Encode.Envelope
import TaggedRpc.Proofs.Encode.Extent

/-!
# Round trip of messages

A message whose fields respect the limits is decoded to what was written, whatever bytes follow it.
An action on a decoder takes bytes from the front, counts the entries that it builds, and keeps
synchronisation (`Decoder.Takes`); the readers of collections and structs take what is written for
their parts, by recursion on the levels of nesting that are left.
-/

namespace TaggedRpc

namespace Decoder

variable {buf : ByteArray} {α β : Type} {budget : Nat}

/-- An action that takes some bytes from the front and gives a result, whatever follows them. It
builds a number of entries, if that many may still be built. -/
def Takes (budget : Nat) (act : Decode buf α) (bytes : ByteArray) (a : α) (built : Nat) : Prop :=
  ∀ ⦃s : Decoder buf⦄ ⦃rest : List UInt8⦄, s.desync = none → s.elements + built ≤ budget →
    s.cursor.rest = bytes.data.toList ++ rest →
      ∃ c, act s = .ok a ⟨c, s.elements + built, none⟩ ∧ c.rest = rest

/-! ## Parts -/

section Parts

private theorem takes_pure (a : α) : Takes budget (pure a : Decode buf α) .empty a 0 := by
  intro s rest kept _ front
  refine ⟨s.cursor, ?_, front⟩
  rw [← kept]
  rfl

private theorem Takes.map {act : Decode buf α} {bytes : ByteArray} {a : α} {built : Nat}
    (takes : Takes budget act bytes a built) {f : α → β} {b : β} (same : f a = b) :
    Takes budget (f <$> act) bytes b built := by
  intro s rest kept enough front
  obtain ⟨c, outcome, behind⟩ := takes kept enough front
  exact ⟨c, map_eq_ok_iff.mpr ⟨a, outcome, same⟩, behind⟩

private theorem takes_reading {read : Read buf α} {bytes : ByteArray} {a : α}
    (takes : read.Takes bytes a) : Takes budget (reading read) bytes a 0 := by
  intro s rest kept _ front
  obtain ⟨c, outcome, behind⟩ := takes front
  refine ⟨c, ?_, behind⟩
  rw [reading_of_ok outcome, kept, Nat.add_zero]

private theorem Takes.turn {act : Decode buf α} {stop : α → β} {go : α → Decode buf β}
    {bytes bytes' : ByteArray} {a : α} {b : β} {built built' : Nat}
    (first : Takes budget act bytes a built) (second : Takes budget (go a) bytes' b built') :
    Takes budget (turn act stop go) (bytes ++ bytes') b (built + built') := by
  intro s rest kept enough front
  rw [toList_data_append, List.append_assoc] at front
  obtain ⟨c, outcome, behind⟩ := first kept (by omega) front
  have enough' : s.elements + built + built' ≤ budget := by omega
  obtain ⟨d, outcome', behind'⟩ := second (s := ⟨c, s.elements + built, none⟩) rfl enough' behind
  refine ⟨d, ?_, behind'⟩
  rw [turn_of_kept outcome rfl, outcome', Nat.add_assoc]

private theorem Takes.after {read : Read buf α} {next : α → Decode buf β}
    {bytes bytes' : ByteArray} {a : α} {b : β} {built : Nat} (first : read.Takes bytes a)
    (second : Takes budget (next a) bytes' b built) :
    Takes budget (reading read >>= next) (bytes ++ bytes') b built := by
  intro s rest kept enough front
  rw [toList_data_append, List.append_assoc] at front
  obtain ⟨c, outcome, behind⟩ := first front
  obtain ⟨d, outcome', behind'⟩ := second (s := { s with cursor := c }) kept enough behind
  refine ⟨d, ?_, behind'⟩
  rw [bind_of_ok (reading_of_ok outcome), outcome']

variable {limits : Limits} {kind : CollectionKind} {first second : UInt8} {count : Int32}
  {build : Nat → Decode buf Value} {bytes : ByteArray} {value : Value} {size built : Nat}

private theorem takes_withinLimits (same : count.toNatClampNeg = size)
    (le : size ≤ limits.maxCollectionSize)
    (builds : Takes limits.maxElements (build size) bytes value built) :
    Takes limits.maxElements (withinLimits limits kind first second count build) bytes value
      (size + built) := by
  intro s rest kept enough front
  have within : limits.refusal? s.elements kind count = none := by
    unfold Limits.refusal?
    rw [same, if_neg (Nat.not_lt_of_le le), if_neg (by omega)]
  have enough' : s.elements + size + built ≤ limits.maxElements := by omega
  obtain ⟨c, outcome, behind⟩ :=
    builds (s := { s with elements := s.elements + size }) kept enough' front
  refine ⟨c, ?_, behind⟩
  rw [withinLimits_of_built within, same, outcome, Nat.add_assoc]

end Parts

end Decoder

namespace Payload

/-! ## Bytes of parts in a row -/

/-- Items are written behind what was written before. -/
theorem appendItems_eq (out : ByteArray) (items : List Payload) :
    appendItems out items = out ++ appendItems .empty items := by
  induction items generalizing out with
  | nil => exact ByteArray.append_empty.symm
  | cons item rest ih =>
    rw [appendItems, ih, appendItems, ih (.empty ++ _), ByteArray.empty_append,
      ByteArray.append_assoc]

/-- Items are written one after another. -/
theorem appendItems_cons (item : Payload) (rest : List Payload) :
    appendItems .empty (item :: rest) = item.encode ++ appendItems .empty rest := by
  rw [appendItems, appendItems_eq, ByteArray.empty_append]

/-- Map entries are written behind what was written before. -/
theorem appendEntries_eq (out : ByteArray) (entries : List (Payload × Payload)) :
    appendEntries out entries = out ++ appendEntries .empty entries := by
  induction entries generalizing out with
  | nil => exact ByteArray.append_empty.symm
  | cons entry rest ih =>
    rw [appendEntries, ih, appendEntries, ih (.empty ++ _ ++ _), ByteArray.empty_append,
      ByteArray.append_assoc, ByteArray.append_assoc, ByteArray.append_assoc]

/-- Map entries are written one after another, the key before the value. -/
theorem appendEntries_cons (key value : Payload) (rest : List (Payload × Payload)) :
    appendEntries .empty ((key, value) :: rest) =
      key.encode ++ (value.encode ++ appendEntries .empty rest) := by
  rw [appendEntries, appendEntries_eq, ByteArray.empty_append, ByteArray.append_assoc]

private theorem appendFields_eq (out : ByteArray) (fields : List (Int16 × Payload)) :
    appendFields out fields = out ++ appendFields .empty fields := by
  induction fields generalizing out with
  | nil => exact ByteArray.append_empty.symm
  | cons field rest ih =>
    rw [appendFields, ih, appendFields, ih (.empty ++ _ ++ _), ByteArray.empty_append,
      ByteArray.append_assoc, ByteArray.append_assoc, ByteArray.append_assoc]

/-- Fields are written one after another, the header before the value, and the stop tag last. -/
theorem encodeFields_cons (id : Int16) (value : Payload) (rest : List (Int16 × Payload)) :
    encodeFields ((id, value) :: rest) =
      Encode.fieldHeader value.tag.toByte id ++ (value.encode ++ encodeFields rest) := by
  rw [encodeFields, appendFields, appendFields_eq, ByteArray.empty_append, encodeFields,
    ByteArray.append_assoc, ByteArray.append_assoc]

end Payload

namespace Decoder

variable {buf : ByteArray} {budget : Nat} {names : FieldNames} {values : ValueReader buf}

/-- A reader that takes what is written for a payload, and builds what it is decoded to. -/
def Restores (budget : Nat) (names : FieldNames) (values : ValueReader buf) (payload : Payload) :
    Prop :=
  Takes budget (values.read payload.tag.toByte) payload.encode (payload.decoded names)
    (Payload.entryTotal payload.nodes)

/-! ## Collections -/

private theorem takes_items {tag : Tag} {items : List Payload}
    (tags : ∀ item ∈ items, item.tag = tag)
    (restores : ∀ item ∈ items, Restores budget names values item) (done : List Value) :
    Takes budget (collect (readItem values tag.toByte) done items.length)
      (Payload.appendItems .empty items) (done.reverse ++ Payload.decodedItems names items)
      (Payload.entryTotal (Payload.nodesItems items)) := by
  induction items generalizing done with
  | nil =>
    rw [Payload.decodedItems, List.append_nil]
    exact takes_pure done.reverse
  | cons item rest ih =>
    obtain ⟨same, tags⟩ := List.forall_mem_cons.mp tags
    obtain ⟨one, restores⟩ := List.forall_mem_cons.mp restores
    have others := ih tags restores (item.decoded names :: done)
    rw [Restores, same] at one
    rw [List.reverse_cons, List.append_assoc] at others
    rw [Payload.appendItems_cons, Payload.nodesItems, Payload.entryTotal_append]
    exact (one.map rfl).turn others

private theorem takes_pairs {keyTag valueTag : Tag} {entries : List (Payload × Payload)}
    (tags : ∀ entry ∈ entries, entry.1.tag = keyTag ∧ entry.2.tag = valueTag)
    (restores : ∀ entry ∈ entries, Restores budget names values entry.1 ∧
      Restores budget names values entry.2) (done : List (Value × Value)) :
    Takes budget (collect (readPair values keyTag.toByte valueTag.toByte) done entries.length)
      (Payload.appendEntries .empty entries) (done.reverse ++ Payload.decodedEntries names entries)
      (Payload.entryTotal (Payload.nodesEntries entries)) := by
  induction entries generalizing done with
  | nil =>
    rw [Payload.decodedEntries, List.append_nil]
    exact takes_pure done.reverse
  | cons entry rest ih =>
    obtain ⟨key, value⟩ := entry
    obtain ⟨⟨sameKey, sameValue⟩, tags⟩ := List.forall_mem_cons.mp tags
    obtain ⟨⟨first, second⟩, restores⟩ := List.forall_mem_cons.mp restores
    have others := ih tags restores ((key.decoded names, value.decoded names) :: done)
    rw [Restores, sameKey] at first
    rw [Restores, sameValue] at second
    rw [List.reverse_cons, List.append_assoc] at others
    rw [Payload.appendEntries_cons, Payload.nodesEntries, Payload.entryTotal_append,
      Payload.entryTotal_append, ← ByteArray.append_assoc]
    have one : Takes budget (readPair values keyTag.toByte valueTag.toByte) _
        (some (key.decoded names, value.decoded names)) _ := first.turn (second.map rfl)
    exact one.turn others

variable {limits : Limits}

private theorem takes_readMap {keyTag valueTag : Tag} {entries : List (Payload × Payload)}
    (fits : (Payload.map keyTag valueTag entries).Fits limits)
    (restores : ∀ entry ∈ entries, Restores limits.maxElements names values entry.1 ∧
      Restores limits.maxElements names values entry.2) :
    Takes limits.maxElements (readMap limits values) (Payload.map keyTag valueTag entries).encode
      ((Payload.map keyTag valueTag entries).decoded names)
      (Payload.entryTotal (Payload.map keyTag valueTag entries).nodes) := by
  obtain ⟨le, small, tags⟩ := fits
  rw [Payload.encode, Payload.appendEntries_eq, Payload.nodes, Payload.entryTotal,
    Encode.mapHeader, ByteArray.append_assoc, ByteArray.append_assoc]
  apply Takes.after (Read.takes_uint8 keyTag.toByte)
  apply Takes.after (Read.takes_uint8 valueTag.toByte)
  apply Takes.after (Read.takes_int32 (Int32.ofNat entries.length))
  apply takes_withinLimits (Read.toNatClampNeg_ofNat small) le
  rw [readPairs_eq]
  exact (takes_pairs tags restores []).map rfl

private theorem takes_readSequence {tag : Tag} {items : List Payload} {kind : CollectionKind}
    {build : List Value → Value}
    (le : items.length ≤ limits.maxCollectionSize) (small : items.length ≤ Read.countCeiling)
    (tags : ∀ item ∈ items, item.tag = tag)
    (restores : ∀ item ∈ items, Restores limits.maxElements names values item) :
    Takes limits.maxElements (readSequence limits values kind build)
      (Payload.appendItems (Encode.sequenceHeader tag (Int32.ofNat items.length)) items)
      (build (Payload.decodedItems names items))
      (items.length + Payload.entryTotal (Payload.nodesItems items)) := by
  rw [Payload.appendItems_eq, Encode.sequenceHeader, ByteArray.append_assoc]
  apply Takes.after (Read.takes_uint8 tag.toByte)
  apply Takes.after (Read.takes_int32 (Int32.ofNat items.length))
  apply takes_withinLimits (Read.toNatClampNeg_ofNat small) le
  rw [readItems_eq]
  exact (takes_items tags restores []).map rfl

/-! ## Structs -/

/-- No payload is written under the tag that ends a struct. -/
theorem toByte_tag_ne_stop (payload : Payload) : payload.tag.toByte ≠ Tag.stop.toByte := by
  cases payload <;> rw [Payload.tag] <;> decide

/-- The header of a field is read back. -/
theorem takes_fieldHeader {tag : UInt8} (field : tag ≠ Tag.stop.toByte) (id : Int16) :
    Read.Takes (readHeader : Read buf (Option (UInt8 × Int16))) (Encode.fieldHeader tag id)
      (some (tag, id)) := by
  apply (Read.takes_uint8 tag).bind
  rw [if_neg field]
  exact (Read.takes_int16 id).map rfl

/-- The end of a struct is read back. -/
theorem takes_stop :
    Read.Takes (readHeader : Read buf (Option (UInt8 × Int16))) Encode.stop none := by
  rw [← ByteArray.append_empty (b := Encode.stop)]
  apply (Read.takes_uint8 Tag.stop.toByte).bind
  rw [if_pos rfl]
  exact Read.takes_pure none

/-- Fields are read back one by one, up to the stop tag. The last one comes first. -/
private theorem takes_readEntries {fields : List (Int16 × Payload)}
    (restores : ∀ field ∈ fields, Restores budget names values field.2)
    (done : List (String × Field)) :
    Takes budget (giving (readEntries limits names values done)) (Payload.encodeFields fields)
      ((Payload.decodedEach names fields).reverse ++ done)
      (Payload.entryTotal (Payload.nodesFields fields)) := by
  induction fields generalizing done with
  | nil =>
    intro s rest kept _ front
    obtain ⟨c, header, behind⟩ := takes_stop front
    refine ⟨c, ?_, behind⟩
    rw [giving_eq_ok_iff, readEntries_of_stop kept header, kept]
    rfl
  | cons field rest ih =>
    obtain ⟨id, value⟩ := field
    obtain ⟨one, restores⟩ := List.forall_mem_cons.mp restores
    have others := ih restores
      ((names.keyFor id, .decoded value.tag.toByte id (value.decoded names)) :: done)
    rw [Payload.encodeFields_cons, Payload.nodesFields, Payload.entryTotal_append,
      Payload.decodedEach, List.reverse_cons, List.append_assoc]
    intro s after kept enough front
    rw [toList_data_append, toList_data_append, List.append_assoc, List.append_assoc] at front
    obtain ⟨c, header, behind⟩ := takes_fieldHeader (toByte_tag_ne_stop value) id front
    obtain ⟨d, read, behind⟩ := one (s := { s with cursor := c }) kept (by dsimp only; omega) behind
    obtain ⟨e, outcome, last⟩ :=
      others (s := ⟨d, s.elements + Payload.entryTotal value.nodes, none⟩) rfl
        (by dsimp only; omega) behind
    refine ⟨e, ?_, last⟩
    rw [giving_eq_ok_iff, readEntries_of_field kept header, readField_of_ok read, ← Nat.add_assoc]
    exact giving_eq_ok_iff.mp outcome

private theorem takes_readFields (limits : Limits) {fields : List (Int16 × Payload)}
    (restores : ∀ field ∈ fields, Restores budget names values field.2) :
    Takes budget (giving (readFields limits names values)) (Payload.encodeFields fields)
      (Payload.decodedFields names fields) (Payload.entryTotal (Payload.nodesFields fields)) := by
  intro s rest kept enough front
  obtain ⟨c, outcome, behind⟩ := takes_readEntries restores [] kept enough front
  refine ⟨c, ?_, behind⟩
  rw [giving_eq_ok_iff] at outcome ⊢
  rw [readFields, outcome, List.append_nil, List.reverse_reverse]
  rfl

private theorem takes_readStruct {fields : List (Int16 × Payload)}
    (restores : ∀ field ∈ fields, Restores budget names values field.2) :
    Takes budget (giving (readStruct limits names values)) (Payload.struct fields).encode
      ((Payload.struct fields).decoded names)
      (Payload.entryTotal (Payload.struct fields).nodes) := by
  have none : (Payload.struct fields).entryCount = 0 := rfl
  rw [Payload.nodes, Payload.entryTotal, none, Nat.zero_add]
  exact (takes_readFields limits restores).map rfl

/-! ## Values -/

/-- A payload that is within the limits is read back with as many levels of nesting as it needs. -/
theorem restores_of_height_le {payload : Payload} {depth : Nat} (enough : payload.height ≤ depth)
    (fits : ∀ node ∈ payload.nodes, node.Fits limits) :
    Restores limits.maxElements names (Decoder.values limits names depth : ValueReader buf)
      payload := by
  induction depth generalizing payload with
  | zero => exact absurd (Nat.le_trans payload.one_le_height enough) (Nat.not_succ_le_zero 0)
  | succ depth ih =>
    have known := Tag.ofByte?_toByte payload.tag
    change Takes limits.maxElements
      (readValue limits names depth (Decoder.values limits names depth) payload.tag.toByte) _ _ _
    have scalar {α : Type} {read : Read buf α} {bytes : ByteArray} {a : α} {build : α → Value}
        {value : Value} (takes : read.Takes bytes a) (same : build a = value) :
        Takes limits.maxElements (build <$> reading read) bytes value 0 :=
      (takes_reading takes).map same
    cases payload with
    | bool b =>
      rw [readValue, known]
      exact scalar (Read.takes_bool b) (by cases b <;> rfl)
    | byte n =>
      rw [readValue, known]
      exact scalar (Read.takes_int8 n) rfl
    | i16 n =>
      rw [readValue, known]
      exact scalar (Read.takes_int16 n) rfl
    | i32 n =>
      rw [readValue, known]
      exact scalar (Read.takes_int32 n) rfl
    | i64 n =>
      rw [readValue, known]
      exact scalar (Read.takes_int64 n) rfl
    | double x =>
      rw [readValue, known]
      exact scalar (Read.takes_double x) rfl
    | text content =>
      rw [readValue, known]
      exact scalar (Read.takes_string (fits _ List.mem_cons_self)) rfl
    | struct fields =>
      rw [Payload.height] at enough
      have inner : Payload.heightFields fields ≤ depth := by omega
      have fits := (List.forall_mem_cons.mp fits).2
      rw [readValue_of_struct _ _ _ _ known, if_neg (by omega)]
      exact takes_readStruct fun field among =>
        ih (Nat.le_trans (Payload.height_le_of_mem_fields among) inner)
          (Payload.nodes_of_mem_fields fits among)
    | map keyTag valueTag entries =>
      rw [Payload.height] at enough
      have inner : Payload.heightEntries entries ≤ depth := by omega
      obtain ⟨own, fits⟩ := List.forall_mem_cons.mp fits
      rw [readValue_of_map _ _ _ _ known]
      apply takes_readMap own
      intro entry among
      have below := Payload.height_le_of_mem_entries among
      have within := Payload.nodes_of_mem_entries fits among
      exact ⟨ih (Nat.le_trans below.1 inner) within.1, ih (Nat.le_trans below.2 inner) within.2⟩
    | set tag items =>
      rw [Payload.height] at enough
      have inner : Payload.heightItems items ≤ depth := by omega
      obtain ⟨⟨le, small, tags⟩, fits⟩ := List.forall_mem_cons.mp fits
      rw [readValue_of_set _ _ _ _ known, Payload.nodes, Payload.entryTotal]
      exact takes_readSequence le small tags fun item among =>
        ih (Nat.le_trans (Payload.height_le_of_mem_items among) inner)
          (Payload.nodes_of_mem_items fits among)
    | list tag items =>
      rw [Payload.height] at enough
      have inner : Payload.heightItems items ≤ depth := by omega
      obtain ⟨⟨le, small, tags⟩, fits⟩ := List.forall_mem_cons.mp fits
      rw [readValue_of_list _ _ _ _ known, Payload.nodes, Payload.entryTotal]
      exact takes_readSequence le small tags fun item among =>
        ih (Nat.le_trans (Payload.height_le_of_mem_items among) inner)
          (Payload.nodes_of_mem_items fits among)

/-! ## Messages -/

/-- The body of a message whose fields respect the limits is read back. -/
theorem body_of_respects (registry : Option Registry) (envelope : Envelope)
    {fields : List (Int16 × Payload)} (respects : Payload.Respects limits fields) {c : Cursor buf}
    {rest : List UInt8} (front : c.rest = (Payload.encodeFields fields).data.toList ++ rest) :
    ∃ d, body limits registry envelope c =
        (Payload.decodedFields (namesOf registry envelope) fields, d) ∧ d.cursor.rest = rest := by
  have restores (field : Int16 × Payload) (among : field ∈ fields) :
      Restores limits.maxElements (namesOf registry envelope)
        (Decoder.values limits (namesOf registry envelope) limits.maxDepth : ValueReader buf)
        field.2 :=
    restores_of_height_le
      (Nat.le_trans (Payload.height_le_of_mem_fields among) respects.height)
      (Payload.nodes_of_mem_fields respects.fits among)
  have enough : 0 + Payload.entryTotal (Payload.nodesFields fields) ≤ limits.maxElements := by
    rw [Nat.zero_add]
    exact respects.total
  obtain ⟨d, outcome, behind⟩ := takes_readFields limits restores
    (s := { start buf with cursor := c }) rfl enough front
  exact ⟨_, giving_eq_ok_iff.mp outcome, behind⟩

end Decoder

/-- Messages are decoded to what was written, whatever bytes follow them. The method and the text in
the fields must not be above the ceiling for strings, the kind must be the kind of some byte, and
the fields must respect the limits. Then the fields are complete, and only the bytes of the message
are read. -/
theorem decode_encodeMessage (limits : Limits) (registry : Option Registry) (envelope : Envelope)
    (fields : List (Int16 × Payload)) (trailing : ByteArray)
    (method : envelope.method.utf8ByteSize ≤ Read.stringCeiling)
    (known : ∃ b, Kind.ofByte b = envelope.kind) (respects : Payload.Respects limits fields) :
    decode limits registry (Payload.encodeMessage envelope fields ++ trailing) = .ok {
      envelope := envelope
      fields := Payload.decodedFields
        (FieldNames.resolve registry envelope.method envelope.kind).1 fields
      bytesConsumed := (Payload.encodeMessage envelope fields).size
      totalBytes := (Payload.encodeMessage envelope fields).size + trailing.size
      protocol := if Method.isKnown envelope.method then some Method.family else none
      nameSource := (FieldNames.resolve registry envelope.method envelope.kind).2 } := by
  have front : (Cursor.start (Payload.encodeMessage envelope fields ++ trailing)).rest =
      (Encode.envelope envelope).data.toList ++
        ((Payload.encodeFields fields).data.toList ++ trailing.data.toList) := by
    rw [Cursor.rest, Cursor.start, List.drop_zero, toList_data_append, Payload.encodeMessage,
      toList_data_append, List.append_assoc]
  obtain ⟨c, header, behind⟩ := Envelope.takes_read method known front
  obtain ⟨d, body, last⟩ := Decoder.body_of_respects registry envelope respects behind
  apply decode_eq_ok_iff.mpr
  refine ⟨envelope, c, header, ?_⟩
  have place : d.pos = (Payload.encodeMessage envelope fields).size := Cursor.pos_of_rest_eq last
  rw [Decoder.messageBehind, body, ByteArray.size_append]
  dsimp only
  rw [place]
  rfl

/-- A call with the sequence number seven. -/
def sampleCall : Envelope := ⟨"f", .call, 7, .strict⟩

/-- Two fields with the same number: a text, and a struct in a list. -/
def sampleFields : List (Int16 × Payload) :=
  [(1, .text "a"), (1, .list .struct [.struct [(2, .bool true)]])]

/-- A call with two fields under one number is decoded to one field, and the byte behind it is
left. -/
theorem decode_sampleCall :
    ∃ message, decode {} none (Payload.encodeMessage sampleCall sampleFields ++ ⟨#[9]⟩) =
        .ok message ∧
      message.envelope = sampleCall ∧ message.fields.keys = ["field_1"] ∧
        message.bytesConsumed + 1 = message.totalBytes := by
  refine ⟨_, decode_encodeMessage {} none sampleCall sampleFields ⟨#[9]⟩ (by decide)
    ⟨1, rfl⟩ ⟨by decide, by decide, by decide⟩, rfl, ?_, rfl⟩
  decide +kernel

end TaggedRpc
