import TaggedRpc.Proofs.Encode.RoundTrip
import TaggedRpc.Proofs.Wire.Plain

/-!
# Skipping what was written

A payload is skipped as a whole, whatever its size, if the lengths, counts and tags that are written
for it are true of it (`Payload.Truthful`). How many containers have to be open at a time for that
is known from the payload (`Payload.need`). With room for as many the walk over its bytes ends
behind them, and with less it fails for want of room (`Walker.clears_pass`).
-/

namespace TaggedRpc

namespace Payload

/-- The containers that have to be open at a time for a collection that declares some tags, has a
number of entries, and needs some for these. -/
def needOfCollection (tags : List Tag) (count inner : Nat) : Nat :=
  if count = 0 ∨ ∀ tag ∈ tags, tag.width?.isSome then 0 else 1 + inner

mutual

/-- The containers that have to be open at a time to skip a payload. -/
def need : Payload → Nat
  | .struct fields => 1 + needFields fields
  | .map keyTag valueTag entries =>
    needOfCollection [keyTag, valueTag] entries.length (needEntries entries)
  | .set tag items => needOfCollection [tag] items.length (needItems items)
  | .list tag items => needOfCollection [tag] items.length (needItems items)
  | _ => 0

/-- The most that a value of a field needs. -/
def needFields : List (Int16 × Payload) → Nat
  | [] => 0
  | (_, value) :: rest => max value.need (needFields rest)

/-- The most that a key or a value needs. -/
def needEntries : List (Payload × Payload) → Nat
  | [] => 0
  | (key, value) :: rest => max (max key.need value.need) (needEntries rest)

/-- The most that an item needs. -/
def needItems : List Payload → Nat
  | [] => 0
  | item :: rest => max item.need (needItems rest)

end

/-- Whether the length, the count and the tags that are written for a payload itself are true of
it. -/
def Truthful : Payload → Prop
  | .text content => content.utf8ByteSize ≤ Read.countCeiling
  | .map keyTag valueTag entries =>
    entries.length ≤ Read.countCeiling ∧
      ∀ entry ∈ entries, entry.1.tag = keyTag ∧ entry.2.tag = valueTag
  | .set tag items | .list tag items =>
    items.length ≤ Read.countCeiling ∧ ∀ item ∈ items, item.tag = tag
  | _ => True

instance (payload : Payload) : Decidable payload.Truthful :=
  match payload with
  | .text content => inferInstanceAs (Decidable (content.utf8ByteSize ≤ Read.countCeiling))
  | .map keyTag valueTag entries =>
    inferInstanceAs (Decidable (entries.length ≤ Read.countCeiling ∧
      ∀ entry ∈ entries, entry.1.tag = keyTag ∧ entry.2.tag = valueTag))
  | .set tag items | .list tag items =>
    inferInstanceAs (Decidable (items.length ≤ Read.countCeiling ∧ ∀ item ∈ items, item.tag = tag))
  | .bool _ | .byte _ | .i16 _ | .i32 _ | .i64 _ | .double _ | .struct _ =>
    inferInstanceAs (Decidable True)

private theorem needFields_le_iff {fields : List (Int16 × Payload)} {room : Nat} :
    needFields fields ≤ room ↔ ∀ field ∈ fields, field.2.need ≤ room := by
  induction fields with
  | nil => simp [needFields]
  | cons field rest ih => rw [needFields, Nat.max_le, ih, List.forall_mem_cons]

private theorem needEntries_le_iff {entries : List (Payload × Payload)} {room : Nat} :
    needEntries entries ≤ room ↔
      ∀ entry ∈ entries, entry.1.need ≤ room ∧ entry.2.need ≤ room := by
  induction entries with
  | nil => simp [needEntries]
  | cons entry rest ih => rw [needEntries, Nat.max_le, Nat.max_le, ih, List.forall_mem_cons]

private theorem needItems_le_iff {items : List Payload} {room : Nat} :
    needItems items ≤ room ↔ ∀ item ∈ items, item.need ≤ room := by
  induction items with
  | nil => simp [needItems]
  | cons item rest ih => rw [needItems, Nat.max_le, ih, List.forall_mem_cons]

private theorem size_encode_of_width {payload : Payload} {width : Nat}
    (fixed : payload.tag.width? = some width) : payload.encode.size = width := by
  cases payload <;> cases fixed <;> exact Encode.size_natural _ _

end Payload

namespace Read

variable {buf : ByteArray} {α : Type} {limit : Nat} {room more : Prop}
  {bytes bytes' : ByteArray} {read : Read buf Unit}

/-- A read that passes some bytes if there is room for what they open, whatever follows them, and
fails at the limit if there is not. -/
def Clears (limit : Nat) (read : Read buf Unit) (bytes : ByteArray) (room : Prop) : Prop :=
  ∀ ⦃c : Cursor buf⦄ ⦃rest : List UInt8⦄, c.rest = bytes.data.toList ++ rest →
    room ∧ (∃ d, read c = .ok () d ∧ d.rest = rest) ∨
      ¬ room ∧ ∃ d, read c = .error (.skipDepthExceeded limit) d

/-- A read that always passes some bytes needs no room. -/
theorem Clears.of_takes (takes : Takes read bytes ()) (enough : room) :
    Clears limit read bytes room :=
  fun _ _ front => .inl ⟨enough, takes front⟩

private theorem Clears.of_iff (clears : Clears limit read bytes room) (same : room ↔ more) :
    Clears limit read bytes more := by
  rw [← propext same]
  exact clears

/-- After a read that needs no room the next one decides. -/
theorem Clears.after {first : Read buf α} {next : α → Read buf Unit} {a : α}
    (takes : Takes first bytes a) (clears : Clears limit (next a) bytes' room) :
    Clears limit (first >>= next) (bytes ++ bytes') room := by
  intro c rest front
  rw [toList_data_append, List.append_assoc] at front
  obtain ⟨d, outcome, behind⟩ := takes front
  rw [bind_of_ok outcome]
  exact clears behind

/-- Two reads in a row need room for each. -/
theorem Clears.bind {next : Read buf Unit} (first : Clears limit read bytes room)
    (second : Clears limit next bytes' more) :
    Clears limit (do read; next) (bytes ++ bytes') (room ∧ more) := by
  intro c rest front
  rw [toList_data_append, List.append_assoc] at front
  rcases first front with ⟨enough, d, outcome, behind⟩ | ⟨short, d, outcome⟩
  · rw [bind_of_ok outcome]
    rcases second behind with ⟨enough', passed⟩ | ⟨short', failed⟩
    · exact .inl ⟨⟨enough, enough'⟩, passed⟩
    · exact .inr ⟨fun both => short' both.2, failed⟩
  · rw [bind_of_error outcome]
    exact .inr ⟨fun both => short both.1, d, rfl⟩

end Read

namespace Walker

variable {buf : ByteArray} {limit room : Nat} {walker : Walker buf}

open Read (Clears Takes)

/-! ## Parts in a row -/

private theorem clears_items (roomFor : Payload → Prop) {tag : Tag} {items : List Payload}
    (tags : ∀ item ∈ items, item.tag = tag)
    (each : ∀ item ∈ items,
      Clears limit (walker.pass item.tag.toByte) item.encode (roomFor item)) :
    Clears limit (times (walker.pass tag.toByte) items.length) (Payload.appendItems .empty items)
      (∀ item ∈ items, roomFor item) := by
  induction items with
  | nil => exact Clears.of_takes (Read.takes_pure ()) (List.forall_mem_nil _)
  | cons item rest ih =>
    obtain ⟨same, tags⟩ := List.forall_mem_cons.mp tags
    obtain ⟨one, each⟩ := List.forall_mem_cons.mp each
    rw [same] at one
    rw [Payload.appendItems_cons, List.length_cons, times]
    exact (one.bind (ih tags each)).of_iff List.forall_mem_cons.symm

private theorem clears_entries (roomFor : Payload → Prop) {keyTag valueTag : Tag}
    {entries : List (Payload × Payload)}
    (tags : ∀ entry ∈ entries, entry.1.tag = keyTag ∧ entry.2.tag = valueTag)
    (each : ∀ entry ∈ entries,
      Clears limit (walker.pass entry.1.tag.toByte) entry.1.encode (roomFor entry.1) ∧
        Clears limit (walker.pass entry.2.tag.toByte) entry.2.encode (roomFor entry.2)) :
    Clears limit
      (times (do walker.pass keyTag.toByte; walker.pass valueTag.toByte) entries.length)
      (Payload.appendEntries .empty entries)
      (∀ entry ∈ entries, roomFor entry.1 ∧ roomFor entry.2) := by
  induction entries with
  | nil => exact Clears.of_takes (Read.takes_pure ()) (List.forall_mem_nil _)
  | cons entry rest ih =>
    obtain ⟨key, value⟩ := entry
    obtain ⟨⟨sameKey, sameValue⟩, tags⟩ := List.forall_mem_cons.mp tags
    obtain ⟨⟨first, second⟩, each⟩ := List.forall_mem_cons.mp each
    rw [sameKey] at first
    rw [sameValue] at second
    rw [Payload.appendEntries_cons, ← ByteArray.append_assoc, List.length_cons, times]
    exact ((first.bind second).bind (ih tags each)).of_iff
      (List.forall_mem_cons (p := fun entry => roomFor entry.1 ∧ roomFor entry.2)
        (a := (key, value))).symm

private theorem clears_fields (roomFor : Payload → Prop) {fields : List (Int16 × Payload)}
    (each : ∀ field ∈ fields,
      Clears limit (walker.pass field.2.tag.toByte) field.2.encode (roomFor field.2)) :
    Clears limit walker.fields (Payload.encodeFields fields)
      (∀ field ∈ fields, roomFor field.2) := by
  induction fields with
  | nil =>
    intro c rest front
    obtain ⟨d, header, behind⟩ := Decoder.takes_stop front
    exact .inl ⟨List.forall_mem_nil _, d, walker.fields_of_stop header, behind⟩
  | cons field rest ih =>
    obtain ⟨id, value⟩ := field
    obtain ⟨one, each⟩ := List.forall_mem_cons.mp each
    have both := (one.bind (ih each)).of_iff
      (List.forall_mem_cons (p := fun field => roomFor field.2) (a := (id, value))).symm
    rw [Payload.encodeFields_cons]
    intro c after front
    rw [toList_data_append, List.append_assoc] at front
    obtain ⟨d, header, behind⟩ :=
      Decoder.takes_fieldHeader (Decoder.toByte_tag_ne_stop value) id front
    rw [walker.fields_of_field header]
    exact both behind

/-! ## Containers -/

/-- The walk inside a container, if there is room for one. -/
def plainInside (limit : Nat) : Nat → Option (Walker buf)
  | 0 => none
  | room + 1 => some (plain limit room)

private theorem pass_plain (limit room : Nat) (tag : UInt8) :
    (plain limit room : Walker buf).pass tag = plainValue limit (plainInside limit room) tag := by
  cases room <;> rfl

private theorem clears_within {go : Walker buf → Read buf Unit} {bytes : ByteArray} {need : Nat}
    (inside : ∀ inner, room = inner + 1 →
      Clears limit (go (plain limit inner)) bytes (need ≤ inner)) :
    Clears limit (within limit (plainInside limit room) go) bytes (1 + need ≤ room) := by
  cases room with
  | zero => exact fun c _ _ => .inr ⟨by omega, c, rfl⟩
  | succ inner => exact (inside inner rfl).of_iff (by omega)

private theorem widthOfByte?_toByte (tag : Tag) : Tag.widthOfByte? tag.toByte = tag.width? := by
  rw [Tag.widthOfByte?, Tag.ofByte?_toByte]
  rfl

private theorem takes_flat {payload : Payload} (fixed : payload.tag.width?.isSome) :
    Takes (flat.pass payload.tag.toByte : Read buf Unit) payload.encode () := by
  obtain ⟨width, known⟩ := Option.isSome_iff_exists.mp fixed
  have size : (Tag.widthOfByte? payload.tag.toByte).getD 0 = payload.encode.size := by
    rw [widthOfByte?_toByte, known, Option.getD_some, Payload.size_encode_of_width known]
  change Takes (Read.advance _) _ _
  rw [size]
  exact Read.takes_advance payload.encode

private theorem clears_collection {tags : List Tag} {entry : Walker buf → Read buf Unit}
    {count need : Nat} {bytes : ByteArray} (empty : count = 0 → bytes = .empty)
    (atOnce : (∀ tag ∈ tags, tag.width?.isSome) →
      Clears limit (times (entry flat) count) bytes True)
    (inside : ∀ inner, room = inner + 1 →
      Clears limit (times (entry (plain limit inner)) count) bytes (need ≤ inner)) :
    Clears limit (entries limit (plainInside limit room) (tags.map Tag.toByte) entry count) bytes
      (Payload.needOfCollection tags count need ≤ room) := by
  have all_iff : ((tags.map Tag.toByte).all fun tag => (Tag.widthOfByte? tag).isSome) ↔
      ∀ tag ∈ tags, tag.width?.isSome := by
    simp only [List.all_map, List.all_eq_true, Function.comp_apply, widthOfByte?_toByte]
  unfold entries Payload.needOfCollection
  by_cases none : count = 0
  · rw [if_pos none, if_pos (.inl none), empty none]
    exact Clears.of_takes (Read.takes_pure ()) (Nat.zero_le _)
  · rw [if_neg none]
    by_cases fixed : ∀ tag ∈ tags, tag.width?.isSome
    · rw [if_pos (all_iff.mpr fixed), if_pos (.inr fixed)]
      exact (atOnce fixed).of_iff (iff_of_true trivial (Nat.zero_le _))
    · rw [if_neg (mt all_iff.mp fixed), if_neg (not_or.mpr ⟨none, fixed⟩)]
      exact clears_within inside

/-! ## Payloads -/

/-- What the plain walk does over the bytes of some payloads with less room. -/
def ClearsInside (buf : ByteArray) (limit room : Nat) (payload : Payload) : Prop :=
  ∀ inner, room = inner + 1 →
    Clears limit ((plain limit inner : Walker buf).pass payload.tag.toByte) payload.encode
      (payload.need ≤ inner)

private theorem clears_sequence {tag : Tag} {items : List Payload}
    (truthful : items.length ≤ Read.countCeiling ∧ ∀ item ∈ items, item.tag = tag)
    (inside : ∀ item ∈ items, ClearsInside buf limit room item) :
    Clears limit (do
        let item ← Read.uint8
        let count ← Read.int32
        entries limit (plainInside limit room) [item] (fun walker => walker.pass item)
          count.toNatClampNeg : Read buf Unit)
      (Payload.appendItems (Encode.sequenceHeader tag (Int32.ofNat items.length)) items)
      (Payload.needOfCollection [tag] items.length (Payload.needItems items) ≤ room) := by
  obtain ⟨small, tags⟩ := truthful
  rw [Payload.appendItems_eq, Encode.sequenceHeader, ByteArray.append_assoc]
  apply Clears.after (Read.takes_uint8 tag.toByte)
  apply Clears.after (Read.takes_int32 (Int32.ofNat items.length))
  rw [Read.toNatClampNeg_ofNat small]
  refine clears_collection (fun none => ?_) (fun fixed => ?_) fun inner same => ?_
  · rw [List.length_eq_zero_iff.mp none, Payload.appendItems]
  · have each (item : Payload) (among : item ∈ items) :
        Clears limit (flat.pass item.tag.toByte : Read buf Unit) item.encode True :=
      Clears.of_takes (takes_flat (tags item among ▸ fixed tag List.mem_cons_self)) trivial
    exact (clears_items (fun _ => True) tags each).of_iff
      (iff_of_true (fun _ _ => trivial) trivial)
  · have each (item : Payload) (among : item ∈ items) := inside item among inner same
    exact (clears_items (fun item => item.need ≤ inner) tags each).of_iff
      Payload.needItems_le_iff.symm

private theorem clears_map {keyTag valueTag : Tag} {items : List (Payload × Payload)}
    (truthful : (Payload.map keyTag valueTag items).Truthful)
    (inside : ∀ entry ∈ items, ClearsInside buf limit room entry.1 ∧
      ClearsInside buf limit room entry.2) :
    Clears limit (do
        let key ← Read.uint8
        let value ← Read.uint8
        let count ← Read.int32
        entries limit (plainInside limit room) [key, value]
          (fun walker => do walker.pass key; walker.pass value) count.toNatClampNeg : Read buf Unit)
      (Payload.map keyTag valueTag items).encode
      ((Payload.map keyTag valueTag items).need ≤ room) := by
  obtain ⟨small, tags⟩ := truthful
  rw [Payload.encode, Payload.appendEntries_eq, Encode.mapHeader, ByteArray.append_assoc,
    ByteArray.append_assoc, Payload.need]
  apply Clears.after (Read.takes_uint8 keyTag.toByte)
  apply Clears.after (Read.takes_uint8 valueTag.toByte)
  apply Clears.after (Read.takes_int32 (Int32.ofNat items.length))
  rw [Read.toNatClampNeg_ofNat small]
  refine clears_collection (fun none => ?_) (fun fixed => ?_) fun inner same => ?_
  · rw [List.length_eq_zero_iff.mp none, Payload.appendEntries]
  · obtain ⟨keys, fixed⟩ := List.forall_mem_cons.mp fixed
    have values := fixed valueTag List.mem_cons_self
    have each (entry : Payload × Payload) (among : entry ∈ items) :
        Clears limit (flat.pass entry.1.tag.toByte : Read buf Unit) entry.1.encode True ∧
          Clears limit (flat.pass entry.2.tag.toByte : Read buf Unit) entry.2.encode True :=
      ⟨Clears.of_takes (takes_flat ((tags entry among).1 ▸ keys)) trivial,
        Clears.of_takes (takes_flat ((tags entry among).2 ▸ values)) trivial⟩
    exact (clears_entries (fun _ => True) tags each).of_iff
      (iff_of_true (fun _ _ => ⟨trivial, trivial⟩) trivial)
  · have each (entry : Payload × Payload) (among : entry ∈ items) :=
      And.intro ((inside entry among).1 inner same) ((inside entry among).2 inner same)
    exact (clears_entries (fun payload => payload.need ≤ inner) tags each).of_iff
      Payload.needEntries_le_iff.symm

/-- The plain walk passes a payload, if it is written truthfully and there is room for what it
needs. -/
theorem clears_pass {payload : Payload} (truthful : ∀ node ∈ payload.nodes, node.Truthful) :
    Clears limit ((plain limit room : Walker buf).pass payload.tag.toByte) payload.encode
      (payload.need ≤ room) := by
  induction room using Nat.strongRecOn generalizing payload with
  | ind room ih =>
    have inside {payload : Payload} (truthful : ∀ node ∈ payload.nodes, node.Truthful) :
        ClearsInside buf limit room payload :=
      fun inner same => ih inner (by omega) truthful
    -- A payload of fixed width is passed by its bytes, with any room.
    have scalar {width : Nat} (fixed : payload.tag.width? = some width)
        (none : payload.need = 0) :
        Clears limit (Read.advance width : Read buf Unit) payload.encode (payload.need ≤ room) := by
      rw [none, ← Payload.size_encode_of_width fixed]
      exact Clears.of_takes (Read.takes_advance payload.encode) (Nat.zero_le _)
    rw [pass_plain, plainValue, Tag.ofByte?_toByte]
    cases payload with
    | bool b => exact scalar rfl rfl
    | byte n => exact scalar rfl rfl
    | i16 n => exact scalar rfl rfl
    | i32 n => exact scalar rfl rfl
    | i64 n => exact scalar rfl rfl
    | double x => exact scalar rfl rfl
    | text content =>
      exact Clears.of_takes (Read.takes_skipString (truthful _ List.mem_cons_self))
        (Nat.zero_le _)
    | struct fields =>
      have truthful := (List.forall_mem_cons.mp truthful).2
      apply clears_within
      intro inner same
      have each (field : Int16 × Payload) (among : field ∈ fields) :=
        inside (Payload.nodes_of_mem_fields truthful among) inner same
      exact (clears_fields (fun value => value.need ≤ inner) each).of_iff
        Payload.needFields_le_iff.symm
    | map keyTag valueTag entries =>
      obtain ⟨own, truthful⟩ := List.forall_mem_cons.mp truthful
      apply clears_map own
      intro entry among
      have both := Payload.nodes_of_mem_entries truthful among
      exact ⟨inside both.1, inside both.2⟩
    | set tag items =>
      obtain ⟨own, truthful⟩ := List.forall_mem_cons.mp truthful
      exact clears_sequence own fun item among =>
        inside (Payload.nodes_of_mem_items truthful among)
    | list tag items =>
      obtain ⟨own, truthful⟩ := List.forall_mem_cons.mp truthful
      exact clears_sequence own fun item among =>
        inside (Payload.nodes_of_mem_items truthful among)

end Walker

namespace Read

variable {buf : ByteArray} {limit : Nat} {payload : Payload}

/-- A payload is skipped, if it is written truthfully and there is room for what it needs. -/
theorem clears_skipValue (truthful : ∀ node ∈ payload.nodes, node.Truthful) :
    Clears limit (skipValue limit payload.tag.toByte : Read buf Unit) payload.encode
      (payload.need ≤ limit) := by
  intro c rest front
  have same := interchangeable_plain limit payload.tag.toByte c
  rcases Walker.clears_pass truthful front with ⟨enough, d, walked, behind⟩ | ⟨short, d, walked⟩
  · exact .inl ⟨enough, d, same.eq_ok_iff.mpr walked, behind⟩
  · rw [walked] at same
    cases skipped : skipValue limit payload.tag.toByte c with
    | ok a e =>
      rw [skipped] at same
      cases same
    | error fault e =>
      rw [skipped] at same
      cases same with
      | error alike =>
        rcases alike with rfl | ⟨-, impossible⟩
        · exact .inr ⟨short, e, rfl⟩
        · cases impossible

/-- A payload is skipped up to its end with as much room as it needs. -/
theorem takes_skipValue (truthful : ∀ node ∈ payload.nodes, node.Truthful)
    (enough : payload.need ≤ limit) :
    Takes (skipValue limit payload.tag.toByte : Read buf Unit) payload.encode () := by
  intro c rest front
  rcases clears_skipValue truthful front with ⟨-, passed⟩ | ⟨short, -⟩
  · exact passed
  · exact absurd enough short

end Read

/-- Skipping what was written for a payload between any other bytes ends exactly behind it if and
only if as many containers may be open as the payload needs. With fewer it fails at the limit and
stays where it was. The lengths, counts and tags that are written must be true, but no length is too
large. -/
theorem Payload.skipValue_encode {payload : Payload} {before after : ByteArray}
    {c : Cursor (before ++ payload.encode ++ after)} (place : c.pos = before.size) (limit : Nat)
    (truthful : ∀ node ∈ payload.nodes, node.Truthful) :
    ((∃ d, Read.skipValue limit payload.tag.toByte c = .ok () d ∧
        d.pos = before.size + payload.encode.size) ↔ payload.need ≤ limit) ∧
      (limit < payload.need →
        Read.skipValue limit payload.tag.toByte c = .error (.skipDepthExceeded limit) c) := by
  have front : c.rest = payload.encode.data.toList ++ after.data.toList := by
    rw [Cursor.rest, place, toList_data_append, toList_data_append, List.append_assoc,
      ← ByteArray.size_data, ← Array.length_toList, List.drop_left]
  rcases Read.clears_skipValue truthful front with ⟨enough, d, passed, behind⟩ | ⟨short, d, failed⟩
  · have stop : d.pos = before.size + payload.encode.size := by
      rw [Cursor.pos_of_rest_eq behind, ByteArray.size_append]
    exact ⟨iff_of_true ⟨d, passed, stop⟩ enough, fun less => absurd enough (Nat.not_le_of_lt less)⟩
  · cases Read.eq_of_skipValue_error failed
    refine ⟨iff_of_false ?_ short, fun _ => failed⟩
    rintro ⟨d, passed, -⟩
    rw [failed] at passed
    cases passed

/-- A map from texts to lists of structs, where one list is of numbers and one is empty. -/
def sampleNest : Payload :=
  .map .string .list [(.text "a", .list .struct [.struct [(1, .list .i32 [.i32 7])]]),
    (.text "", .list .map [])]

/-- The map, the list in it and the struct in that one are open at a time, the list of numbers is
not. Between two other bytes the map is skipped with room for three, and not with room for two. -/
theorem skipValue_sampleNest :
    sampleNest.need = 3 ∧ ∃ c : Cursor (⟨#[255]⟩ ++ sampleNest.encode ++ ⟨#[9]⟩), c.pos = 1 ∧
      (∃ d, Read.skipValue 3 13 c = .ok () d ∧ d.pos = 1 + sampleNest.encode.size) ∧
      Read.skipValue 2 13 c = .error (.skipDepthExceeded 2) c := by
  have truthful : ∀ node ∈ sampleNest.nodes, node.Truthful := by decide
  refine ⟨by decide, ⟨1, by decide⟩, rfl, ?_, ?_⟩
  · exact (Payload.skipValue_encode rfl 3 truthful).1.mpr (by decide)
  · exact (Payload.skipValue_encode rfl 2 truthful).2 (by decide)

end TaggedRpc
