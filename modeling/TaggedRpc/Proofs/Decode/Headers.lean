import TaggedRpc.Proofs.Decode.Boundaries
import TaggedRpc.Proofs.Tree.Insertions

/-!
# Headers of fields

An index of the fields of a struct that is made without building any value: the headers are read and
the values behind them are skipped (`Read.headers`). Decoding that keeps synchronisation ends where
the index does, and its fields are those of the index. None is lost, invented or moved, whatever had
to be stood in for on the way (`readFields_headers`).
-/

namespace TaggedRpc

/-- The header that a field was read from. -/
def Field.header (field : Field) : UInt8 × Int16 := (field.tag, field.id)

namespace Read

variable {buf : ByteArray}

/-- The headers of the fields from a place up to the stop tag. -/
def headersFrom (limit : Nat) (c : Cursor buf) :
    EStateM.Result Fault (Cursor buf) (List (UInt8 × Int16)) :=
  match _ : Decoder.readHeader c with
  | .error fault d => .error fault d
  | .ok none d => .ok [] d
  | .ok (some (tag, id)) d =>
    match _ : skipValue limit tag d with
    | .error fault e => .error fault e
    | .ok () e =>
      match headersFrom limit e with
      | .error fault f => .error fault f
      | .ok headers f => .ok ((tag, id) :: headers) f
termination_by c.remaining
decreasing_by
  rename_i header skipped
  have moved := Decoder.advances_readHeader.le_of_ok header
  have kept := (advances_skipValue limit tag).le_of_ok skipped
  have before := c.pos_add_remaining
  have after := e.pos_add_remaining
  omega

/-- Read the headers of the fields of a struct. Values are skipped, with at most `limit` containers
open at a time. -/
def headers (limit : Nat) : Read buf (List (UInt8 × Int16)) := headersFrom limit

variable {limit : Nat} {c d e : Cursor buf}

private theorem headers_of_stop (header : Decoder.readHeader c = .ok none d) :
    headers limit c = .ok [] d := by
  rw [headers, headersFrom]
  split <;> rename_i other <;> rw [header] at other <;> cases other
  rfl

private theorem headers_of_field {tag : UInt8} {id : Int16} {rest : List (UInt8 × Int16)}
    {f : Cursor buf} (header : Decoder.readHeader c = .ok (some (tag, id)) d)
    (skipped : skipValue limit tag d = .ok () e) (behind : headers limit e = .ok rest f) :
    headers limit c = .ok ((tag, id) :: rest) f := by
  rw [headers] at behind
  rw [headers, headersFrom]
  split <;> rename_i other <;> rw [header] at other <;> cases other
  split <;> rename_i passed <;> rw [skipped] at passed <;> cases passed
  rw [behind]

end Read

namespace Decoder

variable {buf : ByteArray} {limits : Limits} {names : FieldNames} {depth room : Nat}
  {s t : Decoder buf}

private theorem header_readField (values : ValueReader buf) (tag : UInt8) (id : Int16)
    (s : Decoder buf) : (readField limits values tag id s).1.header = (tag, id) := by
  unfold readField
  split <;> rfl

private theorem skipValue_of_readField (skips : limits.skipUnbuilt)
    (le : depth + limits.maxSkipDepth ≤ room) {tag : UInt8} {id : Int16} (kept : s.desync = none)
    (going : (readField limits (values limits names depth) tag id s).2.desync = none) :
    Read.skipValue room tag s.cursor =
      .ok () (readField limits (values limits names depth) tag id s).2.cursor := by
  have enough : limits.maxSkipDepth ≤ room := by omega
  have follows : Follows ((Walker.ofRoom room room).pass tag)
      ((values limits names depth : ValueReader buf).read tag) := follows_values skips room le tag
  rw [Read.skipValue_eq_ok_iff]
  exact follows_readField (Walker.extends_of_le enough) follows id kept rfl going

/-- Fields that keep synchronisation are put in front of others one by one, under the keys of their
numbers, and have the headers that are found by skipping. -/
theorem readEntries_headers (skips : limits.skipUnbuilt) {done entries : List (String × Field)}
    (outcome : readEntries limits names (values limits names depth) done s = (entries, t))
    (final : t.desync = none) :
    ∃ fields : List Field,
      entries = (fields.map fun field => (names.keyFor field.id, field)).reverse ++ done ∧
      ∀ room, depth + limits.maxSkipDepth ≤ room →
        Read.headers room s.cursor = .ok (fields.map Field.header) t.cursor := by
  have kept : s.desync = none := kept_of_readEntries ((congrArg (·.2.desync) outcome).trans final)
  fun_induction readEntries limits names (values limits names depth) done s with
  | case1 done s lost =>
    rw [kept] at lost
    cases lost
  | case2 =>
    cases outcome
    cases final
  | case3 done s _ c header =>
    cases outcome
    exact ⟨[], rfl, fun room _ => Read.headers_of_stop header⟩
  | case4 done s _ tag id c header read ih =>
    have going : read.2.desync = none :=
      kept_of_readEntries ((congrArg (·.2.desync) outcome).trans final)
    obtain ⟨fields, same, walks⟩ := ih outcome going
    have own : read.1.header = (tag, id) := header_readField _ _ _ _
    refine ⟨read.1 :: fields, ?_, fun room le => ?_⟩
    · have number : read.1.id = id := congrArg Prod.snd own
      simp [same, number]
    · have skipped : Read.skipValue room tag c = .ok () read.2.cursor :=
        skipValue_of_readField (s := { s with cursor := c }) skips le kept going
      rw [List.map_cons, own]
      exact Read.headers_of_field header skipped (walks room le)

/-- The first field under a key has the first header whose number has the key. -/
theorem header_lookup (names : FieldNames) (fields : List Field) (key : String) :
    ((fields.map fun field => (names.keyFor field.id, field)).lookup key).map Field.header =
      (fields.map Field.header).find? fun header => names.keyFor header.2 == key := by
  induction fields with
  | nil => rfl
  | cons field rest ih =>
    rw [List.map_cons, List.map_cons, Fields.lookup_cons_eq, List.find?_cons]
    by_cases same : key = names.keyFor field.id
    · simp [same, Field.header]
    · have other : (names.keyFor field.header.2 == key) = false := beq_false_of_ne (Ne.symm same)
      rw [if_neg same, ih, other]

/-- Decoding the fields of a struct neither loses nor invents nor moves one. If it keeps
synchronisation, then skipping through the fields with enough room ends at the same place. The keys
are those of the headers found by skipping, each at its first place, and under each key is a field
that has the last of the headers with the key. -/
theorem readFields_headers (limits : Limits) (names : FieldNames) (depth : Nat)
    (skips : limits.skipUnbuilt) {s t : Decoder buf} {fields : Fields}
    (decoded : readFields limits names (values limits names depth) s = (fields, t))
    (final : t.desync = none) :
    ∃ headers : List (UInt8 × Int16),
      (∀ room, depth + limits.maxSkipDepth ≤ room →
        Read.headers room s.cursor = .ok headers t.cursor) ∧
      fields.keys = (headers.map fun header => names.keyFor header.2).eraseDups ∧
      ∀ key, (fields.get? key).map Field.header =
        headers.reverse.find? fun header => names.keyFor header.2 == key := by
  obtain ⟨list, entries, walks⟩ := readEntries_headers skips (Prod.eta _).symm
    ((congrArg (·.2.desync) decoded).trans final)
  have inserted : (readEntries limits names (values limits names depth) [] s).1.reverse =
      list.map fun field => (names.keyFor field.id, field) := by
    rw [entries, List.append_nil, List.reverse_reverse]
  rw [readFields, inserted] at decoded
  cases decoded
  refine ⟨list.map Field.header, walks, ?_, fun key => ?_⟩
  · change (Fields.ofList _).keys = _
    rw [Fields.keys_ofList, List.map_map, List.map_map]
    rfl
  · change Option.map _ ((Fields.ofList _).get? key) = _
    rw [Fields.get?_ofList, ← List.map_reverse, header_lookup, List.map_reverse]

/-- Three fields, the last of which has the number of the first one, and one byte behind them. -/
def repeatedField : ByteArray := ⟨#[8, 0, 1, 0, 0, 0, 5, 6, 0, 2, 0, 9, 2, 0, 1, 1, 0, 7]⟩

/-- Skipping finds three headers. The two keys keep their places, and the first one has the tag of
the last field. -/
theorem headers_repeatedField :
    ∃ fields t, readFields {} .empty (values {} .empty 2) (start repeatedField) = (fields, t) ∧
      (∀ room, 258 ≤ room → Read.headers room (start repeatedField).cursor =
        .ok [(8, 1), (6, 2), (2, 1)] ⟨17, by decide⟩) ∧
      fields.keys = ["field_1", "field_2"] ∧
      (fields.get? "field_1").map Field.header = some (2, 1) := by
  have final :
      (readFields {} .empty (values {} .empty 2) (start repeatedField)).2.desync = none := by
    decide +kernel
  have found : (match Read.headers 258 (start repeatedField).cursor with
      | .ok headers c => some (headers, c.pos)
      | .error _ _ => none) = some ([(8, 1), (6, 2), (2, 1)], 17) := by decide +kernel
  obtain ⟨headers, walks, keys, last⟩ :=
    readFields_headers {} .empty 2 rfl (Prod.eta _).symm final
  rw [walks 258 (by decide)] at found
  obtain ⟨rfl, place⟩ := Prod.mk.inj (Option.some.inj found)
  refine ⟨_, _, (Prod.eta _).symm, fun room le => ?_, ?_, ?_⟩
  · rw [walks room le]
    congr 1
    exact Cursor.ext place
  · rw [keys]
    decide +kernel
  · rw [last]
    decide +kernel

end Decoder

end TaggedRpc
