import TaggedRpc.Encode.Bytes
import TaggedRpc.Schema.Names
import TaggedRpc.Tree.Fields

/-!
# Payloads

Values to be written, with their bytes and with the values that they are decoded to. The tags that a
collection declares are written as they are, even if its items have others.
-/

namespace TaggedRpc

/-- A value to be written. -/
inductive Payload where
  | bool (value : Bool)
  | byte (value : Int8)
  | i16 (value : Int16)
  | i32 (value : Int32)
  | i64 (value : Int64)
  | double (value : Binary64)
  | text (value : String)
  | struct (fields : List (Int16 × Payload))
  | map (keyTag valueTag : Tag) (entries : List (Payload × Payload))
  | set (tag : Tag) (items : List Payload)
  | list (tag : Tag) (items : List Payload)

namespace Payload

/-- The tag that a payload is written under. -/
def tag : Payload → Tag
  | bool _ => .bool
  | byte _ => .byte
  | i16 _ => .i16
  | i32 _ => .i32
  | i64 _ => .i64
  | double _ => .double
  | text _ => .string
  | struct _ => .struct
  | map .. => .map
  | set .. => .set
  | list .. => .list

mutual

/-- The bytes of a payload. -/
def encode : Payload → ByteArray
  | .bool b => Encode.bool b
  | .byte n => Encode.int8 n
  | .i16 n => Encode.int16 n
  | .i32 n => Encode.int32 n
  | .i64 n => Encode.int64 n
  | .double x => Encode.double x
  | .text content => Encode.text content
  | .struct fields => appendFields .empty fields ++ Encode.stop
  | .map keyTag valueTag entries =>
    appendEntries (Encode.mapHeader keyTag valueTag (Int32.ofNat entries.length)) entries
  | .set tag items => appendItems (Encode.sequenceHeader tag (Int32.ofNat items.length)) items
  | .list tag items => appendItems (Encode.sequenceHeader tag (Int32.ofNat items.length)) items

/-- Some bytes followed by fields. -/
def appendFields (out : ByteArray) : List (Int16 × Payload) → ByteArray
  | [] => out
  | (id, value) :: rest =>
    appendFields (out ++ Encode.fieldHeader value.tag.toByte id ++ value.encode) rest

/-- Some bytes followed by map entries. -/
def appendEntries (out : ByteArray) : List (Payload × Payload) → ByteArray
  | [] => out
  | (key, value) :: rest => appendEntries (out ++ key.encode ++ value.encode) rest

/-- Some bytes followed by items. -/
def appendItems (out : ByteArray) : List Payload → ByteArray
  | [] => out
  | item :: rest => appendItems (out ++ item.encode) rest

end

/-- The bytes of the fields of a struct and its end. -/
def encodeFields (fields : List (Int16 × Payload)) : ByteArray :=
  appendFields .empty fields ++ Encode.stop

mutual

/-- The value that a payload is decoded to. -/
def decoded (names : FieldNames) : Payload → Value
  | .bool b => .bool b
  | .byte n => .i8 n
  | .i16 n => .i16 n
  | .i32 n => .i32 n
  | .i64 n => .i64 n
  | .double x => .double x
  | .text content => .text content
  | .struct fields => .struct (.ofList (decodedEach names fields))
  | .map _ _ entries => .map (decodedEntries names entries)
  | .set _ items => .set (decodedItems names items)
  | .list _ items => .list (decodedItems names items)

/-- The keys and fields that fields are decoded to, one for each. -/
def decodedEach (names : FieldNames) : List (Int16 × Payload) → List (String × Field)
  | [] => []
  | (id, value) :: rest =>
    (names.keyFor id, .decoded value.tag.toByte id (value.decoded names)) ::
      decodedEach names rest

/-- The map entries that map entries are decoded to. -/
def decodedEntries (names : FieldNames) : List (Payload × Payload) → List (Value × Value)
  | [] => []
  | (key, value) :: rest => (key.decoded names, value.decoded names) :: decodedEntries names rest

/-- The items that items are decoded to. -/
def decodedItems (names : FieldNames) : List Payload → List Value
  | [] => []
  | item :: rest => item.decoded names :: decodedItems names rest

end

/-- The fields that the fields of a struct are decoded to. -/
def decodedFields (names : FieldNames) (fields : List (Int16 × Payload)) : Fields :=
  .ofList (decodedEach names fields)

/-- The bytes of a message. -/
def encodeMessage (envelope : Envelope) (fields : List (Int16 × Payload)) : ByteArray :=
  Encode.envelope envelope ++ encodeFields fields

end Payload

end TaggedRpc
