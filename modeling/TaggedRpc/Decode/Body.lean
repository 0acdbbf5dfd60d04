import TaggedRpc.Decode.Decoder
import TaggedRpc.Schema.Names
import TaggedRpc.Tree.Fields

/-!
# Decoding of message bodies

Bodies are decoded by recursion on the levels of nesting that are left. A field whose value cannot
be read keeps the fault, and the value is skipped so that its siblings are read. Where it cannot be
skipped either, synchronisation is lost and every open struct ends.

Each level reads the values inside its own ones through a `ValueReader`, which brings a proof that
it does not move back. The loop over the fields of a struct ends because of this proof.
-/

namespace TaggedRpc

/-- A way to read a value with any tag byte, which does not move back. -/
structure ValueReader (buf : ByteArray) where
  /-- Read a value with a tag byte. -/
  read : UInt8 → Decode buf Value
  /-- Reading a value does not move back. -/
  forth : ∀ tag, Advances Decoder.pos 0 (read tag)

namespace Limits

/-- What stands for a collection that has more entries than are built, if it has. The first number
is the number of entries built before. A negative count is no entries. -/
def refusal? (limits : Limits) (elements : Nat) (kind : CollectionKind) (count : Int32) :
    Option Placeholder :=
  if limits.maxCollectionSize < count.toNatClampNeg then some (.oversizedCollection kind count)
  else if limits.maxElements - elements < count.toNatClampNeg then
    some (.elementBudgetExhausted kind count)
  else none

end Limits

namespace Decoder

variable {buf : ByteArray}

/-! ## Values that are not built -/

/-- Stand in for a value that is nested too deeply. -/
def tooDeep (limits : Limits) (tag : UInt8) (s : Decoder buf) : Value × Decoder buf :=
  (.placeholder .depthExceeded,
    if limits.skipUnbuilt then
      s.skipOrLose (Read.skipValue limits.maxSkipDepth tag) .deepValue
    else s)

/-- Stand in for a value with a tag byte that is not one of a value. Its size is not known. -/
def unknownType (tag : UInt8) (s : Decoder buf) : Value × Decoder buf :=
  (.placeholder (.unknownType tag), s.lose (.unknownTag tag))

/-- Stand in for a collection that has more entries than are built. -/
def tooLarge (limits : Limits) (kind : CollectionKind) (first second : UInt8) (count : Int32)
    (placeholder : Placeholder) (s : Decoder buf) : Value × Decoder buf :=
  (.placeholder placeholder,
    if limits.skipUnbuilt then
      s.skipOrLose
        (Read.skipItems limits.maxSkipDepth first second
          (kind.valuesPerEntry * count.toNatClampNeg))
        (.entries kind count)
    else s)

/-! ## Collections -/

/-- Read items up to a number of them, or up to the loss of synchronisation, after the items of
`done` in reverse. The item that loses it is kept. -/
def readItems (values : ValueReader buf) (tag : UInt8) (done : List Value) :
    Nat → Decode buf (List Value)
  | 0 => return done.reverse
  | left + 1 => do
    let item ← values.read tag
    if (← get).desync.isSome then return (item :: done).reverse
    else readItems values tag (item :: done) left

/-- Read map entries up to a number of them, or up to the loss of synchronisation, after the entries
of `done` in reverse. The entry whose value loses it is kept, a key that loses it is not. -/
def readPairs (values : ValueReader buf) (keyTag valueTag : UInt8) (done : List (Value × Value)) :
    Nat → Decode buf (List (Value × Value))
  | 0 => return done.reverse
  | left + 1 => do
    let key ← values.read keyTag
    if (← get).desync.isSome then return done.reverse
    else
      let value ← values.read valueTag
      if (← get).desync.isSome then return ((key, value) :: done).reverse
      else readPairs values keyTag valueTag ((key, value) :: done) left

/-- Build a collection if its entries are within the limits, and stand in for it if not. -/
def withinLimits (limits : Limits) (kind : CollectionKind) (first second : UInt8) (count : Int32)
    (build : Nat → Decode buf Value) : Decode buf Value := fun s =>
  match limits.refusal? s.elements kind count with
  | some placeholder => giving (tooLarge limits kind first second count placeholder) s
  | none =>
    build count.toNatClampNeg { s with elements := s.elements + count.toNatClampNeg }

/-- Read a map. -/
def readMap (limits : Limits) (values : ValueReader buf) : Decode buf Value := do
  let keyTag ← reading Read.uint8
  let valueTag ← reading Read.uint8
  let count ← reading Read.int32
  withinLimits limits .map keyTag valueTag count fun size =>
    .map <$> readPairs values keyTag valueTag [] size

/-- Read a set or a list. -/
def readSequence (limits : Limits) (values : ValueReader buf) (kind : CollectionKind)
    (build : List Value → Value) : Decode buf Value := do
  let tag ← reading Read.uint8
  let count ← reading Read.int32
  withinLimits limits kind tag tag count fun size => build <$> readItems values tag [] size

/-! ## Structs -/

/-- Read the header of a field: its tag byte and its number, or nothing after the last field. -/
def readHeader : Read buf (Option (UInt8 × Int16)) := do
  let tag ← Read.uint8
  if tag = Tag.stop.toByte then return none
  else
    let id ← Read.int16
    return some (tag, id)

/-- Read the value of a field. If that fails, keep the fault and skip the value from its start. -/
def readField (limits : Limits) (values : ValueReader buf) (tag : UInt8) (id : Int16)
    (s : Decoder buf) : Field × Decoder buf :=
  match values.read tag s with
  | .ok value t => (.decoded tag id value, t)
  | .error fault t =>
    (.failed tag id fault.message,
      skipOrLose (Read.skipValue limits.maxSkipDepth tag) (.field id) { t with cursor := s.cursor })

/-- Reading the header of a field, or the end of a struct, moves on by one byte at least. -/
theorem advances_readHeader :
    Advances Cursor.pos 1 (readHeader : Read buf (Option (UInt8 × Int16))) := by
  refine Read.advances_uint8.bind (n := 0) fun tag => ?_
  split
  · exact Advances.pure _
  · exact (Read.advances_int16.weaken (Nat.zero_le 2)).bind fun _ => Advances.pure _

/-- Reading a field does not move back behind the start of its value. -/
theorem pos_le_readField (limits : Limits) (values : ValueReader buf) (tag : UInt8) (id : Int16)
    (s : Decoder buf) : s.pos ≤ (readField limits values tag id s).2.pos := by
  have step := values.forth tag s
  unfold readField
  cases outcome : values.read tag s with
  | ok value t =>
    rw [outcome] at step
    exact step
  | error fault t =>
    exact pos_le_skipOrLose { t with cursor := s.cursor } (Read.advances_skipValue _ _)

/-- Read fields up to the stop tag or the loss of synchronisation, in front of the fields of
`done`. The last field comes first. -/
def readEntries (limits : Limits) (names : FieldNames) (values : ValueReader buf)
    (done : List (String × Field)) (s : Decoder buf) : List (String × Field) × Decoder buf :=
  if s.desync.isSome then (done, s)
  else
    match _ : readHeader s.cursor with
    | .error fault c => (done, { s with cursor := c, desync := some (.header fault) })
    | .ok none c => (done, { s with cursor := c })
    | .ok (some (tag, id)) c =>
      let read := readField limits values tag id { s with cursor := c }
      readEntries limits names values ((names.keyFor id, read.1) :: done) read.2
termination_by s.cursor.remaining
decreasing_by
  rename_i header
  have moved := advances_readHeader.le_of_ok header
  have kept := pos_le_readField limits values tag id { s with cursor := c }
  have before := s.cursor.pos_add_remaining
  have after := (readField limits values tag id { s with cursor := c }).2.cursor.pos_add_remaining
  unfold pos at kept
  dsimp only at kept
  omega

/-- Read the fields of a struct. If synchronisation is lost in it, or was lost before, they are
incomplete. -/
def readFields (limits : Limits) (names : FieldNames) (values : ValueReader buf) (s : Decoder buf) :
    Fields × Decoder buf :=
  let read := readEntries limits names values [] s
  ({ Fields.ofList read.1.reverse with incomplete := read.2.desyncReason }, read.2)

/-- Read a struct. -/
def readStruct (limits : Limits) (names : FieldNames) (values : ValueReader buf) (s : Decoder buf) :
    Value × Decoder buf :=
  let read := readFields limits names values s
  (.struct read.1, read.2)

/-! ## Values -/

/-- Read a value, where the values inside it may have `depth` more levels of nesting. A struct needs
one of them for its fields. -/
def readValue (limits : Limits) (names : FieldNames) (depth : Nat) (values : ValueReader buf)
    (tag : UInt8) : Decode buf Value :=
  match Tag.ofByte? tag with
  | none | some .stop => giving (unknownType tag)
  | some .void => return .placeholder .void
  | some .bool => (fun b => .bool (b != 0)) <$> reading Read.int8
  | some .byte => .i8 <$> reading Read.int8
  | some .double => .double <$> reading Read.double
  | some .i16 => .i16 <$> reading Read.int16
  | some .i32 => .i32 <$> reading Read.int32
  | some .i64 => .i64 <$> reading Read.int64
  | some .string => .text <$> reading Read.string
  | some .struct =>
    if depth = 0 then giving (tooDeep limits tag) else giving (readStruct limits names values)
  | some .map => readMap limits values
  | some .set => readSequence limits values .set .set
  | some .list => readSequence limits values .list .list

end Decoder

end TaggedRpc
