import TaggedRpc.Proofs.Decode.Message
import TaggedRpc.Proofs.Decode.Yields
import TaggedRpc.Proofs.Schema.Keys
import TaggedRpc.Proofs.Tree.Rules

/-!
# Trees are well typed

Every value in a tree that is decoded has the form that the tag byte before it says, or stands for
one that was not built in a way that is right for the tag (`Value.HasTag`). Every struct has its
fields under the keys of their numbers, each key once, and every field has a value or an error and
never both (`Fields.Typed`). This is so at every level of nesting, whatever bytes are decoded
(`decode_typed`).
-/

namespace TaggedRpc

/-- The tag of a kind of collection. -/
def CollectionKind.tag : CollectionKind → Tag
  | map => .map
  | set => .set
  | list => .list

/-- Whether a value may be read under a tag byte. A value that is nested too deeply may be under any
tag. -/
def Value.HasTag (tag : UInt8) : Value → Prop
  | .bool _ => tag = Tag.bool.toByte
  | .i8 _ => tag = Tag.byte.toByte
  | .i16 _ => tag = Tag.i16.toByte
  | .i32 _ => tag = Tag.i32.toByte
  | .i64 _ => tag = Tag.i64.toByte
  | .double _ => tag = Tag.double.toByte
  | .text _ => tag = Tag.string.toByte
  | .struct _ => tag = Tag.struct.toByte
  | .map _ => tag = Tag.map.toByte
  | .set _ => tag = Tag.set.toByte
  | .list _ => tag = Tag.list.toByte
  | .placeholder .void => tag = Tag.void.toByte
  | .placeholder (.oversizedCollection kind _) => tag = kind.tag.toByte
  | .placeholder (.elementBudgetExhausted kind _) => tag = kind.tag.toByte
  | .placeholder (.unknownType unknown) =>
    unknown = tag ∧ (Tag.ofByte? tag = none ∨ Tag.ofByte? tag = some .stop)
  | .placeholder .depthExceeded => True

/-- What holds of the fields of a struct, apart from their values. -/
structure Fields.Typed (names : FieldNames) (fields : Fields) : Prop where
  /-- The keys are all different. -/
  nodup : fields.keys.Nodup
  /-- Every key is that of the number of its field. -/
  key_eq : ∀ entry ∈ fields.entries, entry.1 = names.keyFor entry.2.id
  /-- No field has the tag of the end of a struct. -/
  tag_ne : ∀ entry ∈ fields.entries, entry.2.tag ≠ Tag.stop.toByte
  /-- Every field has a value or an error, but not both. -/
  exclusive : ∀ entry ∈ fields.entries, entry.2.value.isSome = entry.2.error.isNone

/-- The rules of types for a tree. They are the same at all levels. -/
def FieldNames.typing (names : FieldNames) : Rules where
  value _ tag value := value.HasTag tag
  fields _ fields := fields.Typed names

namespace Fields

variable {names : FieldNames}

/-- Where different fields have different keys, a field is found by its number and by its key
alike. -/
theorem Typed.getById?_eq {fields : Fields} (typed : fields.Typed names)
    (injective : Function.Injective names.keyFor) (id : Int16) :
    fields.getById? id = fields.get? (names.keyFor id) := by
  have found (entries : List (String × Field))
      (keys : ∀ entry ∈ entries, entry.1 = names.keyFor entry.2.id) :
      (entries.find? fun entry => entry.2.id == id).map Prod.snd =
        entries.lookup (names.keyFor id) := by
    induction entries with
    | nil => rfl
    | cons entry rest ih =>
      obtain ⟨first, others⟩ := List.forall_mem_cons.mp keys
      rw [lookup_cons_eq, List.find?_cons]
      by_cases same : entry.2.id = id
      · simp [same, first]
      · have other : names.keyFor id ≠ entry.1 := fun equal =>
          same (injective (first.symm.trans equal.symm))
        rw [beq_false_of_ne same, if_neg other]
        exact ih others
  exact found fields.entries typed.key_eq

end Fields

namespace Decoder

variable {buf : ByteArray} {limits : Limits} {names : FieldNames}

section Parts

variable {values : ValueReader buf} {level : Nat} {tag : UInt8}

private theorem FieldRead.id_eq {condition : Value → Prop} {id : Int16} {field : Field}
    (read : FieldRead values condition tag id field) : field.id = id := by
  cases read <;> rfl

/-- A field that is read has a value or an error, but not both. -/
theorem FieldRead.exclusive {condition : Value → Prop} {id : Int16} {field : Field}
    (read : FieldRead values condition tag id field) :
    field.value.isSome = field.error.isNone := by
  cases read <;> rfl

/-- The fields of a struct are well typed if their values are. -/
theorem typed_readFields
    (inner : ∀ tag, Yields (Value.Keeps names.typing level tag) (values.read tag))
    (s : Decoder buf) : (readFields limits names values s).1.Keeps names.typing level := by
  constructor
  · refine ⟨Fields.nodup_keys_ofList _, ?_, ?_, ?_⟩ <;> intro entry among <;>
      cases entryRead_readFields inner s entry among with
      | mk going read => ?_
    · exact congrArg names.keyFor read.id_eq.symm
    · rwa [read.tag_eq]
    · exact read.exclusive
  · intro entry among value holds
    cases entryRead_readFields inner s entry among with
    | mk going read =>
      rw [read.tag_eq]
      exact read.held_of_value holds

private theorem typed_readMap (known : tag = Tag.map.toByte)
    (inner : ∀ tag, Yields (Value.Keeps names.typing (level + 1) tag) (values.read tag)) :
    Yields (Value.Keeps names.typing level tag)
      (readCollection limits .map mapHeader (readPair values) .map) := by
  apply yields_readMap inner
  · exact fun _ _ => .single known rfl
  · exact fun _ _ _ => .single known rfl
  · intro keyTag valueTag entries _ each
    exact .map known keyTag valueTag (fun entry among => (each entry among).1)
      fun entry among => (each entry among).2

private theorem typed_readSequence {kind : CollectionKind} {build : List Value → Value}
    (sequence : Sequence tag kind build)
    (inner : ∀ tag, Yields (Value.Keeps names.typing (level + 1) tag) (values.read tag)) :
    Yields (Value.Keeps names.typing level tag)
      (readCollection limits kind sequenceHeader (fun tag _ => readItem values tag) build) := by
  have known : tag = kind.tag.toByte := by
    cases sequence with
    | set known => exact Tag.ofByte?_eq_some_iff.mp known
    | list known => exact Tag.ofByte?_eq_some_iff.mp known
  apply yields_readSequence inner
  · exact fun _ _ => .single known rfl
  · exact fun _ _ _ => .single known rfl
  · intro itemTag items _ each
    cases sequence with
    | set => exact .set known itemTag each
    | list => exact .list known itemTag each

private theorem hasTag_fixedValue {width : Nat} (fixed : Tag.widthOfByte? tag = some width)
    (n : Nat) : (fixedValue tag n).HasTag tag := by
  rcases known : Tag.ofByte? tag with _ | assigned
  · rw [Tag.widthOfByte?, known] at fixed
    cases fixed
  · rw [Tag.widthOfByte?, known] at fixed
    rw [fixedValue, known]
    cases assigned <;> first | exact Tag.ofByte?_eq_some_iff.mp known | cases fixed

end Parts

/-- Values are well typed, whatever levels of nesting are left. -/
theorem typed_values (limits : Limits) (names : FieldNames) (level depth : Nat) (tag : UInt8) :
    Yields (Value.Keeps names.typing level tag)
      ((values limits names depth : ValueReader buf).read tag) := by
  revert level
  apply values_induction (motive := fun _ tag act => ∀ level,
    Yields (Value.Keeps names.typing level tag) act)
  case tooDeep => exact fun _ _ => yields_giving fun _ => .single True.intro rfl
  case unknown => exact fun unknown _ => yields_giving fun _ => .single ⟨rfl, unknown⟩ rfl
  case fixed =>
    intro depth tag width fixed level
    apply yields_reading
    intro n
    exact .single (hasTag_fixedValue fixed n) (Value.isCompound_of_isLeaf (isLeaf_fixedValue _ n))
  case string =>
    intro depth tag known level
    exact yields_reading _ fun _ => .single (Tag.ofByte?_eq_some_iff.mp known) rfl
  case struct =>
    intro depth tag known _ inner level
    apply (yields_giving (typed_readFields fun tag => inner tag (level + 1))).map
    exact fun fields typed => .struct (Tag.ofByte?_eq_some_iff.mp known) typed
  case map =>
    intro depth tag known inner level
    exact typed_readMap (Tag.ofByte?_eq_some_iff.mp known) fun tag => inner tag (level + 1)
  case sequence =>
    intro depth tag kind build sequence inner level
    exact typed_readSequence sequence fun tag => inner tag (level + 1)

end Decoder

/-- Every tree that is decoded is well typed, whatever the bytes and the limits are. At every level
of nesting the values have the forms of their tags, the items of a set or a list all under one tag,
the keys of a map under one and its values under one, and structs have different keys, which are
those of the numbers of their fields. So if different fields have different keys, looking up a field
by its number or by its key finds the same one in every struct of the tree. -/
theorem decode_typed (limits : Limits) (registry : Option Registry) (buf : ByteArray)
    {message : Message} (decoded : decode limits registry buf = .ok message) :
    (Value.struct message.fields).Keeps (Decoder.namesOf registry message.envelope).typing 0
      Tag.struct.toByte ∧
    (Function.Injective (Decoder.namesOf registry message.envelope).keyFor →
      ∀ fields, Value.struct fields ∈ (Value.struct message.fields).subvalues →
        ∀ id, fields.getById? id =
          fields.get? ((Decoder.namesOf registry message.envelope).keyFor id)) := by
  obtain ⟨envelope, c, -, rfl⟩ := decode_eq_ok_iff.mp decoded
  have keeps : (Value.struct (Decoder.body limits registry envelope c).1).Keeps
      (Decoder.namesOf registry envelope).typing 0 Tag.struct.toByte :=
    .struct rfl (Decoder.typed_readFields (Decoder.typed_values limits _ _ limits.maxDepth) _)
  refine ⟨keeps, fun injective fields inside id => ?_⟩
  obtain ⟨level, tag, inner⟩ := keeps.of_mem_subvalues inside
  cases inner with
  | single own single => cases single
  | struct own inner =>
    cases inner with
    | mk typed => exact typed.getById?_eq injective id

/-- A call with a set, a map, a field without bytes, and a struct with an unknown tag in it. -/
def mixedCall : ByteArray :=
  ⟨#[0, 0, 0, 1, 102, 1, 0, 0, 0, 7, 14, 0, 1, 3, 0, 0, 0, 1, 5,
    13, 0, 2, 8, 2, 0, 0, 0, 1, 0, 0, 0, 9, 1, 1, 0, 3, 12, 0, 4, 7, 0, 1]⟩

/-- The call is decoded to a well-typed tree, and its map is found under the key of its number. -/
theorem decode_mixedCall :
    ∃ message, decode {} none mixedCall = .ok message ∧
      (Value.struct message.fields).Keeps FieldNames.empty.typing 0 Tag.struct.toByte ∧
      (message.fields.get? "field_2").map Field.tag = some Tag.map.toByte := by
  have run : (decode {} none mixedCall).toOption.map
      (fun message => (message.fields.getById? 2).map Field.tag) = some (some Tag.map.toByte) := by
    decide +kernel
  obtain ⟨message, decoded, seen⟩ := decode_of_seen run
  obtain ⟨keeps, alike⟩ := decode_typed {} none mixedCall decoded
  have names : Decoder.namesOf none message.envelope = .empty := rfl
  have key : FieldNames.empty.keyFor 2 = "field_2" := by decide +kernel
  rw [names] at keeps alike
  have same := alike FieldNames.keyFor_empty_injective _ (Value.self_mem_subvalues _) 2
  rw [key] at same
  exact ⟨message, decoded, keeps, same ▸ seen⟩

end TaggedRpc
