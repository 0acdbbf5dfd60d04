import TaggedRpc.Proofs.Decode.Counted
import TaggedRpc.Proofs.Decode.Message
import TaggedRpc.Proofs.Decode.Yields
import TaggedRpc.Proofs.Tree.Rules

/-!
# Limits are enforced

Every tree that is decoded respects the limits exactly (`decode_enforces`), whatever the bytes are
and whether values that are not built are skipped or not. A value is hidden by the limit of nesting
where no level is left for it and nowhere else; a struct needs one more level than other values, for
its fields. A collection has no more entries than one may have, and all collections together no more
than a message may have. What stands for a collection says which of the two limits it would break.
-/

namespace TaggedRpc

/-! ## Texts -/

namespace Text

private theorem utf8ByteSize_ofList_le (characters : List Char) :
    (String.ofList characters).utf8ByteSize ≤ 4 * characters.length := by
  induction characters with
  | nil => exact Nat.le_refl _
  | cons c rest ih =>
    have size := c.utf8Size_le_four
    rw [String.ofList_cons, String.utf8ByteSize_append, String.utf8ByteSize_singleton,
      List.length_cons]
    omega

/-- The greatest number of bytes that a preview takes. -/
def previewCeiling : Nat := 8 + 8 * previewSize + 3 + 1

private theorem utf8ByteSize_preview_le (bytes : ByteArray) :
    (preview bytes).utf8ByteSize ≤ previewCeiling := by
  have spelled := utf8ByteSize_ofList_le
    ((bytes.extract 0 previewSize).data.toList.flatMap hexByte)
  have digits := length_hexBytes (bytes.extract 0 previewSize).data.toList
  have few : (bytes.extract 0 previewSize).data.toList.length ≤ previewSize := by
    rw [Array.length_toList, ByteArray.size_data, ByteArray.size_extract]
    omega
  have dots : (if previewSize < bytes.size then "..." else "").utf8ByteSize ≤ 3 := by
    split <;> decide
  rw [hexBytes, String.length_ofList] at digits
  rw [preview, String.utf8ByteSize_append, String.utf8ByteSize_append, String.utf8ByteSize_append,
    show "<binary:".utf8ByteSize = 8 by decide, show ">".utf8ByteSize = 1 by decide, hexBytes,
    previewCeiling]
  omega

private theorem utf8ByteSize_ofBytes_le (bytes : ByteArray) :
    (ofBytes bytes).utf8ByteSize ≤ max bytes.size previewCeiling := by
  by_cases valid : bytes.IsValidUTF8
  · rw [ofBytes, String.fromUTF8?, dif_pos valid, Option.getD_some]
    exact Nat.le_max_left _ _
  · rw [ofBytes_of_not_isValidUTF8 bytes valid]
    exact Nat.le_trans (utf8ByteSize_preview_le bytes) (Nat.le_max_right _ _)

end Text

/-- A string that is read takes no more bytes than strings may have. -/
theorem Read.utf8ByteSize_le_of_string {buf : ByteArray} {c d : Cursor buf} {text : String}
    (read : string c = .ok text d) : text.utf8ByteSize ≤ stringCeiling := by
  unfold string at read
  rw [atomically_eq_ok_iff] at read
  obtain ⟨n, e, length, rest⟩ := bind_eq_ok_iff.mp read
  obtain ⟨content, f, body, rest⟩ := bind_eq_ok_iff.mp rest
  obtain ⟨rfl, -⟩ := pure_eq_ok_iff.mp rest
  have fits := (lengthUpTo_eq_ok_iff.mp length).2
  have size : content.size ≤ n := by
    unfold bytes at body
    split at body
    · cases body
      rw [ByteArray.size_extract]
      omega
    · cases body
  -- Bytes that are not UTF-8 become a preview, which may be longer than they are.
  have small : Text.previewCeiling ≤ stringCeiling := by decide
  exact Nat.le_trans (Text.utf8ByteSize_ofBytes_le content)
    (Nat.max_le.mpr ⟨Nat.le_trans size fits, small⟩)

/-! ## The rules of the limits -/

/-- Whether the limit of nesting hides the values at a level under a tag byte: no level is left for
them, or they are structs and none is left for their fields. -/
def Limits.Hides (limits : Limits) (level : Nat) (tag : UInt8) : Prop :=
  level = limits.maxDepth ∨ tag = Tag.struct.toByte ∧ level + 1 = limits.maxDepth

/-- What the limit of nesting says of a value at a level under a tag byte. -/
structure Value.WithinDepth (limits : Limits) (level : Nat) (tag : UInt8) (value : Value) :
    Prop where
  /-- No value is behind the last level. -/
  level_le : level ≤ limits.maxDepth
  /-- A value is hidden exactly where the limit hides it. -/
  hidden_iff : value = .placeholder .depthExceeded ↔ limits.Hides level tag
  /-- Structs have their own tag and stand two levels above the last one at least. -/
  of_struct : ∀ fields, value = .struct fields →
    tag = Tag.struct.toByte ∧ level + 2 ≤ limits.maxDepth

/-- What the limits of size say of a value apart from the values inside it. What stands for a
collection tells why it was not built. -/
def Value.WithinSizes (limits : Limits) : Value → Prop
  | .text content => content.utf8ByteSize ≤ Read.stringCeiling
  | .map entries => entries.length ≤ limits.maxCollectionSize
  | .set items | .list items => items.length ≤ limits.maxCollectionSize
  | .placeholder (.oversizedCollection _ count) => (limits.maxCollectionSize : Int) < count.toInt
  | .placeholder (.elementBudgetExhausted _ count) =>
    0 < count.toInt ∧ count.toInt ≤ limits.maxCollectionSize
  | _ => True

/-- The rules that limits give for a tree. A field with the tag of structs has a value one level
above the last one, though no struct is there. -/
def Limits.rules (limits : Limits) : Rules where
  value level tag value := value.WithinDepth limits level tag ∧ value.WithinSizes limits
  fields level fields := ∀ entry ∈ fields.entries, entry.2.tag = Tag.struct.toByte →
    level + 1 = limits.maxDepth → entry.2.value = some (.placeholder .depthExceeded)

section Rules

variable {limits : Limits} {level : Nat} {tag : UInt8} {value : Value}

private theorem Value.WithinDepth.of_other (left : level < limits.maxDepth)
    (other : tag ≠ Tag.struct.toByte) (shown : value ≠ .placeholder .depthExceeded)
    (plain : ∀ fields, value ≠ .struct fields) : value.WithinDepth limits level tag where
  level_le := Nat.le_of_lt left
  hidden_iff := by
    constructor
    · exact fun hidden => absurd hidden shown
    · rintro (last | ⟨same, -⟩)
      · exact absurd last (Nat.ne_of_lt left)
      · exact absurd same other
  of_struct fields same := absurd same (plain fields)

private theorem Value.keeps_single (left : level < limits.maxDepth)
    (other : tag ≠ Tag.struct.toByte) (shown : value ≠ .placeholder .depthExceeded)
    (single : value.isCompound = false) (sizes : value.WithinSizes limits) :
    value.Keeps limits.rules level tag := by
  refine .single ⟨.of_other left other shown ?_, sizes⟩ single
  rintro fields rfl
  cases single

private theorem Value.keeps_hidden (hides : limits.Hides level tag) :
    (Value.placeholder .depthExceeded).Keeps limits.rules level tag := by
  have level_le : level ≤ limits.maxDepth := by
    rcases hides with last | ⟨-, last⟩
    · exact Nat.le_of_eq last
    · exact Nat.le_of_succ_le (Nat.le_of_eq last)
  have depth : (Value.placeholder .depthExceeded).WithinDepth limits level tag :=
    ⟨level_le, iff_of_true rfl hides, nofun⟩
  exact .single ⟨depth, True.intro⟩ rfl

end Rules

namespace Decoder

variable {buf : ByteArray} {limits : Limits} {level depth : Nat} {tag : UInt8}

/-! ## Values other than structs -/

section Others

variable {values : ValueReader buf} (left : level < limits.maxDepth)
  (other : tag ≠ Tag.struct.toByte)
  (inner : ∀ tag, Yields (Value.Keeps limits.rules (level + 1) tag) (values.read tag))

include left other

private theorem keeps_fixedValue (n : Nat) :
    (fixedValue tag n).Keeps limits.rules level tag := by
  unfold fixedValue
  split <;> exact Value.keeps_single left other nofun rfl True.intro

private theorem keeps_string :
    Yields (Value.Keeps limits.rules level tag)
      (.text <$> reading Read.string : Decode buf Value) where
  of_ok outcome := by
    obtain ⟨text, read, rfl⟩ := map_eq_ok_iff.mp outcome
    obtain ⟨c, read, -⟩ := reading_eq_ok_iff.mp read
    exact Value.keeps_single left other nofun rfl (Read.utf8ByteSize_le_of_string read)

private theorem keeps_oversized (kind : CollectionKind) {count : Int32}
    (above : limits.maxCollectionSize < count.toNatClampNeg) :
    (Value.placeholder (.oversizedCollection kind count)).Keeps limits.rules level tag := by
  refine Value.keeps_single left other nofun rfl ?_
  rw [← Int32.toNat_toInt] at above
  rw [Value.WithinSizes]
  omega

private theorem keeps_exhausted (kind : CollectionKind) {count : Int32}
    (nonempty : 0 < count.toNatClampNeg)
    (within : count.toNatClampNeg ≤ limits.maxCollectionSize) :
    (Value.placeholder (.elementBudgetExhausted kind count)).Keeps limits.rules level tag := by
  refine Value.keeps_single left other nofun rfl ?_
  rw [← Int32.toNat_toInt] at nonempty within
  rw [Value.WithinSizes]
  omega

include inner

private theorem keeps_readMap :
    Yields (Value.Keeps limits.rules level tag)
      (readCollection limits .map mapHeader (readPair values) .map) := by
  apply yields_readMap inner
  · exact fun count => keeps_oversized left other .map
  · exact fun count => keeps_exhausted left other .map
  · intro keyTag valueTag entries within each
    exact .map ⟨.of_other left other nofun nofun, within⟩ keyTag valueTag
      (fun entry among => (each entry among).1) fun entry among => (each entry among).2

private theorem keeps_readSequence {kind : CollectionKind} {build : List Value → Value}
    (sequence : Sequence tag kind build) :
    Yields (Value.Keeps limits.rules level tag)
      (readCollection limits kind sequenceHeader (fun tag _ => readItem values tag) build) := by
  apply yields_readSequence inner
  · exact fun count => keeps_oversized left other kind
  · exact fun count => keeps_exhausted left other kind
  · intro itemTag items within each
    cases sequence with
    | set => exact .set ⟨.of_other left other nofun nofun, within⟩ itemTag each
    | list => exact .list ⟨.of_other left other nofun nofun, within⟩ itemTag each

end Others

/-! ## Structs and all values -/

section Values

variable {names : FieldNames}

private theorem ne_struct_of_ofByte? {assigned : Option Tag} (known : Tag.ofByte? tag = assigned)
    (other : assigned ≠ some .struct) : tag ≠ Tag.struct.toByte := by
  rintro rfl
  exact other (known.symm.trans (Tag.ofByte?_toByte _))

private theorem hides_iff_noLevel (levels : level + depth = limits.maxDepth) :
    limits.Hides level tag ↔ NoLevel depth tag := by
  rw [NoLevel, Tag.ofByte?_eq_some_iff]
  constructor
  · rintro (last | ⟨same, last⟩)
    · exact .inl (by omega)
    · exact .inr ⟨by omega, same⟩
  · rintro (rfl | ⟨rfl, same⟩)
    · exact .inl levels
    · exact .inr ⟨same, levels⟩

private theorem FieldRead.value_of_hides {id : Int16} {field : Field}
    (levels : level + depth = limits.maxDepth) (hides : limits.Hides level tag)
    (read : FieldRead (values limits names depth : ValueReader buf)
      (Value.Keeps limits.rules level tag) tag id field) :
    field.value = some (.placeholder .depthExceeded) := by
  cases read with
  | decoded held => rw [Field.decoded, held.own.1.hidden_iff.mpr hides]
  | failed failed =>
    -- Standing in for a value cannot fail, not even where its bytes cannot be skipped.
    rw [read_of_noLevel ((hides_iff_noLevel levels).mp hides)] at failed
    cases failed

/-- The fields of a struct keep the rules if their values do. -/
theorem keeps_readFields (levels : level + depth = limits.maxDepth)
    (inner : ∀ tag, Yields (Value.Keeps limits.rules level tag)
      ((values limits names depth : ValueReader buf).read tag)) (s : Decoder buf) :
    (readFields limits names (values limits names depth) s).1.Keeps limits.rules level := by
  constructor
  · intro entry among same last
    cases entryRead_readFields inner s entry among with
    | mk going read =>
      rw [read.tag_eq] at same
      exact read.value_of_hides levels (.inr ⟨same, last⟩)
  · intro entry among value holds
    cases entryRead_readFields inner s entry among with
    | mk going read =>
      rw [read.tag_eq]
      exact read.held_of_value holds

private theorem keeps_struct (levels : level + (depth + 1) = limits.maxDepth) (left : depth ≠ 0)
    (known : tag = Tag.struct.toByte) {fields : Fields}
    (inner : fields.Keeps limits.rules (level + 1)) :
    (Value.struct fields).Keeps limits.rules level tag := by
  have shown : ¬ limits.Hides level tag := by
    rintro (last | ⟨-, last⟩) <;> omega
  have within : (Value.struct fields).WithinDepth limits level tag :=
    ⟨by omega, iff_of_false nofun shown, fun _ _ => ⟨known, by omega⟩⟩
  exact .struct ⟨within, True.intro⟩ inner

/-- Values keep the rules at every level, with as many levels left as there are up to the last
one. -/
theorem keeps_values (levels : level + depth = limits.maxDepth) (tag : UInt8) :
    Yields (Value.Keeps limits.rules level tag)
      ((values limits names depth : ValueReader buf).read tag) := by
  -- The level and the levels left add up to the limit, so one goes up where the other goes down.
  revert level
  apply values_induction (motive := fun depth tag act => ∀ {level},
    level + depth = limits.maxDepth → Yields (Value.Keeps limits.rules level tag) act)
  case tooDeep =>
    intro depth tag deep level levels
    exact yields_giving fun _ => Value.keeps_hidden ((hides_iff_noLevel levels).mpr deep)
  case unknown =>
    intro depth tag unknown level levels
    have other : tag ≠ Tag.struct.toByte := by
      rcases unknown with known | known <;> exact ne_struct_of_ofByte? known nofun
    exact yields_giving fun _ => Value.keeps_single (by omega) other nofun rfl True.intro
  case fixed =>
    intro depth tag width fixed level levels
    have other : tag ≠ Tag.struct.toByte := by
      rintro rfl
      cases fixed
    exact yields_reading _ fun n => keeps_fixedValue (by omega) other n
  case string =>
    intro depth tag known level levels
    exact keeps_string (by omega) (ne_struct_of_ofByte? known nofun)
  case struct =>
    intro depth tag known left inner level levels
    have levels' : level + 1 + depth = limits.maxDepth := by omega
    apply (yields_giving (keeps_readFields levels' fun tag => inner tag levels')).map
    exact fun fields kept => keeps_struct levels left (Tag.ofByte?_eq_some_iff.mp known) kept
  case map =>
    intro depth tag known inner level levels
    exact keeps_readMap (by omega) (ne_struct_of_ofByte? known nofun) fun tag =>
      inner tag (by omega)
  case sequence =>
    intro depth tag kind build sequence inner level levels
    have other : tag ≠ Tag.struct.toByte := by
      cases sequence with
      | set known => exact ne_struct_of_ofByte? known nofun
      | list known => exact ne_struct_of_ofByte? known nofun
    exact keeps_readSequence (by omega) other (fun tag => inner tag (by omega)) sequence

end Values

end Decoder

/-- Limits are enforced exactly. Whatever bytes are decoded, the tree keeps the rules of the limits:
no value is behind the last level, all values at it are hidden, structs are two levels above it at
least, the values one level above it that were read under the tag of structs are hidden, and no
others are; no collection and no text is too large, and what stands for a collection is true. All
collections together have no more entries than a message may have. -/
theorem decode_enforces (limits : Limits) (registry : Option Registry) (buf : ByteArray)
    {message : Message} (decoded : decode limits registry buf = .ok message) :
    message.fields.Keeps limits.rules 0 ∧ message.fields.entryTotal ≤ limits.maxElements := by
  obtain ⟨envelope, c, -, rfl⟩ := decode_eq_ok_iff.mp decoded
  have levels : 0 + limits.maxDepth = limits.maxDepth := Nat.zero_add _
  constructor
  · exact Decoder.keeps_readFields levels (Decoder.keeps_values levels) _
  · exact Decoder.entryTotal_readFields_le _ _ (Nat.zero_le _)

/-- Limits of two levels and one entry. -/
def tightLimits : Limits := { maxDepth := 2, maxCollectionSize := 1, maxElements := 1 }

/-- A call with a list of one struct, a struct in a struct, a list, and a set of two items. -/
def nestedCall : ByteArray :=
  ⟨#[0, 0, 0, 1, 102, 1, 0, 0, 0, 7, 15, 0, 1, 12, 0, 0, 0, 1, 0, 12, 0, 2, 12, 0, 1, 0, 0,
    15, 0, 3, 8, 0, 0, 0, 1, 0, 0, 0, 5, 14, 0, 4, 3, 0, 0, 0, 2, 1, 2, 0]⟩

/-- The call is decoded to a tree that keeps the rules of these limits: the structs inside the list
and the struct are hidden, the second list finds no entry left, and the set is oversized. -/
theorem decode_nestedCall :
    ∃ message, decode tightLimits none nestedCall = .ok message ∧
      message.fields.Keeps tightLimits.rules 0 ∧ message.fields.entryTotal ≤ 1 ∧
      message.fields.subvalues.map Value.isPlaceholder =
        [false, true, false, true, true, true] := by
  have run : (decode tightLimits none nestedCall).toOption.map
      (fun message => message.fields.subvalues.map Value.isPlaceholder) =
        some [false, true, false, true, true, true] := by
    decide +kernel
  obtain ⟨message, decoded, seen⟩ := decode_of_seen run
  obtain ⟨keeps, total⟩ := decode_enforces tightLimits none nestedCall decoded
  exact ⟨message, decoded, keeps, total, seen⟩

end TaggedRpc
