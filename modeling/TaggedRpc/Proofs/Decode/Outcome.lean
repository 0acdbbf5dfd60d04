import TaggedRpc.Decode.Depth
import TaggedRpc.Proofs.Wire.Outcome

/-!
# Outcomes of decoding actions

What each part of decoding gives: reads that are lifted to decoders, skips that may lose
synchronisation, collections within the limits, fields one by one, and values by their tags.
-/

namespace TaggedRpc

namespace Decoder

variable {buf : ByteArray} {α : Type}

/-- A lifted read succeeds exactly when the read does, and changes the place only. -/
theorem reading_eq_ok_iff {read : Read buf α} {s t : Decoder buf} {a : α} :
    reading read s = .ok a t ↔ ∃ c, read s.cursor = .ok a c ∧ t = { s with cursor := c } := by
  unfold reading
  cases read s.cursor with
  | error fault c => simp
  | ok b c =>
    constructor
    · intro outcome
      cases outcome
      exact ⟨c, rfl, rfl⟩
    · rintro ⟨d, same, rfl⟩
      cases same
      rfl

/-- A lifted read fails exactly when the read does, and changes the place only. -/
theorem reading_eq_error_iff {read : Read buf α} {s t : Decoder buf} {fault : Fault} :
    reading read s = .error fault t ↔
      ∃ c, read s.cursor = .error fault c ∧ t = { s with cursor := c } := by
  unfold reading
  cases read s.cursor with
  | ok b c => simp
  | error other c =>
    constructor
    · intro outcome
      cases outcome
      exact ⟨c, rfl, rfl⟩
    · rintro ⟨d, same, rfl⟩
      cases same
      rfl

/-- A lifted read succeeds where the read does. -/
theorem reading_of_ok {read : Read buf α} {s : Decoder buf} {a : α} {c : Cursor buf}
    (outcome : read s.cursor = .ok a c) : reading read s = .ok a { s with cursor := c } :=
  reading_eq_ok_iff.mpr ⟨c, outcome, rfl⟩

/-- An action that always gives a result succeeds with it. -/
theorem giving_eq_ok_iff {act : Decoder buf → α × Decoder buf} {s t : Decoder buf} {a : α} :
    giving act s = .ok a t ↔ act s = (a, t) := by
  unfold giving
  constructor
  · intro outcome
    cases outcome
    rfl
  · intro same
    rw [same]

/-- An action that always gives a result does not fail. -/
theorem giving_ne_error {act : Decoder buf → α × Decoder buf} {s t : Decoder buf} {fault : Fault} :
    giving act s ≠ .error fault t := by
  unfold giving
  exact nofun

/-- Where synchronisation is lost, an action that looks for this stops. -/
theorem stop_of_lost {stop go : Decode buf α} {t : Decoder buf} (lost : t.desync.isSome) :
    (do if (← get).desync.isSome then stop else go : Decode buf α) t = stop t := by
  change (if t.desync.isSome then stop else go) t = _
  rw [if_pos lost]

/-- Where synchronisation is kept, an action that looks for a loss goes on. -/
theorem go_of_kept {stop go : Decode buf α} {t : Decoder buf} (kept : t.desync = none) :
    (do if (← get).desync.isSome then stop else go : Decode buf α) t = go t := by
  change (if t.desync.isSome then stop else go) t = _
  rw [if_neg (by rw [kept]; exact Bool.false_ne_true)]

/-- A skip that succeeds only moves the place. -/
theorem skipOrLose_of_ok {skip : Read buf Unit} {reason : Fault → Desync} {s : Decoder buf}
    {c : Cursor buf} (outcome : skip s.cursor = .ok () c) :
    skipOrLose skip reason s = { s with cursor := c } := by
  unfold skipOrLose
  rw [outcome]

/-- A skip that keeps synchronisation has succeeded. -/
theorem ok_of_skipOrLose {skip : Read buf Unit} {reason : Fault → Desync} {s : Decoder buf}
    (kept : (skipOrLose skip reason s).desync = none) :
    skip s.cursor = .ok () (skipOrLose skip reason s).cursor := by
  unfold skipOrLose at kept ⊢
  cases outcome : skip s.cursor with
  | ok a c => rfl
  | error fault c =>
    rw [outcome] at kept
    cases kept

/-- Where values that are not built are skipped, a value that is nested too deeply is skipped. -/
theorem tooDeep_of_skips {limits : Limits} (skips : limits.skipUnbuilt) (tag : UInt8) :
    (tooDeep limits tag : Decoder buf → Value × Decoder buf) = fun s =>
      (.placeholder .depthExceeded,
        s.skipOrLose (Read.skipValue limits.maxSkipDepth tag) .deepValue) := by
  funext s
  rw [tooDeep, if_pos skips]

/-- Where values that are not built are skipped, a collection that is too large is skipped. -/
theorem tooLarge_of_skips {limits : Limits} (skips : limits.skipUnbuilt) (kind : CollectionKind)
    (first second : UInt8) (count : Int32) (placeholder : Placeholder) :
    (tooLarge limits kind first second count placeholder : Decoder buf → Value × Decoder buf) =
      fun s => (.placeholder placeholder,
        s.skipOrLose (Read.skipItems limits.maxSkipDepth first second
          (kind.valuesPerEntry * count.toNatClampNeg)) (.entries kind count)) := by
  funext s
  rw [tooLarge, if_pos skips]

/-! ## Collections -/

section Limits

variable {limits : Limits} {kind : CollectionKind} {first second : UInt8} {count : Int32}
  {build : Nat → Decode buf Value} {s : Decoder buf}

/-- A collection is not built if it is oversized by itself, or if no more entries may be built. What
stands for it says which. -/
theorem eq_of_refusal? {elements : Nat} {placeholder : Placeholder}
    (refused : limits.refusal? elements kind count = some placeholder) :
    placeholder = .oversizedCollection kind count ∧
        limits.maxCollectionSize < count.toNatClampNeg ∨
      placeholder = .elementBudgetExhausted kind count ∧
        count.toNatClampNeg ≤ limits.maxCollectionSize ∧
        limits.maxElements - elements < count.toNatClampNeg := by
  unfold Limits.refusal? at refused
  split at refused
  · next above =>
    cases refused
    exact .inl ⟨rfl, above⟩
  · next within =>
    split at refused
    · next spent =>
      cases refused
      exact .inr ⟨rfl, Nat.le_of_not_lt within, spent⟩
    · cases refused

/-- A collection that is built has no more entries than one may have, and no more than are left. -/
theorem le_of_built {elements : Nat} (built : limits.refusal? elements kind count = none) :
    count.toNatClampNeg ≤ limits.maxCollectionSize ∧
      count.toNatClampNeg ≤ limits.maxElements - elements := by
  unfold Limits.refusal? at built
  split at built
  · cases built
  · next within =>
    split at built
    · cases built
    · next left => exact ⟨Nat.le_of_not_lt within, Nat.le_of_not_lt left⟩

/-- A collection that has more entries than are built is stood in for. -/
theorem withinLimits_of_refused {placeholder : Placeholder}
    (refused : limits.refusal? s.elements kind count = some placeholder) :
    withinLimits limits kind first second count build s =
      giving (tooLarge limits kind first second count placeholder) s := by
  rw [withinLimits, refused]

/-- Any other collection is built, and its entries are counted. -/
theorem withinLimits_of_built (built : limits.refusal? s.elements kind count = none) :
    withinLimits limits kind first second count build s =
      build count.toNatClampNeg { s with elements := s.elements + count.toNatClampNeg } := by
  rw [withinLimits, built]

end Limits

/-! ## Structs -/

section Structs

variable {limits : Limits} {names : FieldNames} {values : ValueReader buf}
  {done : List (String × Field)} {s : Decoder buf} {c : Cursor buf}

/-- The header of a field does not have the tag of the end of a struct. -/
theorem tag_ne_stop_of_readHeader {d : Cursor buf} {tag : UInt8} {id : Int16}
    (header : readHeader d = .ok (some (tag, id)) c) : tag ≠ Tag.stop.toByte := by
  obtain ⟨first, e, -, rest⟩ := bind_eq_ok_iff.mp header
  intro stop
  split at rest
  · cases (pure_eq_ok_iff.mp rest).1
  · next going =>
    obtain ⟨number, f, -, same⟩ := bind_eq_ok_iff.mp rest
    cases (pure_eq_ok_iff.mp same).1
    exact going stop

/-- Fields that keep synchronisation have not lost it before. -/
theorem kept_of_readEntries
    (final : (readEntries limits names values done s).2.desync = none) : s.desync = none := by
  by_cases kept : s.desync = none
  · exact kept
  · rw [readEntries, if_pos (Option.isSome_iff_ne_none.mpr kept)] at final
    exact final

/-- At the stop tag the fields end. -/
theorem readEntries_of_stop (kept : s.desync = none) (header : readHeader s.cursor = .ok none c) :
    readEntries limits names values done s = (done, { s with cursor := c }) := by
  rw [readEntries, if_neg (by rw [kept]; exact Bool.false_ne_true)]
  split <;> rename_i other <;> rw [header] at other <;> cases other
  rfl

/-- A header that cannot be read ends the fields and loses synchronisation. -/
theorem readEntries_of_error {fault : Fault} (kept : s.desync = none)
    (header : readHeader s.cursor = .error fault c) :
    readEntries limits names values done s =
      (done, { s with cursor := c, desync := some (.header fault) }) := by
  rw [readEntries, if_neg (by rw [kept]; exact Bool.false_ne_true)]
  split <;> rename_i other <;> rw [header] at other <;> cases other
  rfl

/-- After the header of a field the field is read, and the fields go on. -/
theorem readEntries_of_field {tag : UInt8} {id : Int16} (kept : s.desync = none)
    (header : readHeader s.cursor = .ok (some (tag, id)) c) :
    readEntries limits names values done s =
      readEntries limits names values
        ((names.keyFor id, (readField limits values tag id { s with cursor := c }).1) :: done)
        (readField limits values tag id { s with cursor := c }).2 := by
  rw [readEntries, if_neg (by rw [kept]; exact Bool.false_ne_true)]
  split <;> rename_i other <;> rw [header] at other <;> cases other
  rfl

/-- A field whose value is read keeps the value. -/
theorem readField_of_ok {tag : UInt8} {id : Int16} {value : Value} {t : Decoder buf}
    (read : values.read tag s = .ok value t) :
    readField limits values tag id s = (.decoded tag id value, t) := by
  rw [readField, read]

/-- Behind a field less of the buffer remains than before its header. -/
theorem remaining_lt_of_field {tag : UInt8} {id : Int16} {field : Field} {t : Decoder buf}
    (header : readHeader s.cursor = .ok (some (tag, id)) c)
    (read : giving (readField limits values tag id) { s with cursor := c } = .ok field t) :
    t.cursor.remaining < s.cursor.remaining := by
  have moved := advances_readHeader.le_of_ok header
  have forth : c.pos + 0 ≤ t.cursor.pos :=
    (advances_giving (pos_le_readField limits values tag id)).le_of_ok read
  have before := s.cursor.pos_add_remaining
  have after := t.cursor.pos_add_remaining
  omega

/-- Where synchronisation is lost the fields end. -/
theorem giving_readEntries_of_lost (lost : s.desync.isSome) :
    giving (readEntries limits names values done) s = .ok done s := by
  rw [giving, readEntries, if_pos lost]

/-- The fields of a struct are what its entries make, and incomplete if synchronisation is lost. -/
theorem giving_readFields_of_entries {entries : List (String × Field)} {t : Decoder buf}
    (read : giving (readEntries limits names values []) s = .ok entries t) :
    giving (readFields limits names values) s =
      .ok { Fields.ofList entries.reverse with incomplete := t.desyncReason } t := by
  rw [giving_eq_ok_iff] at read ⊢
  rw [readFields, read]

/-- A field whose value is not read keeps the fault, and the value is skipped. -/
theorem readField_of_error {tag : UInt8} {id : Int16} {fault : Fault} {t : Decoder buf}
    (read : values.read tag s = .error fault t) :
    readField limits values tag id s =
      (.failed tag id fault.message,
        skipOrLose (Read.skipValue limits.maxSkipDepth tag) (.field id)
          { t with cursor := s.cursor }) := by
  rw [readField, read]

end Structs

/-! ## Values -/

section Values

variable (limits : Limits) (names : FieldNames) (depth : Nat) (values : ValueReader buf)
  {tag : UInt8}

/-- A string is text. -/
theorem readValue_of_string (known : Tag.ofByte? tag = some .string) :
    readValue limits names depth values tag = .text <$> reading Read.string := by
  rw [readValue, known]

/-- A struct needs a level of nesting for its fields. -/
theorem readValue_of_struct (known : Tag.ofByte? tag = some .struct) :
    readValue limits names depth values tag =
      if depth = 0 then giving (tooDeep limits tag)
      else giving (readStruct limits names values) := by
  rw [readValue, known]

/-- A map is read entry by entry. -/
theorem readValue_of_map (known : Tag.ofByte? tag = some .map) :
    readValue limits names depth values tag = readMap limits values := by
  rw [readValue, known]

/-- A set is read item by item. -/
theorem readValue_of_set (known : Tag.ofByte? tag = some .set) :
    readValue limits names depth values tag = readSequence limits values .set .set := by
  rw [readValue, known]

/-- A list is read item by item. -/
theorem readValue_of_list (known : Tag.ofByte? tag = some .list) :
    readValue limits names depth values tag = readSequence limits values .list .list := by
  rw [readValue, known]

/-- A value whose tag byte is not one of a value is stood in for. -/
theorem readValue_of_unknown (unknown : Tag.ofByte? tag = none ∨ Tag.ofByte? tag = some .stop) :
    readValue limits names depth values tag = giving (unknownType tag) := by
  rcases unknown with unknown | unknown <;> rw [readValue, unknown]

end Values

end Decoder

end TaggedRpc
