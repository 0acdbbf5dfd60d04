import TaggedRpc.Decode.Body

/-!
# Depth of decoding

The levels of nesting put together: a value at the last level stands for itself by a placeholder, a
value above it reads the values inside it with one level less. No level moves back, so every level
may be used by the one above it.
-/

namespace TaggedRpc

namespace Decoder

variable {buf : ByteArray}

/-- Standing in for a value that is nested too deeply does not move back. -/
theorem pos_le_tooDeep (limits : Limits) (tag : UInt8) (s : Decoder buf) :
    s.pos ≤ (tooDeep limits tag s).2.pos := by
  unfold tooDeep
  split
  · exact pos_le_skipOrLose s (Read.advances_skipValue _ _)
  · exact Nat.le_refl _

/-- Standing in for a collection does not move back. -/
theorem pos_le_tooLarge (limits : Limits) (kind : CollectionKind) (first second : UInt8)
    (count : Int32) (placeholder : Placeholder) (s : Decoder buf) :
    s.pos ≤ (tooLarge limits kind first second count placeholder s).2.pos := by
  unfold tooLarge
  split
  · exact pos_le_skipOrLose s (Read.advances_skipItems _ _ _ _)
  · exact Nat.le_refl _

/-- Reading fields does not move back. -/
theorem pos_le_readEntries (limits : Limits) (names : FieldNames) (values : ValueReader buf)
    (done : List (String × Field)) (s : Decoder buf) :
    s.pos ≤ (readEntries limits names values done s).2.pos := by
  fun_induction readEntries limits names values done s with
  | case1 => exact Nat.le_refl _
  | case2 done s _ fault c header => exact advances_readHeader.le_of_error header
  | case3 done s _ c header => exact Nat.le_of_succ_le (advances_readHeader.le_of_ok header)
  | case4 done s _ tag id c header read ih =>
    have moved := advances_readHeader.le_of_ok header
    have kept : c.pos ≤ read.2.pos := pos_le_readField limits values tag id { s with cursor := c }
    exact Nat.le_trans (Nat.le_of_succ_le moved) (Nat.le_trans kept ih)

/-- Reading a struct does not move back. -/
theorem pos_le_readStruct (limits : Limits) (names : FieldNames) (values : ValueReader buf)
    (s : Decoder buf) : s.pos ≤ (readStruct limits names values s).2.pos :=
  pos_le_readEntries limits names values [] s

/-- Asking for the state moves nothing. -/
theorem advances_get_bind {α : Type} {next : Decoder buf → Decode buf α}
    (advances : ∀ s, Advances pos 0 (next s)) : Advances pos 0 (get >>= next) := by
  intro s
  exact advances s s

/-- Reading items does not move back. -/
theorem advances_readItems (values : ValueReader buf) (tag : UInt8) (done : List Value)
    (left : Nat) : Advances pos 0 (readItems values tag done left) := by
  induction left generalizing done with
  | zero => exact Advances.pure _
  | succ left ih =>
    refine (values.forth tag).bind fun item => advances_get_bind fun s => ?_
    split
    · exact Advances.pure _
    · exact ih _

/-- Reading map entries does not move back. -/
theorem advances_readPairs (values : ValueReader buf) (keyTag valueTag : UInt8)
    (done : List (Value × Value)) (left : Nat) :
    Advances pos 0 (readPairs values keyTag valueTag done left) := by
  induction left generalizing done with
  | zero => exact Advances.pure _
  | succ left ih =>
    refine (values.forth keyTag).bind fun key => advances_get_bind fun s => ?_
    split
    · exact Advances.pure _
    · refine (values.forth valueTag).bind fun value => advances_get_bind fun s => ?_
      split
      · exact Advances.pure _
      · exact ih _

/-- Building a collection or standing in for it does not move back. -/
theorem advances_withinLimits (limits : Limits) (kind : CollectionKind) (first second : UInt8)
    (count : Int32) {build : Nat → Decode buf Value} (advances : ∀ n, Advances pos 0 (build n)) :
    Advances pos 0 (withinLimits limits kind first second count build) := by
  intro s
  unfold withinLimits
  cases limits.refusal? s.elements kind count with
  | some placeholder => exact pos_le_tooLarge limits kind first second count placeholder s
  | none => exact advances _ _

/-- Reading a map does not move back. -/
theorem advances_readMap (limits : Limits) (values : ValueReader buf) :
    Advances pos 0 (readMap limits values) := by
  have headerByte := (advances_reading (@Read.advances_uint8 buf)).weaken (Nat.zero_le 1)
  have headerCount := (advances_reading (@Read.advances_int32 buf)).weaken (Nat.zero_le 4)
  refine headerByte.bind (n := 0) fun _ => headerByte.bind (n := 0) fun _ => ?_
  refine headerCount.bind (n := 0) fun _ => advances_withinLimits _ _ _ _ _ fun n => ?_
  exact (advances_readPairs values _ _ _ n).map _

/-- Reading a set or a list does not move back. -/
theorem advances_readSequence (limits : Limits) (values : ValueReader buf) (kind : CollectionKind)
    (build : List Value → Value) : Advances pos 0 (readSequence limits values kind build) := by
  have headerByte := (advances_reading (@Read.advances_uint8 buf)).weaken (Nat.zero_le 1)
  have headerCount := (advances_reading (@Read.advances_int32 buf)).weaken (Nat.zero_le 4)
  refine headerByte.bind (n := 0) fun _ => headerCount.bind (n := 0) fun _ => ?_
  exact advances_withinLimits _ _ _ _ _ fun n => (advances_readItems values _ _ n).map _

/-- Reading a value does not move back. -/
theorem advances_readValue (limits : Limits) (names : FieldNames) (depth : Nat)
    (values : ValueReader buf) (tag : UInt8) :
    Advances pos 0 (readValue limits names depth values tag) := by
  have scalar {α : Type} {n : Nat} {read : Read buf α} (build : α → Value)
      (advances : Advances Cursor.pos n read) : Advances pos 0 (build <$> reading read) :=
    ((advances_reading advances).weaken (Nat.zero_le n)).map build
  unfold readValue
  split
  · exact advances_giving fun s => Nat.le_refl _
  · exact advances_giving fun s => Nat.le_refl _
  · exact Advances.pure _
  · exact scalar _ Read.advances_int8
  · exact scalar _ Read.advances_int8
  · exact scalar _ Read.advances_double
  · exact scalar _ Read.advances_int16
  · exact scalar _ Read.advances_int32
  · exact scalar _ Read.advances_int64
  · exact scalar _ Read.advances_string
  · split
    · exact advances_giving (pos_le_tooDeep limits tag)
    · exact advances_giving (pos_le_readStruct limits names values)
  · exact advances_readMap limits values
  · exact advances_readSequence limits values _ _
  · exact advances_readSequence limits values _ _

/-- The reader of values that may have `depth` more levels of nesting. -/
def values (limits : Limits) (names : FieldNames) : Nat → ValueReader buf
  | 0 => ⟨fun tag => giving (tooDeep limits tag), fun tag =>
      advances_giving (pos_le_tooDeep limits tag)⟩
  | depth + 1 =>
    ⟨fun tag => readValue limits names depth (values limits names depth) tag, fun tag =>
      advances_readValue limits names depth (values limits names depth) tag⟩

end Decoder

end TaggedRpc
