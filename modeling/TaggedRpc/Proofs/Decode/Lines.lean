import TaggedRpc.Proofs.Decode.Message
import TaggedRpc.Proofs.Decode.Yields
import TaggedRpc.Proofs.Schema.Keys
import TaggedRpc.Proofs.Tree.Lines

/-!
# Decoded values on one line

What is decoded is displayed on one line inside another value, whatever the bytes are, if the names
that a registry gives are on one line (`Decoder.singleLine_values`). So only the text of a field of
the body itself, which stands inside no other value, may bring newlines into a display.
-/

namespace TaggedRpc

open Text

namespace FieldNames

/-- Whether all keys under some names are on one line. -/
def OneLine (names : FieldNames) : Prop := ∀ id, SingleLine (names.keyFor id)

/-- Keys are on one line if there are no names. -/
theorem oneLine_empty : empty.OneLine := fun id => by
  rw [keyFor, get?_empty, Option.getD_none]
  exact singleLine_genericKey id

end FieldNames

namespace Decoder

variable {buf : ByteArray} {limits : Limits} {names : FieldNames}

/-- The reason why synchronisation was lost is on one line. -/
theorem singleLine_of_mem_desyncReason {s : Decoder buf} :
    ∀ reason ∈ s.desyncReason, SingleLine reason := by
  intro reason held
  obtain ⟨desync, -, rfl⟩ := Option.map_eq_some_iff.mp held
  exact desync.singleLine_message

section Parts

variable {values : ValueReader buf}
  (inner : ∀ tag, Yields (fun value => SingleLine value.nested) (values.read tag))

include inner

/-- The fields of a struct are displayed on one line if their values and keys are. -/
theorem oneLine_of_mem_readFields (keys : names.OneLine) (s : Decoder buf) :
    ∀ entry ∈ (readFields limits names values s).1.entries, Field.OneLine entry := by
  intro entry among
  cases entryRead_readFields inner s entry among with
  | mk going read =>
    refine ⟨keys _, ?_⟩
    cases read with
    | decoded held => exact held
    | failed => exact Field.singleLine_displayError (Fault.singleLine_message _)

private theorem singleLine_readMap :
    Yields (fun value => SingleLine value.nested)
      (readCollection limits .map mapHeader (readPair values) .map) := by
  apply yields_readMap inner
  · exact fun _ _ => Placeholder.singleLine_display _
  · exact fun _ _ _ => Placeholder.singleLine_display _
  · exact fun _ _ _ _ each => Value.singleLine_nested_map each

private theorem singleLine_readSequence {tag : UInt8} {kind : CollectionKind}
    {build : List Value → Value} (sequence : Sequence tag kind build) :
    Yields (fun value => SingleLine value.nested)
      (readCollection limits kind sequenceHeader (fun tag _ => readItem values tag) build) := by
  apply yields_readSequence inner
  · exact fun _ _ => Placeholder.singleLine_display _
  · exact fun _ _ _ => Placeholder.singleLine_display _
  · intro itemTag items _ each
    cases sequence with
    | set => exact Value.singleLine_nested_set each
    | list => exact Value.singleLine_nested_list each

end Parts

/-- Values are displayed on one line inside others, whatever levels of nesting are left. -/
theorem singleLine_values (limits : Limits) (keys : names.OneLine) (depth : Nat) (tag : UInt8) :
    Yields (fun value => SingleLine value.nested)
      ((values limits names depth : ValueReader buf).read tag) := by
  have single {value : Value} (single : value.isCompound = false) : SingleLine value.nested :=
    Value.singleLine_nested_of_single single
  apply values_induction (motive := fun _ _ => Yields fun value => SingleLine value.nested)
  case tooDeep => exact fun _ => yields_giving fun _ => single rfl
  case unknown => exact fun _ => yields_giving fun _ => single rfl
  case fixed =>
    exact fun _ => yields_reading _ fun n =>
      single (Value.isCompound_of_isLeaf (isLeaf_fixedValue _ n))
  case string => exact fun _ => yields_reading _ fun _ => single rfl
  case struct =>
    intro depth tag _ _ inner
    have fields : Yields (fun fields => SingleLine (Value.struct fields).nested)
        (giving (readFields limits names (values limits names depth)) : Decode buf Fields) :=
      yields_giving fun s => Value.singleLine_nested_struct
        (oneLine_of_mem_readFields inner keys s) singleLine_of_mem_desyncReason
    exact fields.map fun _ held => held
  case map => exact fun _ inner => singleLine_readMap inner
  case sequence => exact fun sequence inner => singleLine_readSequence inner sequence

end Decoder

end TaggedRpc
