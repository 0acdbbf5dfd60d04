import TaggedRpc.Decode.Desync
import TaggedRpc.Proofs.Text.SingleLine
import TaggedRpc.Proofs.Tree.Rules
import TaggedRpc.Schema.Names
import TaggedRpc.Tree.Display

/-!
# Displays on one line

Every sentence about a fault and every name of a type is on one line, whatever bytes it is about.
The display of a value inside another one is on one line if the displays right inside it are and, in
a struct, if the keys and the reasons are, because texts are quoted there. On its own a text is
shown as it is (`Field.display_eq`), and this is the only display of a field that may have newlines.
-/

namespace TaggedRpc

open Text

/-! ## Sentences and names -/

/-- The sentence for a fault is on one line. -/
@[simp] theorem Fault.singleLine_message (fault : Fault) : SingleLine fault.message := by
  unfold message
  split <;>
    simp only [singleLine_append, singleLine_toString, singleLine_nat, singleLine_int,
      singleLine_hexPadded, and_true] <;>
    simp [SingleLine]

/-- The name of a kind of collection is on one line. -/
@[simp] theorem CollectionKind.singleLine_name (kind : CollectionKind) : SingleLine kind.name := by
  cases kind <;> decide

/-- The name of a kind of collection inside a placeholder is on one line. -/
@[simp] theorem CollectionKind.singleLine_label (kind : CollectionKind) :
    SingleLine kind.label := by
  cases kind <;> decide

/-- The sentence for a loss of synchronisation is on one line. -/
@[simp] theorem Desync.singleLine_message (desync : Desync) : SingleLine desync.message := by
  unfold message
  split <;>
    simp only [singleLine_append, singleLine_nat, singleLine_int, Fault.singleLine_message,
      CollectionKind.singleLine_name, and_true] <;>
    simp [SingleLine]

/-- The display of a placeholder is on one line. -/
@[simp] theorem Placeholder.singleLine_display (placeholder : Placeholder) :
    SingleLine placeholder.display := by
  unfold display
  split
  case h_1 | h_5 => simp [SingleLine]
  all_goals
    simp only [singleLine_append, singleLine_toString, singleLine_nat, singleLine_int,
      CollectionKind.singleLine_label, and_true]
    simp [SingleLine]

/-- The name of the type of a field is on one line. -/
@[simp] theorem Field.singleLine_typeName (field : Field) : SingleLine field.typeName := by
  rw [typeName, Tag.nameOfByte]
  split
  · next tag _ => cases tag <;> decide
  · simp only [singleLine_append, singleLine_toString, singleLine_nat, and_true]
    simp [SingleLine]

/-- The key of a field without a name is on one line. -/
@[simp] theorem FieldNames.singleLine_genericKey (id : Int16) : SingleLine (genericKey id) :=
  .append (by simp [SingleLine]) (singleLine_int _)

/-- The reason why a value was not decoded is displayed on one line if it is on one. -/
theorem Field.singleLine_displayError {reason : String} (single : SingleLine reason) :
    SingleLine (displayError reason) :=
  .append (.append (by simp [SingleLine]) single) (by simp [SingleLine])

private theorem Fields.singleLine_displayIncomplete {reason : String} (single : SingleLine reason) :
    SingleLine (displayIncomplete reason) :=
  .append (.append (by simp [SingleLine]) single) (by simp [SingleLine])

/-! ## Values inside values -/

section Inside

variable {parts : List String}

private theorem singleLine_enclose {left right : String} (opens : SingleLine left)
    (closes : SingleLine right) (all : ∀ part ∈ parts, SingleLine part) :
    SingleLine (enclose left right parts) := by
  have inside : SingleLine (", ".intercalate parts) := .intercalate (by simp [SingleLine]) all
  exact .append (.append opens inside) closes

private theorem singleLine_braced (all : ∀ part ∈ parts, SingleLine part) :
    SingleLine (braced parts) :=
  singleLine_enclose (by simp [SingleLine]) (by simp [SingleLine]) all

private theorem singleLine_bracketed (all : ∀ part ∈ parts, SingleLine part) :
    SingleLine (bracketed parts) :=
  singleLine_enclose (by simp [SingleLine]) (by simp [SingleLine]) all

end Inside

namespace Value

private theorem singleLine_of_mem_nestedItems {items : List Value}
    (all : ∀ item ∈ items, SingleLine item.nested) :
    ∀ part ∈ nestedItems [] items, SingleLine part := by
  rw [nestedItems_eq]
  exact List.forall_mem_map.mpr all

/-- A list is displayed on one line if its items are. -/
theorem singleLine_nested_list {items : List Value}
    (all : ∀ item ∈ items, SingleLine item.nested) : SingleLine (list items).nested :=
  singleLine_bracketed (singleLine_of_mem_nestedItems all)

/-- A set is displayed on one line if its items are. -/
theorem singleLine_nested_set {items : List Value}
    (all : ∀ item ∈ items, SingleLine item.nested) : SingleLine (set items).nested :=
  singleLine_braced (singleLine_of_mem_nestedItems all)

/-- A map is displayed on one line if its keys and values are. -/
theorem singleLine_nested_map {entries : List (Value × Value)}
    (all : ∀ entry ∈ entries, SingleLine entry.1.nested ∧ SingleLine entry.2.nested) :
    SingleLine (map entries).nested := by
  apply singleLine_braced
  rw [nestedEntries_eq, List.reverse_nil, List.nil_append]
  intro part among
  obtain ⟨entry, held, rfl⟩ := List.mem_map.mp among
  obtain ⟨key, value⟩ := all entry held
  exact (key.append (by simp [SingleLine])).append value

/-- A value that other values may not be inside is displayed on one line, a text in quotes. -/
theorem singleLine_nested_of_single {value : Value} (single : value.isCompound = false) :
    SingleLine value.nested := by
  cases value with
  | bool b => cases b <;> decide
  | i8 n | i16 n | i32 n | i64 n => exact singleLine_int _
  | double x => exact singleLine_of_isNumeric fun _ => Binary64.isNumeric_of_mem_text
  | text content => exact singleLine_quote content
  | placeholder p => exact p.singleLine_display
  | struct | map | set | list => cases single

end Value

/-- Whether the key and the display of a field inside a struct are on one line. -/
structure Field.OneLine (entry : String × Field) : Prop where
  key : SingleLine entry.1
  display : SingleLine entry.2.nested

/-- A struct is displayed on one line if its keys and fields are, and the reason why it ends early,
if it does. -/
theorem Value.singleLine_nested_struct {fields : Fields}
    (all : ∀ entry ∈ fields.entries, Field.OneLine entry)
    (incomplete : ∀ reason ∈ fields.incomplete, SingleLine reason) :
    SingleLine (struct fields).nested := by
  obtain ⟨entries, reason?⟩ := fields
  apply singleLine_braced
  rw [Fields.nestedEntries_eq]
  intro part among
  rcases List.mem_append.mp among with among | last
  · obtain ⟨entry, held, rfl⟩ := List.mem_map.mp among
    have line := all entry held
    exact (line.key.append (by simp [SingleLine])).append line.display
  · obtain ⟨reason, held, rfl⟩ := List.mem_map.mp last
    exact Fields.singleLine_displayIncomplete (incomplete reason (Option.mem_toList.mp held))

/-! ## Fields on their own -/

namespace Field

/-- The text of a field, if its value is a text. -/
def text? (field : Field) : Option String := field.value.bind Value.text?

/-- A field whose value is a text is displayed as the text itself, any other one as it is inside a
struct. -/
theorem display_eq (field : Field) : field.display = field.text?.getD field.nested := by
  obtain ⟨tag, id, value?, error?⟩ := field
  cases value? with
  | none => cases error? <;> rfl
  | some value => cases value <;> rfl

end Field

end TaggedRpc
