import TaggedRpc.Tree.Fields

/-!
# Values inside values

The values of a tree in preorder (`Value.subvalues`), and what can be said of a tree by looking at
each of them: whether a struct in it ends early, which unknown tags it holds, and whether what is
broken in it lies on a single path.
-/

namespace TaggedRpc

mutual

/-- A value and all values inside it. -/
def Value.subvalues : Value → List Value
  | .struct fields => .struct fields :: Fields.subvalues fields
  | .map entries => .map entries :: Value.subvaluesPairs entries
  | .set items => .set items :: Value.subvaluesItems items
  | .list items => .list items :: Value.subvaluesItems items
  | value => [value]

/-- All values inside some items. -/
def Value.subvaluesItems : List Value → List Value
  | [] => []
  | item :: rest => item.subvalues ++ Value.subvaluesItems rest

/-- All values inside some map entries. -/
def Value.subvaluesPairs : List (Value × Value) → List Value
  | [] => []
  | (key, value) :: rest => key.subvalues ++ (value.subvalues ++ Value.subvaluesPairs rest)

/-- All values inside a field. -/
def Field.subvalues : Field → List Value
  | ⟨_, _, some value, _⟩ => value.subvalues
  | ⟨_, _, none, _⟩ => []

/-- All values inside some keys and fields. -/
def Fields.subvaluesEntries : List (String × Field) → List Value
  | [] => []
  | (_, field) :: rest => field.subvalues ++ Fields.subvaluesEntries rest

/-- All values inside the fields of a struct. -/
def Fields.subvalues : Fields → List Value
  | ⟨entries, _⟩ => Fields.subvaluesEntries entries

end

namespace Value

/-- The values right inside a value. -/
def children : Value → List Value
  | .struct fields => fields.entries.filterMap fun entry => entry.2.value
  | .map entries => entries.flatMap fun entry => [entry.1, entry.2]
  | .set items | .list items => items
  | _ => []

/-- Whether a value stands for itself: there is none inside it, and its tag is known. -/
def isLeaf : Value → Bool
  | .struct _ | .map _ | .set _ | .list _ | .placeholder (.unknownType _) => false
  | _ => true

/-- Whether a value is a struct that ends early. -/
def isIncomplete : Value → Bool
  | .struct fields => fields.incomplete.isSome
  | _ => false

/-- Whether a struct that ends early is in a value. -/
def isBroken (value : Value) : Bool := value.subvalues.any isIncomplete

/-- The tag that a value has if it is not known. -/
def unknownTag? : Value → Option UInt8
  | .placeholder (.unknownType tag) => some tag
  | _ => none

/-- The tags in a value that are not known. -/
def unknownTags (value : Value) : List UInt8 := value.subvalues.filterMap unknownTag?

end Value

/-- Whether a struct that ends early is in a field. -/
def Field.isBroken (field : Field) : Bool := field.value.any Value.isBroken

/-- What is broken right inside a value lies in one place, and the value shows it. In a struct it is
one field, and the struct ends early as well. In a collection it is the last item or the value of
the last entry. -/
def Value.BreaksOnce : Value → Prop
  | .struct fields =>
    (fields.entries.any (fun entry => entry.2.isBroken) → fields.incomplete.isSome) ∧
      fields.entries.countP (fun entry => entry.2.isBroken) ≤ 1
  | .map entries =>
    (∀ entry ∈ entries, entry.1.isBroken = false) ∧
      ∀ entry ∈ entries.dropLast, entry.2.isBroken = false
  | .set items | .list items => ∀ item ∈ items.dropLast, item.isBroken = false
  | _ => True

namespace Value

private theorem subvaluesItems_eq (items : List Value) :
    subvaluesItems items = items.flatMap subvalues := by
  induction items with
  | nil => rfl
  | cons item rest ih => rw [subvaluesItems, ih, List.flatMap_cons]

private theorem subvaluesPairs_eq (entries : List (Value × Value)) :
    subvaluesPairs entries =
      (entries.flatMap fun entry => [entry.1, entry.2]).flatMap subvalues := by
  induction entries with
  | nil => rfl
  | cons entry rest ih =>
    rw [subvaluesPairs, ih, List.flatMap_cons, List.flatMap_append, List.flatMap_cons,
      List.flatMap_singleton, List.append_assoc]

private theorem subvaluesEntries_eq (entries : List (String × Field)) :
    Fields.subvaluesEntries entries =
      (entries.filterMap fun entry => entry.2.value).flatMap subvalues := by
  induction entries with
  | nil => rfl
  | cons entry rest ih =>
    obtain ⟨key, tag, id, value, error⟩ := entry
    rw [Fields.subvaluesEntries, ih]
    cases value with
    | none => rw [List.filterMap_cons_none rfl, Field.subvalues, List.nil_append]
    | some value =>
      rw [Field.subvalues, ← List.flatMap_cons]
      rfl

/-- A value is followed by all values inside its children. -/
theorem subvalues_eq (value : Value) :
    value.subvalues = value :: value.children.flatMap subvalues := by
  cases value with
  | struct fields =>
    obtain ⟨entries, incomplete⟩ := fields
    rw [subvalues, Fields.subvalues, subvaluesEntries_eq, children]
  | map entries => rw [subvalues, subvaluesPairs_eq, children]
  | set items => rw [subvalues, subvaluesItems_eq, children]
  | list items => rw [subvalues, subvaluesItems_eq, children]
  | _ => rfl

/-- The values in a value are itself and those in its children. -/
theorem mem_subvalues_iff {value inner : Value} :
    inner ∈ value.subvalues ↔
      inner = value ∨ ∃ child ∈ value.children, inner ∈ child.subvalues := by
  rw [subvalues_eq, List.mem_cons, List.mem_flatMap]

/-- A value is the first of the values in it. -/
theorem self_mem_subvalues (value : Value) : value ∈ value.subvalues := by
  rw [subvalues_eq]
  exact List.mem_cons_self

/-- A value has more values in it than any of its children. -/
theorem length_subvalues_lt {value child : Value} (held : child ∈ value.children) :
    child.subvalues.length < value.subvalues.length := by
  have part : child.subvalues.Sublist (value.children.flatMap subvalues) :=
    List.sublist_flatten_of_mem (List.mem_map_of_mem held)
  rw [subvalues_eq value, List.length_cons]
  exact Nat.lt_succ_of_le part.length_le

/-- The key of an entry is right inside its map. -/
theorem key_mem_children {entries : List (Value × Value)} {entry : Value × Value}
    (held : entry ∈ entries) : entry.1 ∈ (map entries).children :=
  List.mem_flatMap.mpr ⟨entry, held, List.mem_cons_self⟩

/-- The value of an entry is right inside its map. -/
theorem value_mem_children {entries : List (Value × Value)} {entry : Value × Value}
    (held : entry ∈ entries) : entry.2 ∈ (map entries).children :=
  List.mem_flatMap.mpr ⟨entry, held, List.mem_cons_of_mem _ List.mem_cons_self⟩

/-- The value of a field is right inside its struct. -/
theorem mem_children_of_field {fields : Fields} {entry : String × Field} {value : Value}
    (held : entry ∈ fields.entries) (same : entry.2.value = some value) :
    value ∈ (struct fields).children :=
  List.mem_filterMap.mpr ⟨entry, held, same⟩

/-- The unknown tags in a value are its own and those in its children. -/
theorem unknownTags_eq (value : Value) :
    value.unknownTags = value.unknownTag?.toList ++ value.children.flatMap unknownTags := by
  unfold unknownTags
  rw [subvalues_eq, List.filterMap_cons, List.filterMap_flatMap]
  cases value.unknownTag? <;> rfl

end Value

end TaggedRpc
