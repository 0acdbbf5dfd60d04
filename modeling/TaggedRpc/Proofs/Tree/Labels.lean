import TaggedRpc.Proofs.Tree.Insertions
import TaggedRpc.Schema.Names

/-!
# Labels of a tree

The keys of fields and the texts of faults are labels: they may be exchanged while the rest of a
tree stays (`Value.relabel`). Two tables of names that tell the same fields apart give trees that
are the same under labels that do not look at the names (`Labels.Hides`, `Fields.relabel_ofList`).
-/

namespace TaggedRpc

/-- Other labels for a tree. -/
structure Labels where
  /-- What a key of a field with a number is exchanged for. -/
  key : String → Int16 → String
  /-- What the text of a fault is exchanged for. -/
  text : String → String

/-- Keys that are made from the numbers of fields, and the same texts. -/
def Labels.ofNumbers (key : Int16 → String) : Labels := ⟨fun _ id => key id, id⟩

/-- The same keys, and no texts. -/
def Labels.withoutTexts : Labels := ⟨fun key _ => key, fun _ => ""⟩

mutual

/-- A value with other labels. -/
def Value.relabel (labels : Labels) : Value → Value
  | .struct fields => .struct (fields.relabel labels)
  | .map entries => .map (Value.relabelPairs labels entries)
  | .set items => .set (Value.relabelItems labels items)
  | .list items => .list (Value.relabelItems labels items)
  | value => value

/-- Items with other labels. -/
def Value.relabelItems (labels : Labels) : List Value → List Value
  | [] => []
  | item :: rest => item.relabel labels :: Value.relabelItems labels rest

/-- Map entries with other labels. -/
def Value.relabelPairs (labels : Labels) : List (Value × Value) → List (Value × Value)
  | [] => []
  | (key, value) :: rest =>
    (key.relabel labels, value.relabel labels) :: Value.relabelPairs labels rest

/-- A field with other labels. -/
def Field.relabel (labels : Labels) : Field → Field
  | ⟨tag, id, some value, error⟩ => ⟨tag, id, some (value.relabel labels), error.map labels.text⟩
  | ⟨tag, id, none, error⟩ => ⟨tag, id, none, error.map labels.text⟩

/-- Keys and fields with other labels. -/
def Fields.relabelEntries (labels : Labels) : List (String × Field) → List (String × Field)
  | [] => []
  | (key, field) :: rest =>
    (labels.key key field.id, field.relabel labels) :: Fields.relabelEntries labels rest

/-- The fields of a struct with other labels. -/
def Fields.relabel (labels : Labels) : Fields → Fields
  | ⟨entries, incomplete⟩ =>
    ⟨Fields.relabelEntries labels entries, incomplete.map labels.text⟩

end

/-- The fields of a struct with a key for each number in place of every key, at all levels. -/
def Fields.rekeyed (key : Int16 → String) (fields : Fields) : Fields :=
  fields.relabel (.ofNumbers key)

/-- The fields of a struct without the texts of faults, at all levels. Where such texts were stays.
-/
def Fields.withoutTexts (fields : Fields) : Fields := fields.relabel .withoutTexts

/-- Labels that hide which of two tables of names is used. The tables must tell the same fields
apart, since a field replaces another one with its key. -/
structure Labels.Hides (labels : Labels) (names names' : FieldNames) : Prop where
  apart : ∀ i j, names.keyFor i = names.keyFor j ↔ names'.keyFor i = names'.keyFor j
  key : ∀ i, labels.key (names.keyFor i) i = labels.key (names'.keyFor i) i

namespace Labels

variable {names names' : FieldNames}

/-- Labels hide nothing of a table of names from itself. -/
theorem Hides.refl (labels : Labels) (names : FieldNames) : labels.Hides names names :=
  ⟨fun _ _ => Iff.rfl, fun _ => rfl⟩

/-- Keys that are made from numbers hide tables that tell all fields apart. -/
theorem hides_of_injective (injective : Function.Injective names.keyFor)
    (injective' : Function.Injective names'.keyFor) (key : Int16 → String) :
    (ofNumbers key).Hides names names' where
  apart _ _ := injective.eq_iff.trans injective'.eq_iff.symm
  key _ := rfl

end Labels

variable {labels : Labels} {names names' : FieldNames}

/-- The labels of items are exchanged one by one. -/
theorem Value.relabelItems_eq (items : List Value) :
    relabelItems labels items = items.map (relabel labels) := by
  induction items with
  | nil => rfl
  | cons item rest ih => rw [relabelItems, ih, List.map_cons]

/-- The labels of map entries are exchanged one by one. -/
theorem Value.relabelPairs_eq (entries : List (Value × Value)) :
    relabelPairs labels entries = entries.map (Prod.map (relabel labels) (relabel labels)) := by
  induction entries with
  | nil => rfl
  | cons entry rest ih => rw [relabelPairs, ih, List.map_cons, Prod.map]

/-- Other labels leave the number of a field. -/
theorem Field.id_relabel (labels : Labels) (field : Field) :
    (field.relabel labels).id = field.id := by
  obtain ⟨tag, id, value, error⟩ := field
  cases value <;> rfl

namespace Fields

/-- Two fields under the keys that two tables of names give them, which are the same under other
labels. -/
structure SameEntry (labels : Labels) (names names' : FieldNames) (e e' : String × Field) :
    Prop where
  key : e.1 = names.keyFor e.2.id
  key' : e'.1 = names'.keyFor e'.2.id
  field : e.2.relabel labels = e'.2.relabel labels

/-- Two fields that are the same under other labels have the same number. -/
theorem SameEntry.id {e e' : String × Field} (same : SameEntry labels names names' e e') :
    e.2.id = e'.2.id := by
  rw [← Field.id_relabel labels, same.field, Field.id_relabel]

private theorem relabelEntries_of_same (hides : labels.Hides names names')
    {as bs : List (String × Field)} (same : List.Forall₂ (SameEntry labels names names') as bs) :
    relabelEntries labels as = relabelEntries labels bs := by
  induction same with
  | nil => rfl
  | @cons e e' rest rest' first _ ih =>
    have key : labels.key e.1 e.2.id = labels.key e'.1 e'.2.id := by
      rw [first.key, first.key', ← first.id]
      exact hides.key e.2.id
    rw [relabelEntries, relabelEntries, ih, key, first.field]

/-- Insertions that are the same one by one give fields that are the same under other labels, if
these hide the difference of the names. -/
theorem relabel_ofList (hides : labels.Hides names names') {as bs : List (String × Field)}
    (same : List.Forall₂ (SameEntry labels names names') as bs) :
    relabelEntries labels (ofList as).entries = relabelEntries labels (ofList bs).entries := by
  refine relabelEntries_of_same hides (forall₂_ofList (fun first second => ?_) same)
  rw [first.key, second.key, first.key', second.key', ← first.id, ← second.id]
  exact hides.apart _ _

end Fields

end TaggedRpc
