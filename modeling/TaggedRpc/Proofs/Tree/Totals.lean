import Mathlib.Algebra.BigOperators.Ring.List
import Mathlib.Algebra.GroupWithZero.Nat
import Mathlib.Algebra.Order.BigOperators.Group.List
import Mathlib.Algebra.Order.Group.Nat
import Mathlib.Algebra.Ring.Nat
import TaggedRpc.Proofs.Tree.Insertions
import TaggedRpc.Proofs.Tree.Subvalues

/-!
# Totals over trees

Sums of a number over all values of a tree (`Value.total`), from the sums over the children of a
value. Fields that replace others do not count, so building fields from insertions counts at most
what was inserted (`Fields.sum_ofList_le`). The numbers that are summed here are those of the
entries of a collection (`Value.entryCount`) and of the fields of a struct (`Value.fieldCount`).
Every value in a struct stands in one of these places, so the two totals bound the number of all
values (`Fields.length_subvalues_le`).
-/

namespace TaggedRpc

/-- The sum of a number over a value and all values inside it. -/
def Value.total (number : Value → Nat) (value : Value) : Nat := (value.subvalues.map number).sum

/-- The sum of a number over all values inside a field. -/
def Field.total (number : Value → Nat) (field : Field) : Nat := (field.subvalues.map number).sum

/-- The sum of a number over all values inside the fields of a struct. -/
def Fields.total (number : Value → Nat) (fields : Fields) : Nat :=
  (fields.subvalues.map number).sum

variable {number : Value → Nat}

/-- The total of a value is its own number and the totals of its children. -/
theorem Value.total_eq (value : Value) :
    value.total number = number value + (value.children.map (total number)).sum := by
  rw [total, subvalues_eq, List.map_cons, List.sum_cons, List.map_flatMap, List.flatMap_def,
    List.sum_flatten, List.map_map]
  rfl

/-- A total of greater numbers is greater. -/
theorem Value.total_le_total {number' : Value → Nat} (le : ∀ value, number value ≤ number' value)
    (value : Value) : value.total number ≤ value.total number' :=
  List.sum_le_sum fun inner _ => le inner

namespace Fields

/-- The total of fields is that of each. -/
theorem total_eq (fields : Fields) :
    fields.total number = (fields.entries.map fun entry => entry.2.total number).sum := by
  obtain ⟨entries, incomplete⟩ := fields
  rw [total, Fields.subvalues]
  induction entries with
  | nil => rfl
  | cons entry rest ih =>
    rw [subvaluesEntries, List.map_append, List.sum_append, ih, List.map_cons, List.sum_cons]
    rfl

private theorem sum_insertEntry_le (weight : Field → Nat) (key : String) (field : Field)
    (entries : List (String × Field)) :
    ((insertEntry key field entries).map fun entry => weight entry.2).sum ≤
      weight field + (entries.map fun entry => weight entry.2).sum := by
  induction entries with
  | nil => simp [insertEntry]
  | cons entry rest ih =>
    rw [insertEntry]
    split
    · simp only [List.map_cons, List.sum_cons]
      omega
    · simp only [List.map_cons, List.sum_cons]
      omega

/-- Fields that are built from insertions have at most the total of what was inserted. -/
theorem sum_ofList_le (weight : Field → Nat) (insertions : List (String × Field)) :
    ((ofList insertions).entries.map fun entry => weight entry.2).sum ≤
      (insertions.map fun entry => weight entry.2).sum := by
  induction insertions using List.reverseRecOn with
  | nil => exact Nat.le_refl _
  | append_singleton insertions last ih =>
    have inserted := sum_insertEntry_le weight last.1 last.2 (ofList insertions).entries
    rw [ofList_concat]
    simp only [insert, List.map_append, List.sum_append, List.map_cons, List.map_nil, List.sum_cons,
      List.sum_nil]
    omega

end Fields

/-! ## Entries -/

namespace Value

/-- The number of entries that a value has if it is a collection. -/
def entryCount : Value → Nat
  | .map entries => entries.length
  | .set items | .list items => items.length
  | _ => 0

/-- The number of entries of a value and of all values inside it. -/
def entryTotal (value : Value) : Nat := value.total entryCount

/-- The entries of a list are its items and their entries. -/
theorem entryTotal_list (items : List Value) :
    (list items).entryTotal = (items.map fun item => item.entryTotal + 1).sum := by
  simp only [entryTotal, total_eq (list _), entryCount, children]
  induction items with
  | nil => rfl
  | cons item rest ih =>
    simp only [List.length_cons, List.map_cons, List.sum_cons, ← ih]
    omega

/-- A set has as many entries as a list of its items. -/
theorem entryTotal_set (items : List Value) :
    (set items).entryTotal = (items.map fun item => item.entryTotal + 1).sum := by
  rw [← entryTotal_list]
  simp only [entryTotal, total_eq (list _), total_eq (set _), entryCount, children]

/-- The entries of a map are its own and those of its keys and values. -/
theorem entryTotal_map (entries : List (Value × Value)) :
    (map entries).entryTotal =
      (entries.map fun entry => entry.1.entryTotal + entry.2.entryTotal + 1).sum := by
  simp only [entryTotal, total_eq (map _), entryCount, children]
  induction entries with
  | nil => rfl
  | cons entry rest ih =>
    simp only [List.length_cons, List.flatMap_cons, List.cons_append, List.nil_append,
      List.map_cons, List.sum_cons, ← ih]
    omega

theorem entryTotal_of_isLeaf {value : Value} (leaf : value.isLeaf) : value.entryTotal = 0 := by
  cases value with
  | struct | map | set | list => cases leaf
  | _ => rfl

end Value

/-- The number of entries of all values inside a field. -/
def Field.entryTotal (field : Field) : Nat := field.total Value.entryCount

/-- The number of entries of all values inside the fields of a struct. -/
def Fields.entryTotal (fields : Fields) : Nat := fields.total Value.entryCount

/-- A struct has as many entries as its fields. -/
theorem Value.entryTotal_struct (fields : Fields) :
    (struct fields).entryTotal = fields.entryTotal := by
  obtain ⟨entries, incomplete⟩ := fields
  simp [entryTotal, total, subvalues, entryCount, Fields.entryTotal, Fields.total]

/-! ## Fields -/

namespace Value

/-- The number of fields that a value has if it is a struct. -/
def fieldCount : Value → Nat
  | .struct fields => fields.size
  | _ => 0

/-- The number of fields of a value and of all values inside it. -/
def fieldTotal (value : Value) : Nat := value.total fieldCount

/-- The fields of a list are those of its items. -/
theorem fieldTotal_list (items : List Value) :
    (list items).fieldTotal = (items.map fieldTotal).sum := by
  simp only [fieldTotal, total_eq (list _), fieldCount, children, Nat.zero_add]
  rfl

/-- The fields of a set are those of its items. -/
theorem fieldTotal_set (items : List Value) :
    (set items).fieldTotal = (items.map fieldTotal).sum := by
  simp only [fieldTotal, total_eq (set _), fieldCount, children, Nat.zero_add]
  rfl

/-- The fields of a map are those of its keys and values. -/
theorem fieldTotal_map (entries : List (Value × Value)) :
    (map entries).fieldTotal =
      (entries.map fun entry => entry.1.fieldTotal + entry.2.fieldTotal).sum := by
  simp only [fieldTotal, total_eq (map _), fieldCount, children, Nat.zero_add]
  induction entries with
  | nil => rfl
  | cons entry rest ih =>
    simp only [List.flatMap_cons, List.cons_append, List.nil_append, List.map_cons, List.sum_cons,
      ih]
    exact (Nat.add_assoc _ _ _).symm

theorem fieldTotal_of_isLeaf {value : Value} (leaf : value.isLeaf) : value.fieldTotal = 0 := by
  cases value with
  | struct | map | set | list => cases leaf
  | _ => rfl

end Value

/-- The number of fields inside a field. -/
def Field.fieldTotal (field : Field) : Nat := field.total Value.fieldCount

/-- The number of fields of a struct and of all values inside it. -/
def Fields.fieldTotal (fields : Fields) : Nat := fields.size + fields.total Value.fieldCount

/-- Every field of a struct counts, and so do the fields inside it. -/
theorem Fields.fieldTotal_eq (fields : Fields) :
    fields.fieldTotal = (fields.entries.map fun entry => entry.2.fieldTotal + 1).sum := by
  rw [fieldTotal, total_eq, size]
  induction fields.entries with
  | nil => rfl
  | cons entry rest ih =>
    rw [List.length_cons, List.map_cons, List.map_cons, List.sum_cons, List.sum_cons, ← ih,
      Field.fieldTotal]
    omega

/-- A struct has as many fields as the fields that it is made of. -/
theorem Value.fieldTotal_struct (fields : Fields) :
    (struct fields).fieldTotal = fields.fieldTotal := by
  obtain ⟨entries, incomplete⟩ := fields
  simp [fieldTotal, total, subvalues, fieldCount, Fields.fieldTotal, Fields.total]

/-! ## Values -/

namespace Value

/-- Of the values of a tree all but the first are children of one of them. -/
theorem length_subvalues (value : Value) :
    value.subvalues.length = value.total (fun inner => inner.children.length) + 1 := by
  induction size : value.subvalues.length using Nat.strongRecOn generalizing value with
  | ind size ih =>
    have each (child : Value) (held : child ∈ value.children) :
        child.subvalues.length = child.total (fun inner => inner.children.length) + 1 :=
      ih _ (size ▸ length_subvalues_lt held) child rfl
    rw [← size, subvalues_eq, total_eq, List.length_cons, List.length_flatMap,
      List.map_congr_left each, List.sum_map_add, List.map_const', List.sum_replicate_nat,
      Nat.mul_one]
    omega

/-- A value has no more children than it has places for them: one for each field, at most two for
each entry. -/
theorem length_children_le (value : Value) :
    value.children.length ≤ value.fieldCount + 2 * value.entryCount := by
  cases value with
  | struct fields =>
    exact Nat.le_trans (List.length_filterMap_le _ _) (Nat.le_add_right _ _)
  | map entries =>
    have pairs : (map entries).children.length = entries.length * 2 := by
      simp only [children, List.length_flatMap, List.length_cons, List.length_nil,
        List.map_const', List.sum_replicate_nat]
    simp only [pairs, fieldCount, entryCount]
    omega
  | set items | list items =>
    simp only [children, fieldCount, entryCount]
    omega
  | _ => exact Nat.zero_le _

end Value

/-- The fields and the entries of a struct bound the number of all values inside it. -/
theorem Fields.length_subvalues_le (fields : Fields) :
    fields.subvalues.length ≤ fields.fieldTotal + 2 * fields.entryTotal := by
  have inside : (Value.struct fields).subvalues.length = fields.subvalues.length + 1 := rfl
  have places := Value.total_le_total Value.length_children_le (.struct fields)
  have split : (Value.struct fields).total (fun inner => inner.fieldCount + 2 * inner.entryCount) =
      fields.fieldTotal + 2 * fields.entryTotal := by
    rw [← Value.fieldTotal_struct, ← Value.entryTotal_struct, Value.fieldTotal, Value.entryTotal,
      Value.total, Value.total, Value.total, List.sum_map_add, List.sum_map_mul_left]
  rw [Value.length_subvalues] at inside
  omega

end TaggedRpc
