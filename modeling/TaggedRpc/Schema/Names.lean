import Std.Data.ExtTreeMap

/-!
# Names of fields

Messages carry the numbers of fields and a schema knows their names. Without a name a field is
called after its number, so every field has a key. Of two descriptors with one number the last one
counts (`get?_ofDescriptors_concat`).
-/

namespace TaggedRpc

/-- What a schema says about one field of a struct. -/
structure Descriptor where
  /-- The number of the field. -/
  id : Int16
  /-- The tag byte that the schema declares. Decoding goes by the tag on the wire instead. -/
  wireType : UInt8
  /-- The name of the field. -/
  name : String
  deriving DecidableEq, Repr

/-- The names of the fields of a struct by number. -/
structure FieldNames where
  byId : Std.ExtTreeMap Int16 String

namespace FieldNames

/-- No names. -/
def empty : FieldNames := ⟨∅⟩

/-- The names with one more, which replaces another name of the same field. -/
def insert (names : FieldNames) (descriptor : Descriptor) : FieldNames :=
  ⟨names.byId.insert descriptor.id descriptor.name⟩

/-- The names that descriptors give. -/
def ofDescriptors (descriptors : List Descriptor) : FieldNames := descriptors.foldl insert empty

/-- The name of a field. -/
def get? (names : FieldNames) (id : Int16) : Option String := names.byId[id]?

/-- The key of a field without a name. -/
def genericKey (id : Int16) : String := "field_" ++ toString id.toInt

/-- The key of a field: its name, or a key made from its number. -/
def keyFor (names : FieldNames) (id : Int16) : String := (names.get? id).getD (genericKey id)

/-- The number of fields with a name. -/
def size (names : FieldNames) : Nat := names.byId.size

/-- Whether no field has a name. -/
def isEmpty (names : FieldNames) : Bool := names.byId.isEmpty

/-- Names are determined by the name of each field. -/
theorem ext {names others : FieldNames} (same : ∀ id, names.get? id = others.get? id) :
    names = others := by
  cases names
  cases others
  congr 1
  exact Std.ExtTreeMap.ext_getElem? same

/-- A name replaces the name of its own field only. -/
theorem get?_insert (names : FieldNames) (descriptor : Descriptor) (id : Int16) :
    (names.insert descriptor).get? id =
      if descriptor.id = id then some descriptor.name else names.get? id := by
  simp only [get?, insert, Std.ExtTreeMap.getElem?_insert, Std.LawfulEqOrd.compare_eq_iff_eq]

/-- The last descriptor of a field gives its name. -/
theorem get?_ofDescriptors_concat (descriptors : List Descriptor) (last : Descriptor) (id : Int16) :
    (ofDescriptors (descriptors ++ [last])).get? id =
      if last.id = id then some last.name else (ofDescriptors descriptors).get? id := by
  rw [ofDescriptors, List.foldl_append]
  exact get?_insert _ last id

end FieldNames

end TaggedRpc
