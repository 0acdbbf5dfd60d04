import TaggedRpc.Schema.Audit

/-!
# Registries of schemas

The descriptors of structs by name. The last insertion under a name counts (`lookup?_insert`), and
audits come in the order of the names.
-/

namespace TaggedRpc

/-- Descriptors of structs by name. -/
structure Registry where
  structs : Std.ExtTreeMap String (List Descriptor)

namespace Registry

/-- A registry without structs. -/
def empty : Registry := ⟨∅⟩

/-- A registry with the descriptors of one more struct, or with other descriptors of a struct. -/
def insert (registry : Registry) (structName : String) (descriptors : List Descriptor) : Registry :=
  ⟨registry.structs.insert structName descriptors⟩

/-- The registry that a list of insertions gives. -/
def ofList (insertions : List (String × List Descriptor)) : Registry :=
  insertions.foldl (fun registry (structName, descriptors) =>
    registry.insert structName descriptors) empty

/-- The descriptors of a struct. -/
def lookup? (registry : Registry) (structName : String) : Option (List Descriptor) :=
  registry.structs[structName]?

/-- The number of structs. -/
def size (registry : Registry) : Nat := registry.structs.size

/-- The audits of all structs, in the order of their names. -/
def audits (registry : Registry) : List Audit :=
  registry.structs.toList.map fun (structName, descriptors) =>
    Audit.ofDescriptors structName descriptors

/-- The audits of structs that come in any order, put into the order of their names. -/
def auditsOf (entries : List (String × List Descriptor)) : List Audit :=
  (entries.map fun (structName, descriptors) =>
    Audit.ofDescriptors structName descriptors).mergeSort fun a b => a.structName ≤ b.structName

/-- An insertion replaces the descriptors of its own struct only. -/
theorem lookup?_insert (registry : Registry) (structName other : String)
    (descriptors : List Descriptor) :
    (registry.insert structName descriptors).lookup? other =
      if structName = other then some descriptors else registry.lookup? other := by
  simp only [lookup?, insert, Std.ExtTreeMap.getElem?_insert, Std.LawfulEqOrd.compare_eq_iff_eq]

end Registry

end TaggedRpc
