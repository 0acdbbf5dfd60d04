import TaggedRpc.Schema.Names

/-!
# Audit of a schema

A look at the descriptors of a struct for numbers that are given twice, which would hide a name, and
for the numbers that vendors use for extensions.
-/

namespace TaggedRpc

/-- What an audit found out about the descriptors of a struct. -/
structure Audit where
  /-- The struct. -/
  structName : String
  /-- The number of descriptors. -/
  fieldCount : Nat
  /-- The numbers that more than one descriptor has, ascending. -/
  duplicateIds : List Int16
  /-- The numbers of vendor extensions, ascending. -/
  extensionIds : List Int16
  deriving DecidableEq, Repr

namespace Audit

/-- The first number of vendor extensions. -/
def firstExtensionId : Int16 := 0x501

/-- How many descriptors have each number. -/
def idCounts (descriptors : List Descriptor) : Std.ExtTreeMap Int16 Nat :=
  descriptors.foldl (fun counts descriptor =>
    counts.insert descriptor.id (counts.getD descriptor.id 0 + 1)) ∅

/-- Look at the descriptors of a struct. -/
def ofDescriptors (structName : String) (descriptors : List Descriptor) : Audit :=
  let counts := idCounts descriptors
  { structName
    fieldCount := descriptors.length
    duplicateIds := (counts.toList.filter fun entry => 1 < entry.2).map Prod.fst
    extensionIds := counts.keys.filter (firstExtensionId ≤ ·) }

/-- Whether no number is given twice. -/
def isConsistent (audit : Audit) : Bool := audit.duplicateIds.isEmpty

end Audit

end TaggedRpc
