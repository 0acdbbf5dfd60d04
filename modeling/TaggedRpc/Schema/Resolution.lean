import TaggedRpc.Schema.Methods
import TaggedRpc.Schema.Registry

/-!
# Resolution of field names

The names of the fields of a message, and where they come from. One table of names serves all levels
of a message, since the wire does not say which structs are nested in others.
-/

namespace TaggedRpc

/-- Why fields are named after their numbers. -/
inductive GenericReason where
  /-- There is no registry. -/
  | noRegistry
  /-- The registry has no descriptors for the message. -/
  | noMapping
  deriving DecidableEq, Repr

/-- Where the names of fields come from. -/
inductive NameSource where
  /-- From the descriptors of a struct, with a number of names. -/
  | resolved (structName : String) (mappings : Nat)
  /-- From nowhere. -/
  | generic (reason : GenericReason)
  deriving DecidableEq, Repr

namespace NameSource

/-- Whether a schema gave names. -/
def isResolved : NameSource → Bool
  | resolved .. => true
  | generic _ => false

/-- Where the names come from, in words. -/
def description : NameSource → String
  | resolved structName mappings =>
    "Resolved via " ++ structName ++ " (" ++ toString mappings ++ " mappings)"
  | generic .noRegistry => "Generic (no schema registry attached)"
  | generic .noMapping => "Generic (no mapping for this method)"

end NameSource

namespace Registry

/-- The struct of the body of a message and its descriptors, if there are any. -/
def bodyDescriptors? (registry : Registry) (method : String) (kind : Kind) :
    Option (String × List Descriptor) := do
  let structName ← Method.bodyStruct? method kind
  let descriptors ← registry.lookup? structName
  if descriptors.isEmpty then none else some (structName, descriptors)

end Registry

namespace FieldNames

/-- The names of the fields of a message and where they come from. -/
def resolve (registry : Option Registry) (method : String) (kind : Kind) :
    FieldNames × NameSource :=
  match registry with
  | none => (empty, .generic .noRegistry)
  | some registry =>
    match registry.bodyDescriptors? method kind with
    | none => (empty, .generic .noMapping)
    | some (structName, descriptors) =>
      let names := ofDescriptors descriptors
      (names, .resolved structName names.size)

/-- Whether names may be resolved, in words. -/
def resolverDescription (registry : Option Registry) : String :=
  "FieldNameResolver \x7b has_registry: " ++ toString registry.isSome ++ " \x7d"

end FieldNames

end TaggedRpc
