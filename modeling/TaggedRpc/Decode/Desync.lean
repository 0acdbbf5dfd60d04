import TaggedRpc.Tree.Value
import TaggedRpc.Wire.Fault

/-!
# Loss of synchronisation

Why the place of the next field in a message is not known any more. From then on nothing can be
read, so the struct at hand and all structs around it end with the same reason.
-/

namespace TaggedRpc

/-- Why the place of the next field is not known. -/
inductive Desync where
  /-- The header of a field cannot be read. -/
  | header (fault : Fault)
  /-- The value of a field can neither be read nor skipped. -/
  | field (id : Int16) (fault : Fault)
  /-- The entries of a collection that is not built cannot be skipped. -/
  | entries (kind : CollectionKind) (count : Int32) (fault : Fault)
  /-- A value that is nested too deeply cannot be skipped. -/
  | deepValue (fault : Fault)
  /-- A tag byte is not one of a value. -/
  | unknownTag (tag : UInt8)
  deriving DecidableEq, Repr

/-- The sentence for a loss of synchronisation. -/
def Desync.message : Desync → String
  | header fault => fault.message
  | field id fault => "abandoned after field " ++ toString id.toInt ++ ": " ++ fault.message
  | entries kind count fault =>
    "cannot skip " ++ toString count.toInt ++ " " ++ kind.name ++ " entries: " ++ fault.message
  | deepValue fault => "cannot skip over-deep value: " ++ fault.message
  | unknownTag tag => "unknown type tag " ++ toString tag.toNat

end TaggedRpc
