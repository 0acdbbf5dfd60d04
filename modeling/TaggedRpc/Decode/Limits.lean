/-!
# Limits

How much of a message is built as a tree, and how values that are not built are treated.
-/

namespace TaggedRpc

/-- The limits of decoding. -/
structure Limits where
  /-- The number of levels of nesting. -/
  maxDepth : Nat := 32
  /-- The number of entries of one collection. -/
  maxCollectionSize : Nat := 10000
  /-- The number of entries of all collections of a message. -/
  maxElements : Nat := 1000000
  /-- Whether the bytes of a value that is not built are skipped, so that what follows it is read
  from its own place. -/
  skipUnbuilt : Bool := true
  /-- The number of containers that may be open at a time while a value is skipped. -/
  maxSkipDepth : Nat := 256
  deriving DecidableEq, Repr

end TaggedRpc
