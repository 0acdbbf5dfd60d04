import TaggedRpc.Binary64.Basic
import TaggedRpc.Wire.Tag

/-!
# Decoded values

The tree that a message body is decoded to. Fields stand in wire order, the entries of a map are
pairs whose keys may be structs and may repeat, and every field keeps the tag byte that was read.
-/

namespace TaggedRpc

/-- The kinds of collection. -/
inductive CollectionKind where
  | map
  | set
  | list
  deriving DecidableEq, Repr

namespace CollectionKind

/-- The name of a kind of collection. -/
def name : CollectionKind → String
  | map => "Map"
  | set => "Set"
  | list => "List"

/-- The name of a kind of collection inside a placeholder. -/
def label : CollectionKind → String
  | map => "map"
  | set => "set"
  | list => "list"

/-- The number of values that an entry is made of. -/
def valuesPerEntry : CollectionKind → Nat
  | map => 2
  | set | list => 1

end CollectionKind

/-- What stands for a value that was not built. -/
inductive Placeholder where
  /-- A value without bytes. -/
  | void
  /-- A collection with more entries than are built. -/
  | oversizedCollection (kind : CollectionKind) (count : Int32)
  /-- A collection with more entries than the message may still have. -/
  | elementBudgetExhausted (kind : CollectionKind) (count : Int32)
  /-- A value whose tag byte is not one of a value. -/
  | unknownType (tag : UInt8)
  /-- A value at more levels of nesting than are built. -/
  | depthExceeded
  deriving DecidableEq, Repr

mutual

/-- A decoded value. -/
inductive Value where
  | bool (value : Bool)
  | i8 (value : Int8)
  | i16 (value : Int16)
  | i32 (value : Int32)
  | i64 (value : Int64)
  | double (value : Binary64)
  | text (value : String)
  | struct (fields : Fields)
  | map (entries : List (Value × Value))
  | set (items : List Value)
  | list (items : List Value)
  | placeholder (value : Placeholder)

/-- A decoded field. Decoding gives it either a value or the reason why there is none. -/
structure Field where
  /-- The tag byte that was read. -/
  tag : UInt8
  /-- The number of the field. -/
  id : Int16
  /-- The value, if it was decoded. -/
  value : Option Value
  /-- Why the value was not decoded, if it was not. -/
  error : Option String

/-- The fields of a struct in the order in which their keys came first. -/
structure Fields where
  /-- Keys and fields. -/
  entries : List (String × Field)
  /-- Why the fields end before their stop tag, if they do. -/
  incomplete : Option String

end

namespace Value

/-- The fields of a struct. -/
def struct? : Value → Option Fields
  | struct fields => some fields
  | _ => none

/-- The text of a string. -/
def text? : Value → Option String
  | text value => some value
  | _ => none

/-- The integer that a value of any integer type is. -/
def int? : Value → Option Int
  | i8 n => some n.toInt
  | i16 n => some n.toInt
  | i32 n => some n.toInt
  | i64 n => some n.toInt
  | _ => none

/-- Whether this stands for a value that was not built. -/
def isPlaceholder : Value → Bool
  | placeholder _ => true
  | _ => false

end Value

namespace Field

/-- A field whose value was decoded. -/
def decoded (tag : UInt8) (id : Int16) (value : Value) : Field := ⟨tag, id, some value, none⟩

/-- A field whose value was not decoded, and why. -/
def failed (tag : UInt8) (id : Int16) (error : String) : Field := ⟨tag, id, none, some error⟩

/-- The type of a field, if its tag byte is assigned. -/
def type? (field : Field) : Option Tag := Tag.ofByte? field.tag

/-- The name of the type of a field. -/
def typeName (field : Field) : String := Tag.nameOfByte field.tag

/-- Whether a field has no error. -/
def isOk (field : Field) : Bool := field.error.isNone

end Field

end TaggedRpc
