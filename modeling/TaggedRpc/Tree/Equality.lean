import TaggedRpc.Tree.Value

/-!
# Equality of decoded values

Two trees are equal when they have the same shape and the same leaves, doubles being compared as
numbers: a tree with a NaN differs from itself, and the two zeros do not differ. The order of fields
and of entries counts.
-/

namespace TaggedRpc

mutual

/-- Whether two values are equal. -/
def Value.equal : Value → Value → Bool
  | .bool a, .bool b => a == b
  | .i8 a, .i8 b => a == b
  | .i16 a, .i16 b => a == b
  | .i32 a, .i32 b => a == b
  | .i64 a, .i64 b => a == b
  | .double a, .double b => a.sameNumber b
  | .text a, .text b => a == b
  | .struct a, .struct b => a.equal b
  | .map a, .map b => Value.equalEntries a b
  | .set a, .set b => Value.equalItems a b
  | .list a, .list b => Value.equalItems a b
  | .placeholder a, .placeholder b => a == b
  | _, _ => false

/-- Whether two lists of values are equal. -/
def Value.equalItems : List Value → List Value → Bool
  | [], [] => true
  | a :: as, b :: bs => a.equal b && Value.equalItems as bs
  | _, _ => false

/-- Whether two lists of map entries are equal. -/
def Value.equalEntries : List (Value × Value) → List (Value × Value) → Bool
  | [], [] => true
  | (k, v) :: as, (l, w) :: bs => k.equal l && v.equal w && Value.equalEntries as bs
  | _, _ => false

/-- Whether two fields are equal. -/
def Field.equal : Field → Field → Bool
  | ⟨tag, id, some value, error⟩, ⟨tag', id', some value', error'⟩ =>
    tag == tag' && id == id' && value.equal value' && error == error'
  | ⟨tag, id, none, error⟩, ⟨tag', id', none, error'⟩ =>
    tag == tag' && id == id' && error == error'
  | _, _ => false

/-- Whether the fields of two structs are equal. -/
def Fields.equal : Fields → Fields → Bool
  | ⟨entries, incomplete⟩, ⟨entries', incomplete'⟩ =>
    Fields.equalEntries entries entries' && incomplete == incomplete'

/-- Whether two lists of keys and fields are equal. -/
def Fields.equalEntries : List (String × Field) → List (String × Field) → Bool
  | [], [] => true
  | (key, field) :: rest, (key', field') :: rest' =>
    key == key' && field.equal field' && Fields.equalEntries rest rest'
  | _, _ => false

end

end TaggedRpc
