/-!
# Type tags

Every field and every collection on the wire says by a one-byte tag how the bytes after it are laid
out. The numbering has gaps: 5, 7, 9 and everything above 15 are not assigned. Tags and their bytes
determine one another (`ofByte?_eq_some_iff`).
-/

namespace TaggedRpc

/-- The assigned type tags. -/
inductive Tag where
  /-- The end of a struct. -/
  | stop
  /-- No value, no bytes. -/
  | void
  /-- One byte, true unless zero. -/
  | bool
  /-- A signed integer of one byte. -/
  | byte
  /-- A double-precision number of eight bytes. -/
  | double
  /-- A signed integer of two bytes. -/
  | i16
  /-- A signed integer of four bytes. -/
  | i32
  /-- A signed integer of eight bytes. -/
  | i64
  /-- A length and as many bytes. -/
  | string
  /-- Fields up to a stop tag. -/
  | struct
  /-- A key tag, a value tag, a count and as many pairs. -/
  | map
  /-- An element tag, a count and as many elements. -/
  | set
  /-- An element tag, a count and as many elements. -/
  | list
  deriving DecidableEq, Repr

namespace Tag

/-- The byte of a tag. -/
def toByte : Tag → UInt8
  | stop => 0
  | void => 1
  | bool => 2
  | byte => 3
  | double => 4
  | i16 => 6
  | i32 => 8
  | i64 => 10
  | string => 11
  | struct => 12
  | map => 13
  | set => 14
  | list => 15

/-- The tag of a byte, if it is assigned. -/
def ofByte? (b : UInt8) : Option Tag :=
  match b.toNat with
  | 0 => some stop
  | 1 => some void
  | 2 => some bool
  | 3 => some byte
  | 4 => some double
  | 6 => some i16
  | 8 => some i32
  | 10 => some i64
  | 11 => some string
  | 12 => some struct
  | 13 => some map
  | 14 => some set
  | 15 => some list
  | _ => none

/-- The name of a tag. -/
def name : Tag → String
  | stop => "STOP"
  | void => "VOID"
  | bool => "BOOL"
  | byte => "BYTE"
  | double => "DOUBLE"
  | i16 => "I16"
  | i32 => "I32"
  | i64 => "I64"
  | string => "STRING"
  | struct => "STRUCT"
  | map => "MAP"
  | set => "SET"
  | list => "LIST"

/-- The number of bytes of a value, for tags whose values all have the same. -/
def width? : Tag → Option Nat
  | void => some 0
  | bool | byte => some 1
  | i16 => some 2
  | i32 => some 4
  | double | i64 => some 8
  | stop | string | struct | map | set | list => none

/-- The name of the tag of a byte; a byte that is not assigned is named by its number. -/
def nameOfByte (b : UInt8) : String :=
  match ofByte? b with
  | some tag => tag.name
  | none => s!"type_{b.toNat}"

/-- The number of bytes of a value under the tag of a byte, if that is fixed. -/
def widthOfByte? (b : UInt8) : Option Nat := (ofByte? b).bind width?

/-- Every tag is the tag of its byte. -/
@[simp] theorem ofByte?_toByte (tag : Tag) : ofByte? tag.toByte = some tag := by cases tag <;> rfl

/-- Bytes and assigned tags determine one another. -/
theorem ofByte?_eq_some_iff {b : UInt8} {tag : Tag} : ofByte? b = some tag ↔ b = tag.toByte := by
  constructor
  · intro assigned
    unfold ofByte? at assigned
    split at assigned <;> simp_all [← UInt8.toNat_inj] <;> subst assigned <;> rfl
  · rintro rfl
    exact ofByte?_toByte tag

end Tag

end TaggedRpc
