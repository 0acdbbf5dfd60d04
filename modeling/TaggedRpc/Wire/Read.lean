import TaggedRpc.Binary64.Basic
import TaggedRpc.Text.Preview
import TaggedRpc.Wire.Cursor
import TaggedRpc.Wire.Fault

/-!
# Reads

Reads of wire values at a cursor. Numbers are big endian, in two's complement if they are signed. A
read that fails leaves the cursor where it was; reads of several parts get this from `atomically`.
No read moves the cursor back, and one that succeeds moves it on by at least the size of what it
read (`Advances`).
-/

namespace TaggedRpc

/-- A read at a cursor into a buffer: a result or a fault, and the place afterwards. -/
abbrev Read (buf : ByteArray) := EStateM Fault (Cursor buf)

/-- The number that bytes spell, the most significant first. -/
def bigEndian (bytes : List UInt8) : Nat := bytes.foldl (fun n b => 256 * n + b.toNat) 0

namespace Read

variable {buf : ByteArray} {α β : Type}

/-- A read that goes back to where it started if it fails. -/
def atomically (read : Read buf α) : Read buf α := fun c =>
  match read c with
  | .ok a d => .ok a d
  | .error fault _ => .error fault c

/-- The fault of a read for which the bytes behind the cursor do not suffice. -/
def shortage (c : Cursor buf) (needed : Nat) : Fault := .truncated c.pos needed c.remaining

/-- Read some bytes. -/
def bytes (count : Nat) : Read buf ByteArray := fun c =>
  if enough : count ≤ c.remaining then
    .ok (buf.extract c.pos (c.pos + count)) (c.forward count enough)
  else .error (shortage c count) c

/-- Pass some bytes without looking at them. -/
def advance (count : Nat) : Read buf Unit := fun c =>
  if enough : count ≤ c.remaining then .ok () (c.forward count enough)
  else .error (shortage c count) c

/-- Read a number of some bytes, most significant first. -/
def natural (width : Nat) : Read buf Nat := do
  return bigEndian (← bytes width).data.toList

/-- Read an unsigned byte. -/
def uint8 : Read buf UInt8 := UInt8.ofNat <$> natural 1

/-- Read a signed byte. -/
def int8 : Read buf Int8 := Int8.ofNat <$> natural 1

/-- Read a signed integer of two bytes. -/
def int16 : Read buf Int16 := Int16.ofNat <$> natural 2

/-- Read a signed integer of four bytes. -/
def int32 : Read buf Int32 := Int32.ofNat <$> natural 4

/-- Read a signed integer of eight bytes. -/
def int64 : Read buf Int64 := Int64.ofNat <$> natural 8

/-- Read a double-precision number. -/
def double : Read buf Binary64 := (fun n => ⟨UInt64.ofNat n⟩) <$> natural 8

/-- Read a length, which must not be negative. -/
def length : Read buf Nat := atomically do
  let n ← int32
  if n < 0 then throw (.negativeLength n) else return n.toNatClampNeg

/-- Read a length, which must not be negative and not above a ceiling. -/
def lengthUpTo (ceiling : Nat) : Read buf Nat := atomically do
  let n ← length
  if ceiling < n then throw (.lengthTooLarge n ceiling) else return n

/-- The greatest length of a string that is read: ten mebibytes. -/
def stringCeiling : Nat := 10 * 1024 * 1024

/-- Read a length and as many bytes, as text. -/
def string : Read buf String := atomically do
  return Text.ofBytes (← bytes (← lengthUpTo stringCeiling))

/-- Pass a length and as many bytes, however many there are. -/
def skipString : Read buf Unit := atomically do
  advance (← length)

end Read

end TaggedRpc
