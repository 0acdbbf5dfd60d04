import TaggedRpc.Wire.Read
import TaggedRpc.Wire.Tag

/-!
# Steps over values

Values are passed by their tags without being built. Open containers are kept on an explicit stack,
so nesting costs no recursion, and runs of values of fixed width are passed in one move.
-/

namespace TaggedRpc

/-- A container that was entered and not yet left. -/
inductive Frame where
  /-- A struct before its stop tag. -/
  | fields
  /-- A collection with a number of items left. Items under an even number left have the first tag,
  the others the second, so that keys and values take turns. -/
  | items (first second : UInt8) (left : Nat)
  deriving DecidableEq, Repr

/-- The containers that are open, the innermost first, and how many more may be opened. -/
structure Skipper where
  frames : List Frame
  room : Nat
  deriving DecidableEq, Repr

namespace Skipper

variable {buf : ByteArray}

/-- No container is open and `limit` may be opened. -/
def idle (limit : Nat) : Skipper := ⟨[], limit⟩

/-- Open a container. The fault names the limit that all open containers share. -/
def enter (limit : Nat) (frame : Frame) (s : Skipper) : Read buf Skipper :=
  match s.room with
  | 0 => throw (.skipDepthExceeded limit)
  | room + 1 => return ⟨frame :: s.frames, room⟩

/-- The tag of the item that is next when a number of items is left. -/
def itemTag (first second : UInt8) (left : Nat) : UInt8 := if left % 2 = 0 then first else second

/-- The widths of two tags, if both are fixed. -/
def widths? (first second : UInt8) : Option (Nat × Nat) :=
  match Tag.widthOfByte? first, Tag.widthOfByte? second with
  | some a, some b => some (a, b)
  | _, _ => none

/-- Pass items that take turns between two tags: at once if both have a fixed width, one by one
otherwise. -/
def passItems (limit : Nat) (first second : UInt8) (count : Nat) (s : Skipper) : Read buf Skipper :=
  if count = 0 then return s
  else match widths? first second with
    | some (a, b) => do
      Read.advance (count / 2 * (a + b) + count % 2 * a)
      return s
    | none => enter limit (.items first second count) s

/-- Pass a value, or open it if it is a container. A negative count is no items. -/
def passValue (limit : Nat) (tag : UInt8) (s : Skipper) : Read buf Skipper :=
  match Tag.widthOfByte? tag with
  | some width => do
    Read.advance width
    return s
  | none =>
    match Tag.ofByte? tag with
    | some .string => do
      Read.skipString
      return s
    | some .struct => enter limit .fields s
    | some .map => do
      let key ← Read.uint8
      let value ← Read.uint8
      let count ← Read.int32
      passItems limit key value (2 * count.toNatClampNeg) s
    | some .set | some .list => do
      let item ← Read.uint8
      let count ← Read.int32
      passItems limit item item count.toNatClampNeg s
    | _ => throw (.unknownType tag)

/-- Go on by one field, one item or one end of a container. -/
def step (limit : Nat) (s : Skipper) : Read buf Skipper :=
  match s.frames with
  | [] => return s
  | .fields :: outer => do
    let tag ← Read.uint8
    if tag = Tag.stop.toByte then return ⟨outer, s.room + 1⟩
    else
      let _ ← Read.int16
      passValue limit tag s
  | .items _ _ 0 :: outer => return ⟨outer, s.room + 1⟩
  | .items first second (left + 1) :: outer =>
    passValue limit (itemTag first second (left + 1)) ⟨.items first second left :: outer, s.room⟩

end Skipper

end TaggedRpc
