/-!
# Cursors

A place in a byte buffer. The buffer is part of the type and the place never lies behind its end.
What is left to read is seen as a list of bytes (`Cursor.rest`).
-/

namespace TaggedRpc

/-- A place in a buffer. -/
structure Cursor (buf : ByteArray) where
  /-- The number of bytes before the place. -/
  pos : Nat
  /-- The place is not behind the end of the buffer. -/
  pos_le_size : pos ≤ buf.size
  deriving DecidableEq

namespace Cursor

variable {buf : ByteArray}

/-- Two places in a buffer with as many bytes before them are the same. -/
theorem ext {c d : Cursor buf} (same : c.pos = d.pos) : c = d := by
  cases c
  cases d
  cases same
  rfl

/-- The start of a buffer. -/
def start (buf : ByteArray) : Cursor buf := ⟨0, Nat.zero_le _⟩

/-- The number of bytes behind the place. -/
def remaining (c : Cursor buf) : Nat := buf.size - c.pos

/-- The bytes behind the place. -/
def rest (c : Cursor buf) : List UInt8 := buf.data.toList.drop c.pos

/-- The place with a number of bytes before it; the end if the buffer does not have as many. -/
def moveTo (_ : Cursor buf) (pos : Nat) : Cursor buf := ⟨min pos buf.size, Nat.min_le_right ..⟩

/-- The end of the buffer. -/
def toEnd (_ : Cursor buf) : Cursor buf := ⟨buf.size, Nat.le_refl _⟩

/-- The place `count` bytes on. -/
def forward (c : Cursor buf) (count : Nat) (enough : count ≤ c.remaining) : Cursor buf :=
  ⟨c.pos + count, by have := c.pos_le_size; unfold remaining at enough; omega⟩

/-- As many bytes remain as the view has. -/
theorem length_rest (c : Cursor buf) : c.rest.length = c.remaining := by
  simp [rest, remaining, ByteArray.size_data]

/-- The bytes before and behind the place are all the bytes. -/
theorem pos_add_remaining (c : Cursor buf) : c.pos + c.remaining = buf.size := by
  have := c.pos_le_size
  unfold remaining
  omega

/-- Moving on by some bytes drops them from the view. -/
theorem rest_forward (c : Cursor buf) (count : Nat) (enough : count ≤ c.remaining) :
    (c.forward count enough).rest = c.rest.drop count := by
  simp [rest, forward, List.drop_drop]

/-- Moving on counts the bytes passed. -/
@[simp] theorem pos_forward (c : Cursor buf) (count : Nat) (enough : count ≤ c.remaining) :
    (c.forward count enough).pos = c.pos + count := rfl

end Cursor

end TaggedRpc
