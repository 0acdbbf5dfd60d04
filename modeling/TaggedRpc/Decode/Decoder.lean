import TaggedRpc.Decode.Desync
import TaggedRpc.Decode.Limits
import TaggedRpc.Text.Quoted
import TaggedRpc.Wire.Skip

/-!
# Decoders

The state of decoding a message: the place in the buffer, the number of collection entries built so
far, and why synchronisation was lost, if it was. Actions on a decoder fail with a fault or always
give a result; none moves the place back (`advances_reading`, `advances_giving`).
-/

namespace TaggedRpc

/-- The state of decoding a message in a buffer. -/
structure Decoder (buf : ByteArray) where
  /-- The place of what is read next. -/
  cursor : Cursor buf
  /-- The number of collection entries built so far. -/
  elements : Nat
  /-- Why the place of the next field is not known, if it is not. -/
  desync : Option Desync

/-- A decoding action that may fail with a fault. -/
abbrev Decode (buf : ByteArray) := EStateM Fault (Decoder buf)

namespace Decoder

variable {buf : ByteArray} {α : Type}

/-- A decoder at the start of a buffer. -/
def start (buf : ByteArray) : Decoder buf := ⟨.start buf, 0, none⟩

/-- The number of bytes before the place of a decoder. -/
def pos (s : Decoder buf) : Nat := s.cursor.pos

/-- A decoder that has lost synchronisation. -/
def lose (s : Decoder buf) (reason : Desync) : Decoder buf := { s with desync := some reason }

/-- Why the place of the next field is not known, in words. -/
def desyncReason (s : Decoder buf) : Option String := s.desync.map Desync.message

/-- A decoding action that reads from the buffer. -/
def reading (read : Read buf α) : Decode buf α := fun s =>
  match read s.cursor with
  | .ok a c => .ok a { s with cursor := c }
  | .error fault c => .error fault { s with cursor := c }

/-- A decoding action that always gives a result. -/
def giving (act : Decoder buf → α × Decoder buf) : Decode buf α := fun s =>
  let (a, t) := act s
  .ok a t

/-- A decoder that has skipped something, or that has lost synchronisation because it could not. -/
def skipOrLose (skip : Read buf Unit) (reason : Fault → Desync) (s : Decoder buf) : Decoder buf :=
  match skip s.cursor with
  | .ok () c => { s with cursor := c }
  | .error fault c => { s with cursor := c, desync := some (reason fault) }

/-- Reading from the buffer makes the progress of the read. -/
theorem advances_reading {n : Nat} {read : Read buf α} (advances : Advances Cursor.pos n read) :
    Advances pos n (reading read) := by
  intro s
  have step := advances s.cursor
  unfold reading
  cases outcome : read s.cursor <;> rw [outcome] at step <;> exact step

/-- An action that always gives a result does not move back if its state does not. -/
theorem advances_giving {act : Decoder buf → α × Decoder buf} (forth : ∀ s, s.pos ≤ (act s).2.pos) :
    Advances pos 0 (giving act) := fun s => forth s

/-- Skipping does not move back. -/
theorem pos_le_skipOrLose {skip : Read buf Unit} {reason : Fault → Desync} (s : Decoder buf)
    (forth : Advances Cursor.pos 0 skip) : s.pos ≤ (skipOrLose skip reason s).pos := by
  have step := forth s.cursor
  unfold skipOrLose
  cases outcome : skip s.cursor <;> rw [outcome] at step <;> exact step

end Decoder

end TaggedRpc
