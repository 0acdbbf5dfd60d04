import TaggedRpc.Proofs.Wire.Outcome
import TaggedRpc.Wire.Tag

/-!
# Spans of reads

The tag of a value says how far it goes (`Tag.Shape`). A read of fixed width succeeds exactly where
its bytes can be passed, and ends where they do (`Spans`). A string is read where it can be passed,
unless it is above the ceiling for strings (`string_of_skipString`).
-/

namespace TaggedRpc

/-- What the tag byte of a value says about the bytes of the value. -/
inductive Tag.Shape (b : UInt8) : Prop where
  /-- There are as many as the tag has for all values. -/
  | fixed {width : Nat} (fixed : widthOfByte? b = some width)
  /-- They are a string. -/
  | string (known : ofByte? b = some .string)
  /-- They are a struct. -/
  | struct (known : ofByte? b = some .struct)
  /-- They are a map. -/
  | map (known : ofByte? b = some .map)
  /-- They are a set. -/
  | set (known : ofByte? b = some .set)
  /-- They are a list. -/
  | list (known : ofByte? b = some .list)
  /-- Nothing. -/
  | unknown (unknown : ofByte? b = none ∨ ofByte? b = some .stop)

/-- Every tag byte has a shape. -/
theorem Tag.shape (b : UInt8) : Shape b := by
  rcases known : ofByte? b with _ | tag
  · exact .unknown (.inl known)
  cases tag
  case stop => exact .unknown (.inr known)
  case string => exact .string known
  case struct => exact .struct known
  case map => exact .map known
  case set => exact .set known
  case list => exact .list known
  all_goals
    apply Shape.fixed
    rw [widthOfByte?, known]
    rfl

namespace Read

variable {buf : ByteArray} {α β : Type}

/-- A read that succeeds exactly where some number of bytes can be passed, and ends behind them. -/
def Spans (read : Read buf α) (width : Nat) : Prop :=
  ∀ c d : Cursor buf, (∃ a, read c = .ok a d) ↔ advance width c = .ok () d

/-- A function of the result does not change the span. -/
theorem Spans.map {read : Read buf α} {width : Nat} (spans : Spans read width) (f : α → β) :
    Spans (f <$> read) width := by
  intro c d
  rw [← spans c d]
  constructor
  · rintro ⟨b, outcome⟩
    obtain ⟨a, outcome, -⟩ := map_eq_ok_iff.mp outcome
    exact ⟨a, outcome⟩
  · rintro ⟨a, outcome⟩
    exact ⟨f a, map_eq_ok_iff.mpr ⟨a, outcome, rfl⟩⟩

/-- Bytes span their number. -/
theorem spans_bytes (count : Nat) : Spans (bytes count : Read buf ByteArray) count := by
  intro c d
  unfold bytes advance
  split <;> simp

/-- A number spans its width. -/
theorem spans_natural (width : Nat) : Spans (natural width : Read buf Nat) width :=
  (spans_bytes width).map fun bytes => bigEndian bytes.data.toList

/-- An undone read succeeds where the read does. -/
theorem atomically_eq_ok_iff {read : Read buf α} {c d : Cursor buf} {a : α} :
    atomically read c = .ok a d ↔ read c = .ok a d :=
  (interchangeable_atomically read c).eq_ok_iff

private theorem atomically_of_error {read : Read buf α} {c d : Cursor buf} {fault : Fault}
    (failed : read c = .error fault d) : atomically read c = .error fault c := by
  rw [atomically, failed]

/-- A length under a ceiling is a length that is not above it. -/
theorem lengthUpTo_eq_ok_iff {ceiling n : Nat} {c d : Cursor buf} :
    lengthUpTo ceiling c = .ok n d ↔ length c = .ok n d ∧ n ≤ ceiling := by
  unfold lengthUpTo
  rw [atomically_eq_ok_iff, bind_eq_ok_iff]
  constructor
  · rintro ⟨m, e, read, rest⟩
    split at rest
    · exact absurd rest throw_ne_ok
    · obtain ⟨rfl, rfl⟩ := pure_eq_ok_iff.mp rest
      exact ⟨read, Nat.le_of_not_lt (by assumption)⟩
  · rintro ⟨read, le⟩
    refine ⟨n, d, read, ?_⟩
    rw [if_neg (Nat.not_lt_of_le le)]
    rfl

/-- A string that is read can be passed. -/
theorem skipString_of_string {c d : Cursor buf} {content : String}
    (read : string c = .ok content d) : skipString c = .ok () d := by
  unfold string at read
  unfold skipString
  rw [atomically_eq_ok_iff] at read ⊢
  obtain ⟨n, e, size, rest⟩ := bind_eq_ok_iff.mp read
  obtain ⟨content, f, body, rest⟩ := bind_eq_ok_iff.mp rest
  obtain ⟨-, rfl⟩ := pure_eq_ok_iff.mp rest
  rw [bind_of_ok (lengthUpTo_eq_ok_iff.mp size).1]
  exact (spans_bytes n e f).mp ⟨content, body⟩

/-- A string that is above the ceiling is not read. -/
theorem string_of_tooLong {c d : Cursor buf} {n : Nat} (size : length c = .ok n d)
    (large : stringCeiling < n) : string c = .error (.lengthTooLarge n stringCeiling) c := by
  have refused : lengthUpTo stringCeiling c = .error (.lengthTooLarge n stringCeiling) c := by
    refine atomically_of_error (d := d) ?_
    rw [bind_of_ok size, if_pos large]
    rfl
  exact atomically_of_error (bind_of_error refused)

/-- A string that can be passed is read, unless it is above the ceiling. -/
theorem string_of_skipString {c d : Cursor buf} (passed : skipString c = .ok () d) :
    (∃ content, string c = .ok content d) ∨
      ∃ n, string c = .error (.lengthTooLarge n stringCeiling) c := by
  unfold skipString at passed
  rw [atomically_eq_ok_iff] at passed
  obtain ⟨n, e, size, rest⟩ := bind_eq_ok_iff.mp passed
  by_cases fits : n ≤ stringCeiling
  · left
    obtain ⟨content, body⟩ := (spans_bytes n e d).mpr rest
    refine ⟨Text.ofBytes content, ?_⟩
    unfold string
    rw [atomically_eq_ok_iff, bind_of_ok (lengthUpTo_eq_ok_iff.mpr ⟨size, fits⟩), bind_of_ok body]
    rfl
  · exact .inr ⟨n, string_of_tooLong size (Nat.lt_of_not_le fits)⟩

end Read

end TaggedRpc
