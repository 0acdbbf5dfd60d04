import TaggedRpc.Proofs.Decode.Meets

/-!
# Boundaries of values

Decoding a value and skipping it end at the same place. Skipping is the walk with as much room, so
what follows decoding and what decoding meets is said of skipping.
-/

namespace TaggedRpc

namespace Decoder

variable {buf : ByteArray} {limits : Limits} {names : FieldNames} {depth room : Nat} {tag : UInt8}
  {s t : Decoder buf} {c : Cursor buf}

/-- A value that is decoded with synchronisation kept can be skipped with enough room. -/
theorem skipValue_of_read (skips : limits.skipUnbuilt) (le : depth + limits.maxSkipDepth ≤ room)
    {value : Value} (kept : s.desync = none)
    (outcome : (values limits names depth).read tag s = .ok value t) (final : t.desync = none) :
    Read.skipValue room tag s.cursor = .ok () t.cursor := by
  rw [Read.skipValue_eq_ok_iff]
  exact follows_values skips room le tag kept outcome final

/-- Decoding arrives where a value can be skipped with no more room than decoding skips it with. -/
theorem arrives_of_skipValue (skips : limits.skipUnbuilt) (le : room ≤ limits.maxSkipDepth)
    (kept : s.desync = none) (skipped : Read.skipValue room tag s.cursor = .ok () c) :
    Arrives c ((values limits names depth).read tag s) := by
  rw [Read.skipValue_eq_ok_iff] at skipped
  exact meets_values skips le depth tag kept skipped

private theorem fault_of_readField (skips : limits.skipUnbuilt) (kept : s.desync = none)
    {id : Int16} {fault : Fault} (outcome : (values limits names depth).read tag s = .error fault t)
    (final : (readField limits (values limits names depth) tag id s).2.desync = none) :
    ∃ length ceiling, fault = .lengthTooLarge length ceiling := by
  rw [readField_of_error outcome] at final
  have skipped : Read.skipValue limits.maxSkipDepth tag s.cursor = .ok () _ :=
    ok_of_skipOrLose (s := { t with cursor := s.cursor }) final
  have arrives : Arrives _ ((values limits names depth).read tag s) :=
    arrives_of_skipValue skips (Nat.le_refl _) kept skipped
  rw [outcome] at arrives
  cases arrives with
  | @error length ceiling => exact ⟨length, ceiling, rfl⟩

/-- Decoding and skipping agree on where values end. Where decoding a value keeps synchronisation,
skipping it with enough room ends at the same place. Where a value can be skipped, decoding it ends
at the same place, or refuses a length that is too large. So no other fault is kept in a field whose
value can be skipped. -/
theorem values_agree_skipValue (limits : Limits) (names : FieldNames) (depth : Nat) (tag : UInt8)
    (s : Decoder buf) (skips : limits.skipUnbuilt) (kept : s.desync = none) :
    (∀ value t, (values limits names depth).read tag s = .ok value t → t.desync = none →
      ∀ room, depth + limits.maxSkipDepth ≤ room →
        Read.skipValue room tag s.cursor = .ok () t.cursor) ∧
    (∀ room c, room ≤ limits.maxSkipDepth → Read.skipValue room tag s.cursor = .ok () c →
      (∃ value t, (values limits names depth).read tag s = .ok value t ∧
        t.desync = none ∧ t.cursor = c) ∨
      ∃ length ceiling t, (values limits names depth).read tag s =
        .error (.lengthTooLarge length ceiling) t ∧ t.desync = none) ∧
    ∀ id fault t, (values limits names depth).read tag s = .error fault t →
      (readField limits (values limits names depth) tag id s).2.desync = none →
        ∃ length ceiling, fault = .lengthTooLarge length ceiling := by
  refine ⟨?_, ?_, ?_⟩
  · intro value t outcome final room le
    exact skipValue_of_read skips le kept outcome final
  · intro room c le skipped
    have arrives : Arrives c ((values limits names depth).read tag s) :=
      arrives_of_skipValue skips le kept skipped
    cases outcome : (values limits names depth).read tag s with
    | ok value t =>
      rw [outcome] at arrives
      cases arrives with
      | ok place final => exact .inl ⟨value, t, rfl, final, place⟩
    | error fault t =>
      rw [outcome] at arrives
      cases arrives with
      | @error length ceiling _ final => exact .inr ⟨length, ceiling, t, rfl, final⟩
  · intro id fault t outcome final
    exact fault_of_readField skips kept outcome final

/-- A list of one short integer, with one byte behind it. -/
def shortList : ByteArray := ⟨#[6, 0, 0, 0, 1, 0, 7, 9]⟩

/-- Skipping a list ends where decoding it does. -/
theorem skipValue_shortList :
    Read.skipValue 258 Tag.list.toByte (.start shortList) = .ok () ⟨7, by decide⟩ := by
  refine (values_agree_skipValue {} .empty 2 Tag.list.toByte (.start shortList) rfl rfl).1
    (.list [.i16 7]) ⟨⟨7, by decide⟩, 1, none⟩ ?_ rfl 258 (by decide)
  rfl

end Decoder

end TaggedRpc
