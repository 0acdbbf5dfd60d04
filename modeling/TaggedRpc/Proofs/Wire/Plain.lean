import TaggedRpc.Proofs.Wire.Machine

/-!
# Plain walks

A value passed by its type alone: numbers by their bytes, a struct field by field, a list item by
item, a map entry by entry with the key before the value. Open containers are the structs, and the
collections that have an item and not only item tags of fixed width. The walk knows no stack, no
countdown over keys and values and no runs of bytes, but skipping has its outcome
(`skipValue_eq_plain`).
-/

namespace TaggedRpc

namespace Walker

variable {buf : ByteArray}

/-- Do a read a number of times. -/
def times (read : Read buf Unit) : Nat → Read buf Unit
  | 0 => return
  | left + 1 => do
    read
    times read left

/-- Pass the entries of a collection that declares some item tags. It is an open container only if
it has entries and one of the tags is not of fixed width. -/
def entries (limit : Nat) (inner : Option (Walker buf)) (tags : List UInt8)
    (entry : Walker buf → Read buf Unit) (count : Nat) : Read buf Unit :=
  if count = 0 then return
  else if tags.all fun tag => (Tag.widthOfByte? tag).isSome then times (entry flat) count
  else within limit inner fun walker => times (entry walker) count

/-- Pass a value by its type, and what is in an open container by another walker. A negative count
is no entries. -/
def plainValue (limit : Nat) (inner : Option (Walker buf)) (tag : UInt8) : Read buf Unit :=
  match Tag.ofByte? tag with
  | none | some .stop => throw (.unknownType tag)
  | some .void => return
  | some .bool | some .byte => Read.advance 1
  | some .i16 => Read.advance 2
  | some .i32 => Read.advance 4
  | some .double | some .i64 => Read.advance 8
  | some .string => Read.skipString
  | some .struct => within limit inner fields
  | some .map => do
    let key ← Read.uint8
    let value ← Read.uint8
    let count ← Read.int32
    entries limit inner [key, value] (fun walker => do walker.pass key; walker.pass value)
      count.toNatClampNeg
  | some .set | some .list => do
    let item ← Read.uint8
    let count ← Read.int32
    entries limit inner [item] (fun walker => walker.pass item) count.toNatClampNeg

private theorem advance_zero : (Read.advance 0 : Read buf Unit) = pure () := by
  funext c
  exact dif_pos (Nat.zero_le _)

private theorem items_same (walker : Walker buf) (tag : UInt8) (count : Nat) :
    walker.items tag tag count = times (walker.pass tag) count := by
  induction count with
  | zero => rfl
  | succ left ih => rw [items_same_succ, times, ih]

private theorem items_pair (walker : Walker buf) (key value : UInt8) (count : Nat) :
    walker.items key value (2 * count) =
      times (do walker.pass key; walker.pass value) count := by
  induction count with
  | zero => rfl
  | succ left ih =>
    rw [items_pair_succ, times, ih]
    simp only [bind_assoc]

private theorem isSome_widths? (first second : UInt8) :
    (Skipper.widths? first second).isSome =
      ((Tag.widthOfByte? first).isSome && (Tag.widthOfByte? second).isSome) := by
  unfold Skipper.widths?
  cases Tag.widthOfByte? first <;> cases Tag.widthOfByte? second <;> rfl

variable (limit : Nat) (inner : Option (Walker buf))

private theorem entries_pair (key value : UInt8) (count : Nat) :
    entries limit inner [key, value] (fun walker => do walker.pass key; walker.pass value) count =
      collection limit inner key value (2 * count) := by
  have none_iff : 2 * count = 0 ↔ count = 0 := by omega
  unfold entries collection
  simp only [none_iff, isSome_widths?, items_pair, List.all_cons, List.all_nil, Bool.and_true]

private theorem entries_same (tag : UInt8) (count : Nat) :
    entries limit inner [tag] (fun walker => walker.pass tag) count =
      collection limit inner tag tag count := by
  unfold entries collection
  simp only [isSome_widths?, items_same, List.all_cons, List.all_nil, Bool.and_true, Bool.and_self]

/-- A value is passed by its type as it is passed by its tag. -/
theorem plainValue_eq (tag : UInt8) : plainValue limit inner tag = value limit inner tag := by
  unfold plainValue value Tag.widthOfByte?
  rcases Tag.ofByte? tag with _ | assigned
  · rfl
  cases assigned
  case void => exact advance_zero.symm
  case map =>
    simp only [entries_pair]
    rfl
  case set | list =>
    simp only [entries_same]
    rfl
  all_goals rfl

private theorem advances_plainValue (tag : UInt8) :
    Advances Cursor.pos 0 (plainValue limit inner tag) := by
  rw [plainValue_eq]
  exact advances_value limit inner tag

/-- The plain walk that may have `room` containers open at a time. -/
def plain (limit : Nat) : Nat → Walker buf
  | 0 => ⟨plainValue limit none, advances_plainValue limit none⟩
  | room + 1 =>
    ⟨plainValue limit (some (plain limit room)),
      advances_plainValue limit (some (plain limit room))⟩

/-- The plain walk passes what the walk by tags passes. -/
theorem plain_eq_ofRoom (limit room : Nat) :
    (plain limit room : Walker buf) = ofRoom limit room := by
  induction room with
  | zero =>
    unfold plain ofRoom
    simp only [funext (plainValue_eq limit none)]
  | succ room ih =>
    unfold plain ofRoom
    simp only [ih, funext (plainValue_eq limit (some (ofRoom limit room)))]

end Walker

namespace Read

variable {buf : ByteArray}

/-- Skipping a value has the outcome of the plain walk over it. -/
theorem interchangeable_plain (limit : Nat) (tag : UInt8) :
    Interchangeable (skipValue limit tag : Read buf Unit)
      ((Walker.plain limit limit).pass tag) := by
  rw [Walker.plain_eq_ofRoom]
  exact interchangeable_skipValue limit tag

/-- Skipping a value ends where the plain walk over it does. Where the walk fails skipping fails
alike, and stays where it was. -/
theorem skipValue_eq_plain (limit : Nat) (tag : UInt8) (c : Cursor buf) :
    match (Walker.plain limit limit).pass tag c with
    | .ok () d => skipValue limit tag c = .ok () d
    | .error fault _ => ∃ fault', skipValue limit tag c = .error fault' c ∧ fault'.Alike fault := by
  have same := interchangeable_plain limit tag c
  split
  · next walked => exact same.eq_ok_iff.mpr walked
  · next walked =>
    rw [walked] at same
    cases skipped : skipValue limit tag c with
    | ok a e =>
      rw [skipped] at same
      cases same
    | error fault' e =>
      rw [skipped] at same
      cases same with
      | error alike =>
        cases eq_of_skipValue_error skipped
        exact ⟨fault', rfl, alike⟩

end Read

end TaggedRpc
