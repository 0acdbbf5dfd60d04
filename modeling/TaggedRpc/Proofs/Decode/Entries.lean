import TaggedRpc.Proofs.Decode.Outcome

/-!
# Fields one after another

Reading the fields of a struct goes from one field to the next. It reaches the end of a field by
reading those before (`Reaches`), comes to the value of the next one by its header (`ComesTo`), and
whatever fields came before, it puts the same ones in front of them (`EntriesFrom`).
-/

namespace TaggedRpc

namespace Decoder

variable {buf : ByteArray}

/-- Reading fields reaches the end of a field, or its start: after the fields of `done` a decoder
goes through the fields that `before` has in front of them. -/
inductive Reaches (limits : Limits) (names : FieldNames) (values : ValueReader buf) :
    List (String × Field) → Decoder buf → List (String × Field) → Decoder buf → Prop where
  | here {done : List (String × Field)} {s : Decoder buf} (kept : s.desync = none) :
    Reaches limits names values done s done s
  | next {done before : List (String × Field)} {s t : Decoder buf} {c : Cursor buf} {tag : UInt8}
    {id : Int16} (kept : s.desync = none) (header : readHeader s.cursor = .ok (some (tag, id)) c)
    (rest : Reaches limits names values
      ((names.keyFor id, (readField limits values tag id { s with cursor := c }).1) :: done)
      (readField limits values tag id { s with cursor := c }).2 before t) :
    Reaches limits names values done s before t

/-- Reading fields comes to the value of a field: after the fields of `done` a decoder goes through
the fields that `before` has in front of them, and then the header of the field is read. -/
inductive ComesTo (limits : Limits) (names : FieldNames) (values : ValueReader buf) :
    List (String × Field) → Decoder buf → List (String × Field) → UInt8 → Int16 → Decoder buf →
      Prop where
  | here {done : List (String × Field)} {s : Decoder buf} {c : Cursor buf} {tag : UInt8}
    {id : Int16} (kept : s.desync = none) (header : readHeader s.cursor = .ok (some (tag, id)) c) :
    ComesTo limits names values done s done tag id { s with cursor := c }
  | next {done before : List (String × Field)} {s t : Decoder buf} {c : Cursor buf}
    {tag tag' : UInt8} {id id' : Int16} (kept : s.desync = none)
    (header : readHeader s.cursor = .ok (some (tag, id)) c)
    (rest : ComesTo limits names values
      ((names.keyFor id, (readField limits values tag id { s with cursor := c }).1) :: done)
      (readField limits values tag id { s with cursor := c }).2 before tag' id' t) :
    ComesTo limits names values done s before tag' id' t

/-- From a decoder reading fields puts `new` in front of those that come before, whatever these are,
and leaves another decoder. -/
def EntriesFrom (limits : Limits) (names : FieldNames) (values : ValueReader buf) (s : Decoder buf)
    (new : List (String × Field)) (t : Decoder buf) : Prop :=
  ∀ done, readEntries limits names values done s = (new ++ done, t)

variable {limits : Limits} {names : FieldNames} {values : ValueReader buf}
  {done new before before' : List (String × Field)} {s t u : Decoder buf} {tag tag' : UInt8}
  {id id' : Int16}

/-- Synchronisation is kept where reading fields reaches a field from. -/
theorem Reaches.kept (reaches : Reaches limits names values done s before t) :
    s.desync = none := by
  cases reaches <;> assumption

/-- Synchronisation is kept where reading fields reaches a field. -/
theorem Reaches.kept' (reaches : Reaches limits names values done s before t) :
    t.desync = none := by
  induction reaches with
  | here kept => exact kept
  | next _ _ _ ih => exact ih

/-- Reading fields goes on from where it reaches a field. -/
theorem Reaches.readEntries_eq (reaches : Reaches limits names values done s before t) :
    readEntries limits names values done s = readEntries limits names values before t := by
  induction reaches with
  | here => rfl
  | next kept header _ ih => rw [readEntries_of_field kept header, ih]

/-- Reaching a field does not move back. -/
theorem Reaches.remaining_le (reaches : Reaches limits names values done s before t) :
    t.cursor.remaining ≤ s.cursor.remaining := by
  induction reaches with
  | here => exact Nat.le_refl _
  | @next done before s t c tag id kept header _ ih =>
    have read : giving (readField limits values tag id) { s with cursor := c } = .ok _ _ := rfl
    exact Nat.le_trans ih (Nat.le_of_lt (remaining_lt_of_field header read))

/-- Reading fields comes to a value exactly if it reaches the field and reads its header. -/
theorem comesTo_iff :
    ComesTo limits names values done s before tag id t ↔
      ∃ u c, Reaches limits names values done s before u ∧
        readHeader u.cursor = .ok (some (tag, id)) c ∧ t = { u with cursor := c } := by
  constructor
  · intro comes
    induction comes with
    | here kept header => exact ⟨_, _, .here kept, header, rfl⟩
    | next kept header _ ih =>
      obtain ⟨u, c, reaches, last, same⟩ := ih
      exact ⟨u, c, .next kept header reaches, last, same⟩
  · rintro ⟨u, c, reaches, last, rfl⟩
    induction reaches with
    | here kept => exact .here kept last
    | next kept header _ ih => exact .next kept header (ih last)

/-- Synchronisation is kept where reading fields comes to a value. -/
theorem ComesTo.kept' (comes : ComesTo limits names values done s before tag id t) :
    t.desync = none := by
  obtain ⟨u, c, reaches, -, rfl⟩ := comesTo_iff.mp comes
  exact reaches.kept'

/-- Reading fields goes on with the value that it comes to. -/
theorem ComesTo.readEntries_eq (comes : ComesTo limits names values done s before tag id t) :
    readEntries limits names values done s =
      readEntries limits names values
        ((names.keyFor id, (readField limits values tag id t).1) :: before)
        (readField limits values tag id t).2 := by
  obtain ⟨u, c, reaches, header, rfl⟩ := comesTo_iff.mp comes
  rw [reaches.readEntries_eq, readEntries_of_field reaches.kept' header]

/-- What reading fields comes to behind a field that it comes to, it comes to from the start. -/
theorem ComesTo.trans (first : ComesTo limits names values done s before tag id t)
    (second : ComesTo limits names values
      ((names.keyFor id, (readField limits values tag id t).1) :: before)
      (readField limits values tag id t).2 before' tag' id' u) :
    ComesTo limits names values done s before' tag' id' u := by
  induction first with
  | here kept header => exact .next kept header second
  | next kept header _ ih => exact .next kept header (ih second)

/-- Reading the header of a field moves on. -/
theorem remaining_le_of_header {content : Option (UInt8 × Int16)} {c d : Cursor buf}
    (header : readHeader c = .ok content d) : d.remaining ≤ c.remaining := by
  have moved := advances_readHeader.le_of_ok header
  have before := c.pos_add_remaining
  have after := d.pos_add_remaining
  omega

/-- Coming to a value does not move back. -/
theorem ComesTo.remaining_le (comes : ComesTo limits names values done s before tag id t) :
    t.cursor.remaining ≤ s.cursor.remaining := by
  obtain ⟨u, c, reaches, header, rfl⟩ := comesTo_iff.mp comes
  exact Nat.le_trans (remaining_le_of_header header) reaches.remaining_le

/-- Reading fields always puts some in front of those before. -/
theorem exists_entriesFrom (limits : Limits) (names : FieldNames) (values : ValueReader buf)
    (s : Decoder buf) : ∃ new t, EntriesFrom limits names values s new t := by
  induction size : s.cursor.remaining using Nat.strongRecOn generalizing s with
  | ind size ih =>
    by_cases kept : s.desync = none
    · cases header : readHeader s.cursor with
      | error fault c => exact ⟨[], _, fun _ => readEntries_of_error kept header⟩
      | ok content c =>
        rcases content with _ | ⟨tag, id⟩
        · exact ⟨[], _, fun _ => readEntries_of_stop kept header⟩
        · obtain ⟨field, u, read⟩ : ∃ field u,
              readField limits values tag id { s with cursor := c } = (field, u) := ⟨_, _, rfl⟩
          have less := remaining_lt_of_field header (giving_eq_ok_iff.mpr read)
          obtain ⟨new, t, rest⟩ := ih _ (size ▸ less) u rfl
          refine ⟨new ++ [(names.keyFor id, field)], t, fun done => ?_⟩
          rw [readEntries_of_field kept header, read, rest, List.append_assoc,
            List.singleton_append]
    · have lost := Option.isSome_iff_ne_none.mpr kept
      exact ⟨[], s, fun _ => giving_eq_ok_iff.mp (giving_readEntries_of_lost lost)⟩

/-- What reading fields puts in front of some fields it puts in front of all. -/
theorem EntriesFrom.of_eq (read : readEntries limits names values done s = (new ++ done, t)) :
    EntriesFrom limits names values s new t := by
  obtain ⟨new', t', entries⟩ := exists_entriesFrom limits names values s
  rw [entries, Prod.mk.injEq, List.append_cancel_right_eq] at read
  obtain ⟨rfl, rfl⟩ := read
  exact entries

/-- Synchronisation is kept where fields are read from, if it is kept behind them. -/
theorem EntriesFrom.kept (entries : EntriesFrom limits names values s new t)
    (final : t.desync = none) : s.desync = none := by
  refine Option.not_isSome_iff_eq_none.mp fun lost => ?_
  have stops : readEntries limits names values [] s = ([], s) :=
    giving_eq_ok_iff.mp (giving_readEntries_of_lost lost)
  rw [entries, Prod.mk.injEq] at stops
  rw [← stops.2, final] at lost
  cases lost

/-- The fields of a struct are those up to where a field is reached, and those from there on. -/
theorem readFields_of_reaches {v : Decoder buf}
    (reaches : Reaches limits names values [] s before t)
    (entries : EntriesFrom limits names values t new v) :
    readFields limits names values s =
      ({ Fields.ofList (before.reverse ++ new.reverse) with incomplete := v.desyncReason }, v) := by
  rw [readFields, reaches.readEntries_eq, entries, List.reverse_append]

/-- The fields of a struct are those that come before a field, the field, and those that come
behind. -/
theorem readFields_of_comesTo {v : Decoder buf} {field : Field}
    (comes : ComesTo limits names values [] s before tag id t)
    (read : readField limits values tag id t = (field, u))
    (entries : EntriesFrom limits names values u new v) :
    readFields limits names values s =
      ({ Fields.ofList (before.reverse ++ (names.keyFor id, field) :: new.reverse) with
        incomplete := v.desyncReason }, v) := by
  rw [readFields, comes.readEntries_eq, read, entries, List.reverse_append, List.reverse_cons,
    List.append_assoc, List.singleton_append]

end Decoder

end TaggedRpc
