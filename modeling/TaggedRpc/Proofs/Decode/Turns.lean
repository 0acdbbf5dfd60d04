import TaggedRpc.Proofs.Decode.Outcome
import TaggedRpc.Proofs.Tree.Subvalues
import TaggedRpc.Proofs.Wire.Spans

/-!
# Decoding turn by turn

Everything that decoding does in a row it does in turns: it reads something, and goes on from there
unless synchronisation is lost (`turn`). Items, map entries and fields are collected by one loop
(`collect`) that differs in what is read in one turn, and maps, sets and lists are collections of
one kind (`readCollection`). So what is to be shown of all values needs to be shown of a turn, of
the loop, and of the forms of values (`values_induction`).
-/

namespace TaggedRpc

namespace Decoder

variable {buf : ByteArray} {α β γ ε : Type}

/-- Do something, and go on from what it gives unless synchronisation is lost. -/
def turn (act : Decode buf α) (stop : α → β) (go : α → Decode buf β) : Decode buf β := do
  let a ← act
  if (← get).desync.isSome then return stop a else go a

section Turn

variable {act : Decode buf α} {stop : α → β} {go : α → Decode buf β} {s t : Decoder buf} {a : α}
  {fault : Fault}

/-- A turn fails if what it does first fails. -/
theorem turn_of_error (failed : act s = .error fault t) : turn act stop go s = .error fault t := by
  rw [turn, bind_of_error failed]

/-- A turn stops where what it does first loses synchronisation. -/
theorem turn_of_lost (done : act s = .ok a t) (lost : t.desync.isSome) :
    turn act stop go s = .ok (stop a) t := by
  rw [turn, bind_of_ok done, stop_of_lost lost]
  rfl

/-- A turn goes on where what it does first keeps synchronisation. -/
theorem turn_of_kept (done : act s = .ok a t) (kept : t.desync = none) :
    turn act stop go s = go a t := by
  rw [turn, bind_of_ok done, go_of_kept kept]

/-- A turn that succeeds stopped where synchronisation was lost, or went on where it was kept. -/
theorem turn_eq_ok {b : β} (outcome : turn act stop go s = .ok b t) :
    ∃ a u, act s = .ok a u ∧
      (u.desync ≠ none ∧ stop a = b ∧ u = t ∨ u.desync = none ∧ go a u = .ok b t) := by
  cases done : act s with
  | error fault u =>
    rw [turn_of_error done] at outcome
    cases outcome
  | ok a u =>
    by_cases kept : u.desync = none
    · rw [turn_of_kept done kept] at outcome
      exact ⟨a, u, rfl, .inr ⟨kept, outcome⟩⟩
    · rw [turn_of_lost done (Option.isSome_iff_ne_none.mpr kept)] at outcome
      cases outcome
      exact ⟨a, _, rfl, .inl ⟨kept, rfl, rfl⟩⟩

/-- Where synchronisation is kept in the end, it was kept before going on. -/
theorem turn_kept {b : β} (outcome : turn act stop go s = .ok b t) (final : t.desync = none) :
    ∃ a u, act s = .ok a u ∧ u.desync = none ∧ go a u = .ok b t := by
  obtain ⟨a, u, done, ⟨lost, -, rfl⟩ | ⟨kept, rest⟩⟩ := turn_eq_ok outcome
  · exact absurd final lost
  · exact ⟨a, u, done, kept, rest⟩

/-- A function of a result makes the same of it in either case. -/
theorem map_eq_turn (f : α → β) (act : Decode buf α) :
    f <$> act = turn act f fun a => return f a := by
  funext s
  simp only [turn, ite_self]
  change EStateM.map f act s = EStateM.bind act _ s
  unfold EStateM.map EStateM.bind
  cases act s <;> rfl

private theorem turn_map {act : Decode buf γ} (f : γ → α) :
    turn (f <$> act) stop go = turn act (fun c => stop (f c)) fun c => go (f c) := by
  rw [turn, turn, bind_map_left]

private theorem turn_eq_of_eq {act' : Decode buf α} (same : act s = act' t) :
    turn act stop go s = turn act' stop go t := by
  change EStateM.bind act _ s = EStateM.bind act' _ t
  rw [EStateM.bind, EStateM.bind, same]

private theorem turn_turn {act : Decode buf γ} {first : γ → α} {next : γ → Decode buf α} :
    turn (turn act first next) stop go =
      turn act (fun c => stop (first c)) fun c => turn (next c) stop go := by
  funext s
  cases done : act s with
  | error fault t =>
    have failed : turn act first next s = .error fault t := turn_of_error done
    rw [turn_of_error failed, turn_of_error done]
  | ok c t =>
    by_cases kept : t.desync = none
    · have same : turn act first next s = next c t := turn_of_kept done kept
      rw [turn_of_kept done kept, turn_eq_of_eq same]
    · have lost := Option.isSome_iff_ne_none.mpr kept
      have stopped : turn act first next s = .ok (first c) t := turn_of_lost done lost
      rw [turn_of_lost stopped lost, turn_of_lost done lost]

end Turn

/-! ## Entries one after another -/

/-- Read up to a number of entries, after those of `done` in reverse, until none comes or
synchronisation is lost. -/
def collect (entry : Decode buf (Option ε)) (done : List ε) : Nat → Decode buf (List ε)
  | 0 => return done.reverse
  | left + 1 => turn entry (fun last => (last.toList ++ done).reverse) fun
    | none => return done.reverse
    | some next => collect entry (next :: done) left

/-- Entries that only fail to come where synchronisation is lost. -/
def Whole (entry : Decode buf (Option ε)) : Prop :=
  ∀ ⦃s t : Decoder buf⦄, entry s = .ok none t → t.desync.isSome

section Collect

variable {entry : Decode buf (Option ε)} {done : List ε} {left : Nat} {s t : Decoder buf} {e : ε}

private theorem collect_of_none (read : entry s = .ok none t) :
    collect entry done (left + 1) s = .ok done.reverse t := by
  rw [collect]
  by_cases kept : t.desync = none
  · rw [turn_of_kept read kept]
    rfl
  · rw [turn_of_lost read (Option.isSome_iff_ne_none.mpr kept)]
    rfl

private theorem collect_of_lost (read : entry s = .ok (some e) t) (lost : t.desync.isSome) :
    collect entry done (left + 1) s = .ok (e :: done).reverse t := by
  rw [collect, turn_of_lost read lost]
  rfl

/-- An entry that keeps synchronisation is followed by the next ones. -/
theorem collect_of_kept (read : entry s = .ok (some e) t) (kept : t.desync = none) :
    collect entry done (left + 1) s = collect entry (e :: done) left t := by
  rw [collect, turn_of_kept read kept]

/-- Whole entries that keep synchronisation have a first one that does, and go on after it. -/
theorem collect_kept {all : List ε} (whole : Whole entry)
    (outcome : collect entry done (left + 1) s = .ok all t) (final : t.desync = none) :
    ∃ e u, entry s = .ok (some e) u ∧ u.desync = none ∧
      collect entry (e :: done) left u = .ok all t := by
  rw [collect] at outcome
  obtain ⟨next, u, read, kept, rest⟩ := turn_kept outcome final
  cases next with
  | none =>
    have lost := whole read
    rw [kept] at lost
    cases lost
  | some e => exact ⟨e, u, read, kept, rest⟩

end Collect

/-! ## Collections -/

/-- Read an item of a set or a list. -/
def readItem (values : ValueReader buf) (tag : UInt8) : Decode buf (Option Value) :=
  some <$> values.read tag

/-- Read an entry of a map. A key that loses synchronisation is dropped. -/
def readPair (values : ValueReader buf) (keyTag valueTag : UInt8) :
    Decode buf (Option (Value × Value)) :=
  turn (values.read keyTag) (fun _ => none) fun key =>
    (fun value => some (key, value)) <$> values.read valueTag

/-- What comes before the entries of a collection: the tags of what is in an entry, and the number
of entries. The items of a set or a list have one tag, which stands in both places. -/
structure CollectionHeader where
  first : UInt8
  second : UInt8
  count : Int32

/-- Read what comes before the entries of a map. -/
def mapHeader : Read buf CollectionHeader := do
  let keyTag ← Read.uint8
  let valueTag ← Read.uint8
  let count ← Read.int32
  return ⟨keyTag, valueTag, count⟩

/-- Read what comes before the items of a set or a list. -/
def sequenceHeader : Read buf CollectionHeader := do
  let tag ← Read.uint8
  let count ← Read.int32
  return ⟨tag, tag, count⟩

theorem advances_mapHeader : Advances Cursor.pos 6 (mapHeader : Read buf CollectionHeader) :=
  Read.advances_uint8.bind fun _ => Read.advances_uint8.bind fun _ =>
    Read.advances_int32.bind fun _ => Advances.pure _

theorem advances_sequenceHeader :
    Advances Cursor.pos 5 (sequenceHeader : Read buf CollectionHeader) :=
  Read.advances_uint8.bind fun _ => Read.advances_int32.bind fun _ => Advances.pure _

/-- The tag bytes of sets and lists, with their kind and what is made of the items. -/
inductive Sequence : UInt8 → CollectionKind → (List Value → Value) → Prop where
  | set {tag : UInt8} (known : Tag.ofByte? tag = some .set) : Sequence tag .set .set
  | list {tag : UInt8} (known : Tag.ofByte? tag = some .list) : Sequence tag .list .list

/-- Read a collection: what comes before its entries, and then the entries if they are within the
limits. -/
def readCollection (limits : Limits) (kind : CollectionKind) (header : Read buf CollectionHeader)
    (entry : UInt8 → UInt8 → Decode buf (Option ε)) (build : List ε → Value) : Decode buf Value :=
  reading header >>= fun h => withinLimits limits kind h.first h.second h.count fun size =>
    build <$> collect (entry h.first h.second) [] size

section Collections

variable {limits : Limits} (values : ValueReader buf)

/-- Items are collected. -/
theorem readItems_eq (tag : UInt8) (done : List Value) (size : Nat) :
    readItems values tag done size = collect (readItem values tag) done size := by
  induction size generalizing done with
  | zero => rfl
  | succ left ih =>
    rw [collect, readItem, turn_map, ← readItem]
    simp only [← ih]
    rfl

/-- Map entries are collected. -/
theorem readPairs_eq (keyTag valueTag : UInt8) (done : List (Value × Value)) (size : Nat) :
    readPairs values keyTag valueTag done size =
      collect (readPair values keyTag valueTag) done size := by
  induction size generalizing done with
  | zero => rfl
  | succ left ih =>
    rw [collect, readPair, turn_turn, ← readPair]
    simp only [turn_map, ← ih]
    rfl

private theorem reading_bind (read : Read buf α) (next : α → Read buf β) :
    reading (read >>= next) = reading read >>= fun a => reading (next a) := by
  funext s
  cases outcome : read s.cursor with
  | error fault c =>
    rw [bind_of_error (reading_eq_error_iff.mpr ⟨c, outcome, rfl⟩), reading, bind_of_error outcome]
  | ok a c =>
    rw [bind_of_ok (reading_of_ok outcome), reading, bind_of_ok outcome]
    rfl

private theorem reading_pure (a : α) : (reading (pure a) : Decode buf α) = pure a := rfl

/-- A map is a collection of keys and values. -/
theorem readMap_eq :
    readMap limits values = readCollection limits .map mapHeader (readPair values) .map := by
  simp only [readCollection, mapHeader, reading_bind, reading_pure, bind_assoc, pure_bind,
    ← readPairs_eq]
  rfl

/-- A set or a list is a collection of items. -/
theorem readSequence_eq (kind : CollectionKind) (build : List Value → Value) :
    readSequence limits values kind build =
      readCollection limits kind sequenceHeader (fun tag _ => readItem values tag) build := by
  simp only [readCollection, sequenceHeader, reading_bind, reading_pure, bind_assoc, pure_bind,
    ← readItems_eq]
  rfl

variable {values}

/-- An item that can be read comes. -/
theorem whole_readItem (tag : UInt8) : Whole (readItem values tag) := by
  intro s t outcome
  obtain ⟨item, -, same⟩ := map_eq_ok_iff.mp outcome
  cases same

/-- A map entry comes unless its key loses synchronisation. -/
theorem whole_readPair (keyTag valueTag : UInt8) : Whole (readPair values keyTag valueTag) := by
  intro s t outcome
  refine Option.isSome_iff_ne_none.mpr fun kept => ?_
  obtain ⟨key, u, -, -, rest⟩ := turn_kept outcome kept
  obtain ⟨value, -, same⟩ := map_eq_ok_iff.mp rest
  cases same

end Collections

/-! ## Structs -/

/-- Read the header of a field. If that fails synchronisation is lost, and no field comes. -/
def nextHeader (s : Decoder buf) : Option (UInt8 × Int16) × Decoder buf :=
  match readHeader s.cursor with
  | .ok header c => (header, { s with cursor := c })
  | .error fault c => (none, { s with cursor := c, desync := some (.header fault) })

/-- Read a field and give it its key, if another one comes. -/
def readEntry (limits : Limits) (names : FieldNames) (values : ValueReader buf) :
    Decode buf (Option (String × Field)) :=
  turn (giving nextHeader) (fun _ => none) fun
    | none => return none
    | some (tag, id) =>
      (fun field => some (names.keyFor id, field)) <$> giving (readField limits values tag id)

/-- Collect fields, unless synchronisation is lost before. -/
def collectFields (limits : Limits) (names : FieldNames) (values : ValueReader buf)
    (done : List (String × Field)) (size : Nat) : Decode buf (List (String × Field)) :=
  turn (return ()) (fun _ => done.reverse) fun _ =>
    collect (readEntry limits names values) done size

section Structs

variable {limits : Limits} {names : FieldNames} {values : ValueReader buf}
  {done : List (String × Field)} {s : Decoder buf} {c : Cursor buf} {size : Nat}

theorem nextHeader_of_ok {header : Option (UInt8 × Int16)}
    (read : readHeader s.cursor = .ok header c) :
    nextHeader s = (header, { s with cursor := c }) := by
  rw [nextHeader, read]

theorem nextHeader_of_error {fault : Fault} (failed : readHeader s.cursor = .error fault c) :
    nextHeader s = (none, { s with cursor := c, desync := some (.header fault) }) := by
  rw [nextHeader, failed]

/-- A header that keeps synchronisation was read. -/
theorem readHeader_of_kept {header : Option (UInt8 × Int16)} {t : Decoder buf}
    (next : giving nextHeader s = .ok header t) (kept : t.desync = none) :
    ∃ c, readHeader s.cursor = .ok header c ∧ t = { s with cursor := c } := by
  rw [giving_eq_ok_iff] at next
  cases read : readHeader s.cursor with
  | error fault c =>
    rw [nextHeader_of_error read] at next
    cases next
    cases kept
  | ok header c =>
    rw [nextHeader_of_ok read] at next
    cases next
    exact ⟨c, rfl, rfl⟩

private theorem collect_readEntry (kept : s.desync = none) (enough : s.cursor.remaining < size) :
    collect (readEntry limits names values) done size s =
      .ok (readEntries limits names values done s).1.reverse
        (readEntries limits names values done s).2 := by
  -- Every field brings bytes, so the fields end before the turns do.
  induction size generalizing done s with
  | zero => exact absurd enough (Nat.not_lt_zero _)
  | succ size ih =>
    cases header : readHeader s.cursor with
    | error fault c =>
      have next := giving_eq_ok_iff.mpr (nextHeader_of_error header)
      rw [readEntries_of_error kept header]
      exact collect_of_none (turn_of_lost next rfl)
    | ok content c =>
      have next := giving_eq_ok_iff.mpr (nextHeader_of_ok header)
      rcases content with _ | ⟨tag, id⟩
      · rw [readEntries_of_stop kept header]
        exact collect_of_none (turn_of_kept next kept)
      · obtain ⟨field, t, one⟩ : ∃ field t,
            giving (readField limits values tag id) { s with cursor := c } = .ok field t :=
          ⟨_, _, rfl⟩
        have read : readEntry limits names values s = .ok (some (names.keyFor id, field)) t :=
          (turn_of_kept next kept).trans (map_eq_ok_iff.mpr ⟨field, one, rfl⟩)
        have less := remaining_lt_of_field header one
        rw [readEntries_of_field kept header, giving_eq_ok_iff.mp one]
        by_cases going : t.desync = none
        · rw [collect_of_kept read going]
          exact ih going (by omega)
        · have lost := Option.isSome_iff_ne_none.mpr going
          rw [giving_eq_ok_iff.mp (giving_readEntries_of_lost lost)]
          exact collect_of_lost read lost

/-- Where synchronisation is kept, fields are collected. -/
theorem collectFields_of_kept (kept : s.desync = none) :
    collectFields limits names values done size s =
      collect (readEntry limits names values) done size s := turn_of_kept rfl kept

/-- More turns than there are bytes collect all fields of a struct. -/
theorem collectFields_eq_ok (enough : buf.size < size) (s : Decoder buf) :
    collectFields limits names values done size s =
      .ok (readEntries limits names values done s).1.reverse
        (readEntries limits names values done s).2 := by
  by_cases kept : s.desync = none
  · have within := s.cursor.pos_add_remaining
    rw [collectFields_of_kept kept]
    exact collect_readEntry kept (by omega)
  · have lost := Option.isSome_iff_ne_none.mpr kept
    rw [giving_eq_ok_iff.mp (giving_readEntries_of_lost lost)]
    exact turn_of_lost rfl lost

/-- Fields are collected like other entries. -/
theorem giving_readEntries_eq (enough : buf.size < size) :
    giving (readEntries limits names values done) =
      List.reverse <$> collectFields limits names values done size := by
  funext s
  exact (map_eq_ok_iff.mpr ⟨_, collectFields_eq_ok enough s, List.reverse_reverse _⟩).symm

/-- The fields of a struct are made of those that are collected. -/
theorem exists_collected (limits : Limits) (names : FieldNames) (values : ValueReader buf)
    (enough : buf.size < size) (s : Decoder buf) :
    ∃ entries t, collectFields limits names values [] size s = .ok entries t ∧
      giving (readFields limits names values) s =
        .ok { Fields.ofList entries with incomplete := t.desyncReason } t :=
  ⟨_, _, collectFields_eq_ok enough s, rfl⟩

end Structs

/-! ## Values -/

/-- No level of nesting is left for a value, or none for its fields if it is a struct. -/
def NoLevel (depth : Nat) (tag : UInt8) : Prop :=
  depth = 0 ∨ depth = 1 ∧ Tag.ofByte? tag = some .struct

/-- The value of fixed width that the bytes after a tag byte spell a number for. -/
def fixedValue (tag : UInt8) (n : Nat) : Value :=
  match Tag.ofByte? tag with
  | some .bool => .bool (Int8.ofNat n != 0)
  | some .byte => .i8 (.ofNat n)
  | some .double => .double ⟨.ofNat n⟩
  | some .i16 => .i16 (.ofNat n)
  | some .i32 => .i32 (.ofNat n)
  | some .i64 => .i64 (.ofNat n)
  | _ => .placeholder .void

/-- No values are inside a value of fixed width. -/
theorem isLeaf_fixedValue (tag : UInt8) (n : Nat) : (fixedValue tag n).isLeaf := by
  unfold fixedValue
  split <;> rfl

section Values

variable {limits : Limits} {names : FieldNames} {depth : Nat} {tag : UInt8}

/-- Without a level of nesting something stands in for the value. -/
theorem read_of_noLevel (deep : NoLevel depth tag) :
    (values limits names depth : ValueReader buf).read tag = giving (tooDeep limits tag) := by
  rcases deep with rfl | ⟨rfl, known⟩
  · rfl
  · change readValue limits names 0 (values limits names 0) tag = _
    rw [readValue_of_struct _ _ _ _ known, if_pos rfl]

theorem read_of_unknown (unknown : Tag.ofByte? tag = none ∨ Tag.ofByte? tag = some .stop) :
    (values limits names (depth + 1) : ValueReader buf).read tag = giving (unknownType tag) :=
  readValue_of_unknown _ _ _ _ unknown

private theorem reading_map (f : α → β) (read : Read buf α) :
    (reading (f <$> read) : Decode buf β) = f <$> reading read := by
  simp only [map_eq_pure_bind, reading_bind, reading_pure]

private theorem map_reading_natural_zero (a : α) :
    ((fun _ => a) <$> reading (Read.natural 0) : Decode buf α) = pure a := by
  funext s
  have nothing : Read.bytes 0 s.cursor = .ok _ (s.cursor.forward 0 (Nat.zero_le _)) :=
    dif_pos (Nat.zero_le _)
  have read : Read.natural 0 s.cursor = .ok _ (s.cursor.forward 0 (Nat.zero_le _)) :=
    bind_of_ok nothing
  exact map_eq_ok_iff.mpr ⟨_, reading_of_ok read, rfl⟩

/-- A value of fixed width is made of the number that its bytes spell. -/
theorem read_of_fixed {width : Nat} (fixed : Tag.widthOfByte? tag = some width) :
    (values limits names (depth + 1) : ValueReader buf).read tag =
      fixedValue tag <$> reading (Read.natural width) := by
  change readValue limits names depth (values limits names depth) tag = _
  unfold readValue fixedValue
  rcases known : Tag.ofByte? tag with _ | assigned <;> rw [Tag.widthOfByte?, known] at fixed
  · cases fixed
  cases assigned <;> cases fixed
  case some.void.refl => exact (map_reading_natural_zero _).symm
  all_goals
    simp only [Read.int8, Read.int16, Read.int32, Read.int64, Read.double, reading_map,
      Functor.map_map]

theorem read_of_string (known : Tag.ofByte? tag = some .string) :
    (values limits names (depth + 1) : ValueReader buf).read tag =
      .text <$> reading Read.string := readValue_of_string _ _ _ _ known

theorem read_of_struct (known : Tag.ofByte? tag = some .struct) (left : depth ≠ 0) :
    (values limits names (depth + 1) : ValueReader buf).read tag =
      .struct <$> giving (readFields limits names (values limits names depth)) :=
  (readValue_of_struct _ _ _ _ known).trans (if_neg left)

theorem read_of_map (known : Tag.ofByte? tag = some .map) :
    (values limits names (depth + 1) : ValueReader buf).read tag =
      readCollection limits .map mapHeader (readPair (values limits names depth)) .map :=
  (readValue_of_map _ _ _ _ known).trans (readMap_eq _)

/-- Sets and lists are read alike. -/
theorem read_of_sequence {kind : CollectionKind} {build : List Value → Value}
    (sequence : Sequence tag kind build) :
    (values limits names (depth + 1) : ValueReader buf).read tag =
      readCollection limits kind sequenceHeader
        (fun tag _ => readItem (values limits names depth) tag) build := by
  rw [← readSequence_eq]
  cases sequence with
  | set known => exact readValue_of_set _ _ _ _ known
  | list known => exact readValue_of_list _ _ _ _ known

/-- What holds of all values: what holds of those that stand for others and of those without values
inside them, and of structs and collections if it holds of the values inside them. -/
theorem values_induction {motive : Nat → UInt8 → Decode buf Value → Prop}
    (tooDeep : ∀ {depth tag}, NoLevel depth tag →
      motive depth tag (giving (tooDeep limits tag)))
    (unknown : ∀ {depth tag}, (Tag.ofByte? tag = none ∨ Tag.ofByte? tag = some .stop) →
      motive (depth + 1) tag (giving (unknownType tag)))
    (fixed : ∀ {depth tag width}, Tag.widthOfByte? tag = some width →
      motive (depth + 1) tag (fixedValue tag <$> reading (Read.natural width)))
    (string : ∀ {depth tag}, Tag.ofByte? tag = some .string →
      motive (depth + 1) tag (.text <$> reading Read.string))
    (struct : ∀ {depth tag}, Tag.ofByte? tag = some .struct → depth ≠ 0 →
      (∀ tag, motive depth tag ((values limits names depth).read tag)) →
        motive (depth + 1) tag
          (.struct <$> giving (readFields limits names (values limits names depth))))
    (map : ∀ {depth tag}, Tag.ofByte? tag = some .map →
      (∀ tag, motive depth tag ((values limits names depth).read tag)) →
        motive (depth + 1) tag
          (readCollection limits .map mapHeader (readPair (values limits names depth)) .map))
    (sequence : ∀ {depth tag kind build}, Sequence tag kind build →
      (∀ tag, motive depth tag ((values limits names depth).read tag)) →
        motive (depth + 1) tag (readCollection limits kind sequenceHeader
          (fun tag _ => readItem (values limits names depth) tag) build))
    (depth : Nat) (tag : UInt8) : motive depth tag ((values limits names depth).read tag) := by
  induction depth generalizing tag with
  | zero => exact tooDeep (.inl rfl)
  | succ depth ih =>
    cases Tag.shape tag with
    | fixed known =>
      rw [read_of_fixed known]
      exact fixed known
    | string known =>
      rw [read_of_string known]
      exact string known
    | struct known =>
      by_cases left : depth = 0
      · have deep : NoLevel (depth + 1) tag := .inr ⟨by rw [left], known⟩
        rw [read_of_noLevel deep]
        exact tooDeep deep
      · rw [read_of_struct known left]
        exact struct known left ih
    | map known =>
      rw [read_of_map known]
      exact map known ih
    | set known =>
      rw [read_of_sequence (.set known)]
      exact sequence (.set known) ih
    | list known =>
      rw [read_of_sequence (.list known)]
      exact sequence (.list known) ih
    | unknown known =>
      rw [read_of_unknown known]
      exact unknown known

end Values

end Decoder

end TaggedRpc
