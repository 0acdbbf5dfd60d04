import TaggedRpc.Decode.Body
import TaggedRpc.Proofs.Wire.Spans

/-!
# Walks over values

Values passed by plain recursion: a struct field by field, a collection item by item, keys and
values of a map in turns. Structs are open containers, and so are collections that have items whose
widths are not all fixed. The recursion is on the number of containers that may still be opened, so
a walk with more room passes whatever one with less room passes (`extends_of_le`).
-/

namespace TaggedRpc

/-- A way to pass a value with any tag byte, which does not move back. -/
structure Walker (buf : ByteArray) where
  /-- Pass a value with a tag byte. -/
  pass : UInt8 → Read buf Unit
  /-- Passing a value does not move back. -/
  forth : ∀ tag, Advances Cursor.pos 0 (pass tag)

namespace Walker

variable {buf : ByteArray}

/-- Pass items that take turns between two tags, one by one. -/
def items (walker : Walker buf) (first second : UInt8) : Nat → Read buf Unit
  | 0 => return
  | left + 1 => do
    walker.pass (Skipper.itemTag first second (left + 1))
    walker.items first second left

/-- Pass fields from a place up to the stop tag. -/
def fieldsFrom (walker : Walker buf) (c : Cursor buf) : EStateM.Result Fault (Cursor buf) Unit :=
  match _ : Decoder.readHeader c with
  | .error fault d => .error fault d
  | .ok none d => .ok () d
  | .ok (some (tag, _)) d =>
    match _ : walker.pass tag d with
    | .error fault e => .error fault e
    | .ok () e => walker.fieldsFrom e
termination_by c.remaining
decreasing_by
  rename_i header passed
  have moved := Decoder.advances_readHeader.le_of_ok header
  have kept := (walker.forth tag).le_of_ok passed
  have before := c.pos_add_remaining
  have after := e.pos_add_remaining
  omega

/-- Pass fields up to the stop tag. -/
def fields (walker : Walker buf) : Read buf Unit := walker.fieldsFrom

/-- Fields are passed one after another up to the stop tag. -/
theorem fields_eq (walker : Walker buf) : walker.fields = (do
    match ← Decoder.readHeader with
    | none => return
    | some (tag, _) => do
      walker.pass tag
      walker.fields : Read buf Unit) := by
  funext c
  change walker.fieldsFrom c = _
  rw [fieldsFrom]
  split
  · next header => rw [bind_of_error header]
  · next header => rw [bind_of_ok header]; rfl
  · next header =>
    rw [bind_of_ok header]
    dsimp only
    split
    · next failed => rw [bind_of_error failed]
    · next passed => rw [bind_of_ok passed]; rfl

/-- At the stop tag the fields end. -/
theorem fields_of_stop (walker : Walker buf) {c d : Cursor buf}
    (header : Decoder.readHeader c = .ok none d) : walker.fields c = .ok () d := by
  rw [congrFun walker.fields_eq c, bind_of_ok header]
  rfl

/-- After the header of a field its value is passed, and the fields go on. -/
theorem fields_of_field (walker : Walker buf) {tag : UInt8} {id : Int16} {c d : Cursor buf}
    (header : Decoder.readHeader c = .ok (some (tag, id)) d) :
    walker.fields c = (do walker.pass tag; walker.fields : Read buf Unit) d := by
  rw [congrFun walker.fields_eq c, bind_of_ok header]

/-- Items that all have one tag are passed one by one. -/
theorem items_same_succ (walker : Walker buf) (tag : UInt8) (left : Nat) :
    walker.items tag tag (left + 1) = (do walker.pass tag; walker.items tag tag left) := by
  rw [items, Skipper.itemTag, ite_self]

/-- Keys and values take turns. -/
theorem items_pair_succ (walker : Walker buf) (keyTag valueTag : UInt8) (left : Nat) :
    walker.items keyTag valueTag (2 * (left + 1)) = (do
      walker.pass keyTag
      walker.pass valueTag
      walker.items keyTag valueTag (2 * left)) := by
  have even : Skipper.itemTag keyTag valueTag (2 * left + 2) = keyTag := by
    rw [Skipper.itemTag, if_pos (by omega)]
  have odd : Skipper.itemTag keyTag valueTag (2 * left + 1) = valueTag := by
    rw [Skipper.itemTag, if_neg (by omega)]
  rw [Nat.mul_succ, items, items, even, odd]

/-- Pass values of fixed width only. -/
def flat : Walker buf where
  pass tag := Read.advance ((Tag.widthOfByte? tag).getD 0)
  forth _ := (Read.advances_advance _).weaken (Nat.zero_le _)

/-- Pass the inside of a container, if it may be opened. -/
def within (limit : Nat) (inner : Option (Walker buf)) (inside : Walker buf → Read buf Unit) :
    Read buf Unit :=
  match inner with
  | none => throw (.skipDepthExceeded limit)
  | some walker => inside walker

/-- Pass the items of a collection. Only a collection that has items, and not all of fixed width, is
an open container. -/
def collection (limit : Nat) (inner : Option (Walker buf)) (first second : UInt8) (count : Nat) :
    Read buf Unit :=
  if count = 0 then return
  else if (Skipper.widths? first second).isSome then flat.items first second count
  else within limit inner fun walker => walker.items first second count

/-- Pass a value, and what is in it by another walker. A negative count is no items. -/
def value (limit : Nat) (inner : Option (Walker buf)) (tag : UInt8) : Read buf Unit :=
  match Tag.widthOfByte? tag with
  | some width => Read.advance width
  | none =>
    match Tag.ofByte? tag with
    | some .string => Read.skipString
    | some .struct => within limit inner fields
    | some .map => do
      let key ← Read.uint8
      let value ← Read.uint8
      let count ← Read.int32
      collection limit inner key value (2 * count.toNatClampNeg)
    | some .set | some .list => do
      let item ← Read.uint8
      let count ← Read.int32
      collection limit inner item item count.toNatClampNeg
    | _ => throw (.unknownType tag)

/-! ## Progress -/

private theorem advances_items (walker : Walker buf) (first second : UInt8) (count : Nat) :
    Advances Cursor.pos 0 (walker.items first second count) := by
  induction count with
  | zero => exact Advances.pure _
  | succ left ih => exact (walker.forth _).bind fun _ => ih

private theorem advances_fields (walker : Walker buf) : Advances Cursor.pos 0 walker.fields := by
  intro c
  unfold fields
  fun_induction fieldsFrom walker c with
  | case1 c fault d header => exact Decoder.advances_readHeader.le_of_error header
  | case2 c d header => exact Nat.le_of_succ_le (Decoder.advances_readHeader.le_of_ok header)
  | case3 c tag id d header fault e failed =>
    have moved := Decoder.advances_readHeader.le_of_ok header
    have kept := (walker.forth tag).le_of_error failed
    dsimp only
    omega
  | case4 c tag id d header e passed ih =>
    have moved := Decoder.advances_readHeader.le_of_ok header
    have kept := (walker.forth tag).le_of_ok passed
    split <;> rename_i outcome <;> rw [outcome] at ih <;> dsimp only at ih <;> omega

private theorem advances_within (limit : Nat) (inner : Option (Walker buf))
    {inside : Walker buf → Read buf Unit}
    (forth : ∀ walker, Advances Cursor.pos 0 (inside walker)) :
    Advances Cursor.pos 0 (within limit inner inside) := by
  cases inner with
  | none => exact Advances.throw _
  | some walker => exact forth walker

private theorem advances_collection (limit : Nat) (inner : Option (Walker buf))
    (first second : UInt8) (count : Nat) :
    Advances Cursor.pos 0 (collection limit inner first second count) := by
  unfold collection
  split
  · exact Advances.pure _
  · split
    · exact advances_items flat first second count
    · exact advances_within limit inner fun walker => advances_items walker first second count

/-- Passing a value does not move back. -/
theorem advances_value (limit : Nat) (inner : Option (Walker buf)) (tag : UInt8) :
    Advances Cursor.pos 0 (value limit inner tag) := by
  have headerByte := (@Read.advances_uint8 buf).weaken (Nat.zero_le 1)
  have headerCount := (@Read.advances_int32 buf).weaken (Nat.zero_le 4)
  have sequence : Advances Cursor.pos 0 (do
      let item ← Read.uint8
      let count ← Read.int32
      collection limit inner item item count.toNatClampNeg) :=
    headerByte.bind (n := 0) fun _ => headerCount.bind (n := 0) fun _ =>
      advances_collection limit inner _ _ _
  unfold value
  split
  · exact (Read.advances_advance _).weaken (Nat.zero_le _)
  · split
    · exact Read.advances_skipString.weaken (Nat.zero_le 4)
    · exact advances_within limit inner advances_fields
    · refine headerByte.bind (n := 0) fun _ => headerByte.bind (n := 0) fun _ => ?_
      exact headerCount.bind (n := 0) fun _ => advances_collection limit inner _ _ _
    · exact sequence
    · exact sequence
    · exact Advances.throw _

/-! ## Walks with room -/

/-- The walk that may have `room` containers open at a time. -/
def ofRoom (limit : Nat) : Nat → Walker buf
  | 0 => ⟨value limit none, advances_value limit none⟩
  | room + 1 =>
    ⟨value limit (some (ofRoom limit room)), advances_value limit (some (ofRoom limit room))⟩

/-- The walk inside a container, if there is room for one. -/
def inside (limit : Nat) : Nat → Option (Walker buf)
  | 0 => none
  | room + 1 => some (ofRoom limit room)

/-- A walk passes a value, and what is in it by the walk inside. -/
theorem pass_ofRoom (limit room : Nat) (tag : UInt8) :
    (ofRoom limit room : Walker buf).pass tag = value limit (inside limit room) tag := by
  cases room <;> rfl

/-- A value of fixed width is passed by its bytes. -/
theorem value_of_fixed {limit width : Nat} {inner : Option (Walker buf)} {tag : UInt8}
    (fixed : Tag.widthOfByte? tag = some width) : value limit inner tag = Read.advance width := by
  rw [value, fixed]

/-- A string is passed by its length and its bytes. -/
theorem value_of_string {limit : Nat} {inner : Option (Walker buf)} {tag : UInt8}
    (known : Tag.ofByte? tag = some .string) : value limit inner tag = Read.skipString := by
  rw [value, Tag.widthOfByte?, known]
  rfl

/-- A struct is passed by its fields. -/
theorem value_of_struct {limit : Nat} {inner : Option (Walker buf)} {tag : UInt8}
    (known : Tag.ofByte? tag = some .struct) :
    value limit inner tag = within limit inner fields := by
  rw [value, Tag.widthOfByte?, known]
  rfl

/-- A map is passed by its header and its keys and values. -/
theorem value_of_map {limit : Nat} {inner : Option (Walker buf)} {tag : UInt8}
    (known : Tag.ofByte? tag = some .map) :
    value limit inner tag = (do
      let key ← Read.uint8
      let value ← Read.uint8
      let count ← Read.int32
      collection limit inner key value (2 * count.toNatClampNeg)) := by
  rw [value, Tag.widthOfByte?, known]
  rfl

/-- A set or a list is passed by its header and its items. -/
theorem value_of_sequence {limit : Nat} {inner : Option (Walker buf)} {tag : UInt8}
    (known : Tag.ofByte? tag = some .set ∨ Tag.ofByte? tag = some .list) :
    value limit inner tag = (do
      let item ← Read.uint8
      let count ← Read.int32
      collection limit inner item item count.toNatClampNeg) := by
  rcases known with known | known <;> (rw [value, Tag.widthOfByte?, known]; rfl)

/-- A value whose tag says nothing about its size is not passed. -/
theorem value_of_unknown {limit : Nat} {inner : Option (Walker buf)} {tag : UInt8}
    (unknown : Tag.ofByte? tag = none ∨ Tag.ofByte? tag = some .stop) :
    value limit inner tag = throw (.unknownType tag) := by
  rcases unknown with unknown | unknown <;> (rw [value, Tag.widthOfByte?, unknown]; rfl)

/-! ## More room -/

/-- A walker that passes whatever another one passes, up to the same place. -/
def Extends (more less : Walker buf) : Prop :=
  ∀ (tag : UInt8) (c d : Cursor buf), less.pass tag c = .ok () d → more.pass tag c = .ok () d

variable {more less : Walker buf}

/-- A walker that extends another one passes the same items. -/
theorem Extends.items (extend : more.Extends less) {first second : UInt8} {count : Nat}
    {c d : Cursor buf} (passed : less.items first second count c = .ok () d) :
    more.items first second count c = .ok () d := by
  induction count generalizing c with
  | zero => exact passed
  | succ left ih =>
    rw [Walker.items] at passed ⊢
    obtain ⟨_, e, one, rest⟩ := bind_eq_ok_iff.mp passed
    rw [bind_of_ok (extend _ _ _ one)]
    exact ih rest

/-- A walker that extends another one passes the same fields. -/
theorem Extends.fields (extend : more.Extends less) {c d : Cursor buf}
    (passed : less.fields c = .ok () d) : more.fields c = .ok () d := by
  unfold Walker.fields at passed
  fun_induction fieldsFrom less c with
  | case1 => cases passed
  | case2 c e header =>
    rw [more.fields_of_stop header]
    exact passed
  | case3 => cases passed
  | case4 c tag id e header f one ih =>
    rw [more.fields_of_field header, bind_of_ok (extend _ _ _ one)]
    exact ih passed

private theorem items_flat (limit room : Nat) {first second : UInt8}
    (fixed : (Skipper.widths? first second).isSome) (count : Nat) :
    (flat.items first second count : Read buf Unit) =
      (ofRoom limit room).items first second count := by
  induction count with
  | zero => rfl
  | succ left ih =>
    have known :
        ∃ width, Tag.widthOfByte? (Skipper.itemTag first second (left + 1)) = some width := by
      unfold Skipper.widths? at fixed
      unfold Skipper.itemTag
      split at fixed
      · next a b ofFirst ofSecond =>
        split
        · exact ⟨a, ofFirst⟩
        · exact ⟨b, ofSecond⟩
      · cases fixed
    obtain ⟨width, known⟩ := known
    rw [items, items, ih, pass_ofRoom, value_of_fixed known]
    change (Read.advance _ >>= _) = _
    rw [known, Option.getD_some]

/-- The inside of a container is passed with as much room as the container needs at least. -/
theorem within_mono {limit limit' : Nat} {room room' : Nat} {go : Walker buf → Read buf Unit}
    {c d : Cursor buf}
    (grow : ∀ inner, room = inner + 1 → ∀ inner', inner ≤ inner' →
      go (ofRoom limit inner) c = .ok () d → go (ofRoom limit' inner') c = .ok () d)
    (le : room ≤ room') (passed : within limit (inside limit room) go c = .ok () d) :
    within limit' (inside limit' room') go c = .ok () d := by
  cases room with
  | zero => exact absurd passed throw_ne_ok
  | succ inner =>
    cases room' with
    | zero => exact absurd le (Nat.not_succ_le_zero _)
    | succ inner' => exact grow inner rfl inner' (Nat.le_of_succ_le_succ le) passed

/-- A collection is passed with as much room as it needs at least. -/
theorem collection_mono {limit limit' room room' : Nat} {first second : UInt8} {count : Nat}
    {c d : Cursor buf}
    (grow : ∀ inner, room = inner + 1 → ∀ inner', inner ≤ inner' →
      (ofRoom limit' inner' : Walker buf).Extends (ofRoom limit inner))
    (le : room ≤ room')
    (passed : collection limit (inside limit room) first second count c = .ok () d) :
    collection limit' (inside limit' room') first second count c = .ok () d := by
  unfold collection at passed ⊢
  split at passed
  · next none => rwa [if_pos none]
  · next some =>
    rw [if_neg some]
    split at passed
    · next fixed => rwa [if_pos fixed]
    · next mixed =>
      rw [if_neg mixed]
      exact within_mono (fun inner same inner' le => (grow inner same inner' le).items) le passed

/-- A walk with more room passes whatever one with less room passes. -/
theorem extends_of_le {limit limit' room room' : Nat} (le : room ≤ room') :
    (ofRoom limit' room' : Walker buf).Extends (ofRoom limit room) := by
  induction room using Nat.strongRecOn generalizing room' with
  | ind room ih =>
    have grow (inner : Nat) (same : room = inner + 1) (inner' : Nat) (le : inner ≤ inner') :
        (ofRoom limit' inner' : Walker buf).Extends (ofRoom limit inner) := ih inner (by omega) le
    intro tag c d passed
    rw [pass_ofRoom] at passed ⊢
    have sequence (known : Tag.ofByte? tag = some .set ∨ Tag.ofByte? tag = some .list) :
        value limit' (inside limit' room') tag c = .ok () d := by
      rw [value_of_sequence known] at passed ⊢
      obtain ⟨item, c₁, itemRead, passed⟩ := bind_eq_ok_iff.mp passed
      obtain ⟨count, c₂, countRead, passed⟩ := bind_eq_ok_iff.mp passed
      rw [bind_of_ok itemRead, bind_of_ok countRead]
      exact collection_mono grow le passed
    cases Tag.shape tag with
    | fixed fixed =>
      rw [value_of_fixed fixed] at passed ⊢
      exact passed
    | string known =>
      rw [value_of_string known] at passed ⊢
      exact passed
    | struct known =>
      rw [value_of_struct known] at passed ⊢
      exact within_mono (fun inner same inner' le => (grow inner same inner' le).fields) le passed
    | map known =>
      rw [value_of_map known] at passed ⊢
      obtain ⟨key, c₁, keyRead, passed⟩ := bind_eq_ok_iff.mp passed
      obtain ⟨value, c₂, valueRead, passed⟩ := bind_eq_ok_iff.mp passed
      obtain ⟨count, c₃, countRead, passed⟩ := bind_eq_ok_iff.mp passed
      rw [bind_of_ok keyRead, bind_of_ok valueRead, bind_of_ok countRead]
      exact collection_mono grow le passed
    | set known => exact sequence (.inl known)
    | list known => exact sequence (.inr known)
    | unknown unknown =>
      rw [value_of_unknown unknown] at passed
      exact absurd passed throw_ne_ok

/-- A collection is passed with more room where it is passed with less. -/
theorem collection_of_le {limit limit' room room' : Nat} {first second : UInt8} {count : Nat}
    {c d : Cursor buf} (le : room ≤ room')
    (passed : collection limit (inside limit room) first second count c = .ok () d) :
    collection limit' (inside limit' room') first second count c = .ok () d :=
  collection_mono (fun _ _ _ => extends_of_le) le passed

/-- Items that are passed as a collection are passed one by one with the same room. -/
theorem items_of_collection {limit room : Nat} {first second : UInt8} {count : Nat}
    {c d : Cursor buf}
    (passed : collection limit (inside limit room) first second count c = .ok () d) :
    (ofRoom limit room).items first second count c = .ok () d := by
  unfold collection at passed
  split at passed
  · next none =>
    subst none
    exact passed
  · split at passed
    · next fixed => rwa [items_flat limit room fixed] at passed
    · cases room with
      | zero => exact absurd passed throw_ne_ok
      | succ inner => exact (extends_of_le (Nat.le_succ inner)).items passed

/-- Items that are passed one by one are passed as a collection with more room. -/
theorem collection_of_items {limit limit' room room' : Nat} {first second : UInt8} {count : Nat}
    {c d : Cursor buf} (lt : room < room')
    (passed : (ofRoom limit room).items first second count c = .ok () d) :
    collection limit' (inside limit' room') first second count c = .ok () d := by
  unfold collection
  split
  · next none =>
    subst none
    exact passed
  · split
    · next fixed => rwa [items_flat limit room fixed]
    · cases room' with
      | zero => exact absurd lt (Nat.not_lt_zero _)
      | succ inner => exact (extends_of_le (Nat.le_of_lt_succ lt)).items passed

/-- Fields that are passed as a struct are passed with the same room. -/
theorem fields_of_within {limit room : Nat} {c d : Cursor buf}
    (passed : within limit (inside limit room) fields c = .ok () d) :
    (ofRoom limit room).fields c = .ok () d := by
  cases room with
  | zero => exact absurd passed throw_ne_ok
  | succ inner => exact (extends_of_le (Nat.le_succ inner)).fields passed

/-- Fields that are passed are passed as a struct with more room. -/
theorem within_of_fields {limit limit' room room' : Nat} {c d : Cursor buf} (lt : room < room')
    (passed : (ofRoom limit room).fields c = .ok () d) :
    within limit' (inside limit' room') fields c = .ok () d := by
  cases room' with
  | zero => exact absurd lt (Nat.not_lt_zero _)
  | succ inner => exact (extends_of_le (Nat.le_of_lt_succ lt)).fields passed

end Walker

end TaggedRpc
