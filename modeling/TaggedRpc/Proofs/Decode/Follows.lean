import TaggedRpc.Proofs.Decode.Turns
import TaggedRpc.Proofs.Wire.Machine
import TaggedRpc.Proofs.Wire.Spans

/-!
# Walks that follow decoding

Where decoding keeps synchronisation, the walk over the same bytes ends where decoding does
(`Follows`). This is shown for the parts of a value and then for all values, by recursion on the
levels of nesting that are left. The walk needs room for these levels on top of the room that
decoding skips values with, as a value that is too deep to be built is skipped.
-/

namespace TaggedRpc

namespace Decoder

variable {buf : ByteArray} {α β γ ε : Type}

/-- A walk that passes what an action reads whenever the action keeps synchronisation. -/
def Follows (walk : Read buf Unit) (act : Decode buf α) : Prop :=
  ∀ ⦃s : Decoder buf⦄ ⦃a : α⦄ ⦃t : Decoder buf⦄, s.desync = none → act s = .ok a t →
    t.desync = none → walk s.cursor = .ok () t.cursor

/-! ## Parts -/

section Parts

variable {walk walk' : Read buf Unit} {act : Decode buf α}

private theorem Follows.pure (a : α) : Follows (Pure.pure () : Read buf Unit) (Pure.pure a) := by
  intro s b t _ outcome _
  obtain ⟨-, rfl⟩ := pure_eq_ok_iff.mp outcome
  rfl

/-- A function of the result does not change what follows an action. -/
theorem Follows.map (follows : Follows walk act) (f : α → β) : Follows walk (f <$> act) := by
  intro s b t kept outcome final
  obtain ⟨a, outcome, -⟩ := map_eq_ok_iff.mp outcome
  exact follows kept outcome final

private theorem Follows.of_passed (follows : Follows walk act)
    (extend : ∀ c d, walk c = .ok () d → walk' c = .ok () d) : Follows walk' act :=
  fun _ _ _ kept outcome final => extend _ _ (follows kept outcome final)

private theorem Follows.bind {read : Read buf γ} {go : γ → Read buf Unit} {next : γ → Decode buf α}
    (follows : ∀ ⦃b c d⦄, read c = .ok b d → Follows (go b) (next b)) :
    Follows (read >>= go) (reading read >>= next) := by
  intro s a t kept outcome final
  obtain ⟨b, u, first, outcome⟩ := bind_eq_ok_iff.mp outcome
  obtain ⟨c, passed, rfl⟩ := reading_eq_ok_iff.mp first
  rw [bind_of_ok passed]
  exact follows passed (s := { s with cursor := c }) kept outcome final

private theorem Follows.turn {stop : α → β} {go : α → Decode buf β} (first : Follows walk act)
    (goes : ∀ a, Follows walk' (go a)) :
    Follows (do walk; walk' : Read buf Unit) (turn act stop go) := by
  intro s b t kept outcome final
  obtain ⟨a, u, done, going, rest⟩ := turn_kept outcome final
  rw [bind_of_ok (first kept done going)]
  exact goes a going rest final

private theorem follows_reading {read : Read buf α} {width : Nat} (spans : read.Spans width) :
    Follows (Read.advance width) (reading read) := by
  intro s a t _ outcome _
  obtain ⟨c, passed, rfl⟩ := reading_eq_ok_iff.mp outcome
  exact (spans s.cursor c).mp ⟨a, passed⟩

private theorem follows_string :
    Follows (Read.skipString : Read buf Unit) (reading Read.string) := by
  intro s a t _ outcome _
  obtain ⟨c, passed, rfl⟩ := reading_eq_ok_iff.mp outcome
  exact Read.skipString_of_string passed

private theorem follows_unknownType (tag : UInt8) : Follows walk (giving (unknownType tag)) := by
  intro s value t _ outcome final
  rw [giving_eq_ok_iff] at outcome
  cases outcome
  cases final

end Parts

/-! ## Collections -/

section Collections

variable {walker : Walker buf} {kind : CollectionKind} {first second tag : UInt8}
  {limit room inner : Nat}

/-- Pass the values in an entry of a collection. -/
def passEntry (walker : Walker buf) (kind : CollectionKind) (first second : UInt8) :
    Read buf Unit :=
  match kind with
  | .map => do
    walker.pass first
    walker.pass second
  | .set | .list => walker.pass first

/-- The values in a collection are passed entry by entry. -/
theorem items_entry_succ (walker : Walker buf) (suits : kind = .map ∨ first = second)
    (left : Nat) :
    walker.items first second (kind.valuesPerEntry * (left + 1)) = (do
      passEntry walker kind first second
      walker.items first second (kind.valuesPerEntry * left)) := by
  cases kind with
  | map =>
    change walker.items first second (2 * (left + 1)) = _
    rw [Walker.items_pair_succ, passEntry, bind_assoc]
    rfl
  | set | list =>
    obtain same | rfl := suits
    · cases same
    · simp only [CollectionKind.valuesPerEntry, Nat.one_mul, Walker.items_same_succ, passEntry]

/-- A map is passed by its header and its keys and values. -/
theorem pass_of_map (known : Tag.ofByte? tag = some .map) :
    (Walker.ofRoom limit room : Walker buf).pass tag = mapHeader >>= fun h =>
      Walker.collection limit (Walker.inside limit room) h.first h.second
        (CollectionKind.map.valuesPerEntry * h.count.toNatClampNeg) := by
  rw [Walker.pass_ofRoom, Walker.value_of_map known, mapHeader]
  simp only [bind_assoc, pure_bind]
  rfl

/-- A set or a list is passed by its header and its items. -/
theorem pass_of_sequence {build : List Value → Value} (sequence : Sequence tag kind build) :
    (Walker.ofRoom limit room : Walker buf).pass tag = sequenceHeader >>= fun h =>
      Walker.collection limit (Walker.inside limit room) h.first h.second
        (kind.valuesPerEntry * h.count.toNatClampNeg) := by
  have known : Tag.ofByte? tag = some .set ∨ Tag.ofByte? tag = some .list := by
    cases sequence with
    | set known => exact .inl known
    | list known => exact .inr known
  have single : kind.valuesPerEntry = 1 := by cases sequence <;> rfl
  rw [Walker.pass_ofRoom, Walker.value_of_sequence known, sequenceHeader]
  simp only [bind_assoc, pure_bind, single, Nat.one_mul]

/-- The items of a set or a list have one tag. -/
theorem first_eq_second {h : CollectionHeader} {c d : Cursor buf}
    (read : sequenceHeader c = .ok h d) : h.first = h.second := by
  obtain ⟨_, _, -, read⟩ := bind_eq_ok_iff.mp read
  obtain ⟨_, _, -, read⟩ := bind_eq_ok_iff.mp read
  obtain ⟨rfl, -⟩ := pure_eq_ok_iff.mp read
  rfl

/-- Values that are skipped are passed entry by entry, so keys and values come in pairs. -/
theorem paired_of_suits (suits : kind = .map ∨ first = second) (size : Nat) :
    kind.valuesPerEntry * size % 2 = 0 ∨ first = second :=
  suits.imp_left fun same => by rw [same]; exact Nat.mul_mod_right 2 size

private theorem follows_collect {entry : Decode buf (Option ε)} (whole : Whole entry)
    (suits : kind = .map ∨ first = second)
    (follows : Follows (passEntry walker kind first second) entry) (done : List ε) (size : Nat) :
    Follows (walker.items first second (kind.valuesPerEntry * size))
      (collect entry done size) := by
  induction size generalizing done with
  | zero => exact .pure _
  | succ left ih =>
    intro s all t kept outcome final
    obtain ⟨e, u, read, going, rest⟩ := collect_kept whole outcome final
    rw [items_entry_succ walker suits, bind_of_ok (follows kept read going)]
    exact ih (e :: done) going rest final

variable {values : ValueReader buf}
  (follows : ∀ tag, Follows (walker.pass tag) (values.read tag))

include follows

/-- A map entry is read where its key and its value are passed. -/
theorem follows_readPair (keyTag valueTag : UInt8) :
    Follows (passEntry walker .map keyTag valueTag) (readPair values keyTag valueTag) :=
  (follows keyTag).turn fun key => (follows valueTag).map fun value => some (key, value)

private theorem follows_readItem {build : List Value → Value} (sequence : Sequence tag kind build)
    (itemTag second : UInt8) :
    Follows (passEntry walker kind itemTag second) (readItem values itemTag) := by
  cases sequence <;> exact (follows itemTag).map some

end Collections

/-! ## Values that are not built -/

section Unbuilt

variable {limits : Limits} {limit inner room : Nat} {skip : Read buf Unit} {reason : Fault → Desync}
  {walk : Read buf Unit} {value : Value}

private theorem follows_skipOrLose (extend : ∀ c d, skip c = .ok () d → walk c = .ok () d) :
    Follows walk (giving fun s : Decoder buf => (value, s.skipOrLose skip reason)) := by
  intro s a t _ outcome final
  rw [giving_eq_ok_iff, Prod.mk.injEq] at outcome
  obtain ⟨-, rfl⟩ := outcome
  exact extend _ _ (ok_of_skipOrLose final)

variable (skips : limits.skipUnbuilt) (le : limits.maxSkipDepth ≤ room)

include skips le

private theorem follows_tooDeep (tag : UInt8) :
    Follows ((Walker.ofRoom limit room : Walker buf).pass tag) (giving (tooDeep limits tag)) := by
  rw [tooDeep_of_skips skips]
  apply follows_skipOrLose
  intro c d skipped
  exact Walker.extends_of_le le _ _ _ (Read.skipValue_eq_ok_iff.mp skipped)

variable {kind : CollectionKind}

private theorem follows_withinLimits {first second : UInt8} {count : Int32}
    {build : Nat → Decode buf Value} (suits : kind = .map ∨ first = second)
    (builds : Follows (Walker.collection limit (Walker.inside limit room) first second
      (kind.valuesPerEntry * count.toNatClampNeg)) (build count.toNatClampNeg)) :
    Follows (Walker.collection limit (Walker.inside limit room) first second
      (kind.valuesPerEntry * count.toNatClampNeg))
      (withinLimits limits kind first second count build) := by
  intro s a t kept outcome final
  cases refused : limits.refusal? s.elements kind count with
  | none =>
    rw [withinLimits_of_built refused] at outcome
    exact builds (s := { s with elements := s.elements + count.toNatClampNeg }) kept outcome final
  | some placeholder =>
    rw [withinLimits_of_refused refused, tooLarge_of_skips skips] at outcome
    refine follows_skipOrLose (fun c d skipped => ?_) kept outcome final
    have passed := (Read.skipItems_eq_ok_iff (paired_of_suits suits _)).mp skipped
    exact Walker.collection_of_le le passed

private theorem follows_readCollection (lt : inner < room) {header : Read buf CollectionHeader}
    {entry : UInt8 → UInt8 → Decode buf (Option ε)} {build : List ε → Value}
    (suits : ∀ ⦃h c d⦄, header c = .ok h d → kind = .map ∨ h.first = h.second)
    (whole : ∀ first second, Whole (entry first second))
    (follows : ∀ first second,
      Follows (passEntry (Walker.ofRoom limit inner) kind first second) (entry first second)) :
    Follows (header >>= fun h => Walker.collection limit (Walker.inside limit room) h.first h.second
        (kind.valuesPerEntry * h.count.toNatClampNeg))
      (readCollection limits kind header entry build) := by
  apply Follows.bind
  intro h c d read
  apply follows_withinLimits skips le (suits read)
  have entries := follows_collect (whole h.first h.second) (suits read)
    (follows h.first h.second) [] h.count.toNatClampNeg
  exact (entries.map build).of_passed fun _ _ passed => Walker.collection_of_items lt passed

end Unbuilt

/-! ## Structs -/

section Structs

variable {limits : Limits} (names : FieldNames) {walker : Walker buf} {values : ValueReader buf}

/-- The walker that passes what is skipped for a field that cannot be read. -/
def recovery (limits : Limits) : Walker buf :=
  Walker.ofRoom limits.maxSkipDepth limits.maxSkipDepth

/-- The value of a field is passed where the field is read. -/
theorem follows_readField (extend : walker.Extends (recovery limits)) {tag : UInt8}
    (follows : Follows (walker.pass tag) (values.read tag)) (id : Int16) :
    Follows (walker.pass tag) (giving (readField limits values tag id)) := by
  intro s field t kept outcome final
  rw [giving_eq_ok_iff] at outcome
  cases read : values.read tag s with
  | ok value u =>
    rw [readField_of_ok read, Prod.mk.injEq] at outcome
    obtain ⟨-, rfl⟩ := outcome
    exact follows kept read final
  | error fault u =>
    rw [readField_of_error read, Prod.mk.injEq] at outcome
    obtain ⟨-, rfl⟩ := outcome
    exact extend _ _ _ (Read.skipValue_eq_ok_iff.mp (ok_of_skipOrLose final))

private theorem follows_readEntries (extend : walker.Extends (recovery limits))
    (follows : ∀ tag, Follows (walker.pass tag) (values.read tag)) (done : List (String × Field)) :
    Follows walker.fields (giving (readEntries limits names values done)) := by
  intro s entries t kept outcome final
  rw [giving_eq_ok_iff] at outcome
  fun_induction readEntries limits names values done s with
  | case1 done s lost =>
    rw [kept] at lost
    cases lost
  | case2 =>
    cases outcome
    cases final
  | case3 done s _ c header =>
    cases outcome
    exact walker.fields_of_stop header
  | case4 done s _ tag id c header read ih =>
    rw [walker.fields_of_field header]
    have going : read.2.desync = none :=
      kept_of_readEntries ((congrArg (·.2.desync) outcome).trans final)
    have one : walker.pass tag c = .ok () read.2.cursor :=
      follows_readField (s := { s with cursor := c }) extend (follows tag) id kept rfl going
    rw [bind_of_ok one]
    exact ih going outcome

/-- The fields of a struct are passed where they are read. -/
theorem follows_readFields (extend : walker.Extends (recovery limits))
    (follows : ∀ tag, Follows (walker.pass tag) (values.read tag)) :
    Follows walker.fields (giving (readFields limits names values)) := by
  intro s fields t kept outcome final
  rw [giving_eq_ok_iff] at outcome
  cases outcome
  exact follows_readEntries names extend follows [] kept rfl final

end Structs

/-! ## Values -/

section Values

variable {limits : Limits} {names : FieldNames}

/-- A value is passed where it is read, with room for the levels of nesting that are left on top of
what it is skipped with. -/
theorem follows_values (skips : limits.skipUnbuilt) (limit : Nat) {depth room : Nat}
    (le : depth + limits.maxSkipDepth ≤ room) (tag : UInt8) :
    Follows ((Walker.ofRoom limit room : Walker buf).pass tag)
      ((values limits names depth).read tag) := by
  revert room
  apply values_induction (motive := fun depth tag act => ∀ {room},
    depth + limits.maxSkipDepth ≤ room → Follows ((Walker.ofRoom limit room).pass tag) act)
  case tooDeep =>
    intro depth tag _ room le
    exact follows_tooDeep skips (by omega) tag
  case unknown => exact fun _ _ _ => follows_unknownType _
  case fixed =>
    intro depth tag width fixed room le
    rw [Walker.pass_ofRoom, Walker.value_of_fixed fixed]
    exact (follows_reading (Read.spans_natural width)).map _
  case string =>
    intro depth tag known room le
    rw [Walker.pass_ofRoom, Walker.value_of_string known]
    exact follows_string.map _
  case struct =>
    intro depth tag known _ follows room le
    rw [Walker.pass_ofRoom, Walker.value_of_struct known]
    have fields := follows_readFields names (Walker.extends_of_le (Nat.le_add_left _ depth))
      fun tag => follows tag (Nat.le_refl _)
    exact (fields.map _).of_passed fun _ _ passed => Walker.within_of_fields (by omega) passed
  case map =>
    intro depth tag known follows room le
    rw [pass_of_map known]
    exact follows_readCollection skips (by omega) (by omega) (fun _ _ _ _ => .inl rfl)
      whole_readPair (follows_readPair fun tag => follows tag (Nat.le_refl _))
  case sequence =>
    intro depth tag kind build sequence follows room le
    rw [pass_of_sequence sequence]
    exact follows_readCollection skips (by omega) (by omega)
      (fun _ _ _ read => .inr (first_eq_second read)) (fun tag _ => whole_readItem tag)
      (follows_readItem (fun tag => follows tag (Nat.le_refl _)) sequence)

end Values

end Decoder

end TaggedRpc
