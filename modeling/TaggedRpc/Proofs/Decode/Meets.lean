import TaggedRpc.Proofs.Decode.Follows

/-!
# Decoding that meets walks

Where a walk passes a value, decoding arrives at the same place, or refuses a length that is too
large (`Meets`). This is shown for the parts of a value and then for all values, by recursion on the
levels of nesting that are left. The walk may have no more room than decoding skips values with, as
a value that decoding does not build must be skipped wherever the walk passes it.
-/

namespace TaggedRpc

namespace Decoder

variable {buf : ByteArray} {α β γ ε : Type}

/-- An outcome at a place, or the refusal of a length that is too large, with synchronisation
kept. -/
inductive Arrives (c : Cursor buf) : EStateM.Result Fault (Decoder buf) α → Prop where
  | ok {a : α} {s : Decoder buf} (place : s.cursor = c) (kept : s.desync = none) :
    Arrives c (.ok a s)
  | error {length ceiling : Nat} {s : Decoder buf} (kept : s.desync = none) :
    Arrives c (.error (.lengthTooLarge length ceiling) s)

/-- An action that arrives wherever a walk does. -/
def Meets (act : Decode buf α) (walk : Read buf Unit) : Prop :=
  ∀ ⦃s : Decoder buf⦄ ⦃c : Cursor buf⦄, s.desync = none → walk s.cursor = .ok () c →
    Arrives c (act s)

/-- Where an action loses synchronisation, the walk fails. -/
theorem Meets.error_of_lost {act : Decode buf α} {walk : Read buf Unit} (meets : Meets act walk)
    {s t : Decoder buf} {a : α} (kept : s.desync = none) (outcome : act s = .ok a t)
    (lost : t.desync.isSome) : ∃ fault c, walk s.cursor = .error fault c := by
  cases walked : walk s.cursor with
  | error fault c => exact ⟨fault, c, rfl⟩
  | ok _ c =>
    have arrives := meets kept walked
    rw [outcome] at arrives
    cases arrives with
    | ok place kept' =>
      rw [kept'] at lost
      cases lost

/-- Where the buffer ends early for an action, the walk fails. -/
theorem Meets.error_of_short {act : Decode buf α} {walk : Read buf Unit} (meets : Meets act walk)
    {s t : Decoder buf} {fault : Fault} (kept : s.desync = none) (outcome : act s = .error fault t)
    (short : fault.isTruncation) : ∃ fault c, walk s.cursor = .error fault c := by
  cases walked : walk s.cursor with
  | error fault c => exact ⟨fault, c, rfl⟩
  | ok _ c =>
    have arrives := meets kept walked
    rw [outcome] at arrives
    cases arrives with
    | error => cases short

/-! ## Parts -/

section Parts

variable {walk walk' : Read buf Unit} {act : Decode buf α}

private theorem Meets.pure (a : α) : Meets (Pure.pure a) (Pure.pure () : Read buf Unit) := by
  intro s c kept passed
  obtain ⟨-, rfl⟩ := pure_eq_ok_iff.mp passed
  exact .ok rfl kept

private theorem Meets.map (meets : Meets act walk) (f : α → β) : Meets (f <$> act) walk := by
  intro s c kept passed
  have arrives := meets kept passed
  generalize done : act s = outcome at arrives
  cases arrives with
  | ok place going =>
    rw [map_eq_ok_iff.mpr ⟨_, done, rfl⟩]
    exact .ok place going
  | error going =>
    rw [map_eq_error_iff.mpr done]
    exact .error going

private theorem Meets.of_passed (meets : Meets act walk)
    (extend : ∀ c d, walk' c = .ok () d → walk c = .ok () d) : Meets act walk' :=
  fun _ _ kept passed => meets kept (extend _ _ passed)

private theorem Meets.bind {read : Read buf γ} {go : γ → Read buf Unit} {next : γ → Decode buf α}
    (meets : ∀ ⦃b c d⦄, read c = .ok b d → Meets (next b) (go b)) :
    Meets (reading read >>= next) (read >>= go) := by
  intro s d kept passed
  obtain ⟨b, c, first, passed⟩ := bind_eq_ok_iff.mp passed
  rw [bind_of_ok (reading_of_ok first)]
  exact meets first (s := { s with cursor := c }) kept passed

private theorem Meets.turn {stop : α → β} {go : α → Decode buf β} (first : Meets act walk)
    (goes : ∀ a, Meets (go a) walk') :
    Meets (turn act stop go) (do walk; walk' : Read buf Unit) := by
  intro s d kept passed
  obtain ⟨_, c, one, rest⟩ := bind_eq_ok_iff.mp passed
  have arrives := first kept one
  generalize done : act s = outcome at arrives
  cases arrives with
  | error going =>
    rw [turn_of_error done]
    exact .error going
  | ok place going =>
    rw [turn_of_kept done going]
    exact goes _ going (by rwa [place])

private theorem meets_reading {read : Read buf α} {width : Nat} (spans : read.Spans width) :
    Meets (reading read) (Read.advance width) := by
  intro s c kept passed
  obtain ⟨a, outcome⟩ := (spans s.cursor c).mpr passed
  rw [reading_of_ok outcome]
  exact .ok rfl kept

private theorem meets_string : Meets (reading Read.string) (Read.skipString : Read buf Unit) := by
  intro s c kept passed
  rcases Read.string_of_skipString passed with ⟨content, outcome⟩ | ⟨n, outcome⟩
  · rw [reading_of_ok outcome]
    exact .ok rfl kept
  · rw [reading_eq_error_iff.mpr ⟨s.cursor, outcome, rfl⟩]
    exact .error kept

end Parts

/-! ## Collections -/

section Collections

variable {walker : Walker buf} {kind : CollectionKind} {first second : UInt8}

private theorem meets_collect {entry : Decode buf (Option ε)} (whole : Whole entry)
    (suits : kind = .map ∨ first = second)
    (meets : Meets entry (passEntry walker kind first second)) (done : List ε) (size : Nat) :
    Meets (collect entry done size) (walker.items first second (kind.valuesPerEntry * size)) := by
  induction size generalizing done with
  | zero => exact .pure _
  | succ left ih =>
    intro s d kept passed
    rw [items_entry_succ walker suits] at passed
    obtain ⟨_, c, one, rest⟩ := bind_eq_ok_iff.mp passed
    have arrives := meets kept one
    generalize read : entry s = outcome at arrives
    cases arrives with
    | error going =>
      rw [collect, turn_of_error read]
      exact .error going
    | @ok next t place going =>
      cases next with
      | none =>
        have lost := whole read
        rw [going] at lost
        cases lost
      | some e =>
        rw [collect_of_kept read going]
        exact ih (e :: done) going (by rwa [place])

variable {values : ValueReader buf} (meets : ∀ tag, Meets (values.read tag) (walker.pass tag))

include meets

private theorem meets_readPair (keyTag valueTag : UInt8) :
    Meets (readPair values keyTag valueTag) (passEntry walker .map keyTag valueTag) :=
  (meets keyTag).turn fun key => (meets valueTag).map fun value => some (key, value)

private theorem meets_readItem {tag : UInt8} {build : List Value → Value}
    (sequence : Sequence tag kind build) (itemTag second : UInt8) :
    Meets (readItem values itemTag) (passEntry walker kind itemTag second) := by
  cases sequence <;> exact (meets itemTag).map some

end Collections

/-! ## Values that are not built -/

section Unbuilt

variable {limits : Limits} {limit room : Nat} {skip : Read buf Unit} {reason : Fault → Desync}
  {walk : Read buf Unit} {value : Value}

private theorem meets_skipOrLose (extend : ∀ c d, walk c = .ok () d → skip c = .ok () d) :
    Meets (giving fun s : Decoder buf => (value, s.skipOrLose skip reason)) walk := by
  intro s c kept passed
  change Arrives c (.ok value (s.skipOrLose skip reason))
  rw [skipOrLose_of_ok (extend _ _ passed)]
  exact .ok rfl kept

variable (skips : limits.skipUnbuilt) (le : room ≤ limits.maxSkipDepth)

include skips le

private theorem meets_tooDeep (tag : UInt8) :
    Meets (giving (tooDeep limits tag)) ((Walker.ofRoom limit room : Walker buf).pass tag) := by
  rw [tooDeep_of_skips skips]
  apply meets_skipOrLose
  intro c d passed
  exact Read.skipValue_eq_ok_iff.mpr (Walker.extends_of_le le _ _ _ passed)

variable {kind : CollectionKind}

private theorem meets_withinLimits {first second : UInt8} {count : Int32}
    {build : Nat → Decode buf Value} (suits : kind = .map ∨ first = second)
    (builds : Meets (build count.toNatClampNeg) (Walker.collection limit (Walker.inside limit room)
      first second (kind.valuesPerEntry * count.toNatClampNeg))) :
    Meets (withinLimits limits kind first second count build)
      (Walker.collection limit (Walker.inside limit room) first second
        (kind.valuesPerEntry * count.toNatClampNeg)) := by
  intro s c kept passed
  cases refused : limits.refusal? s.elements kind count with
  | none =>
    rw [withinLimits_of_built refused]
    exact builds (s := { s with elements := s.elements + count.toNatClampNeg }) kept passed
  | some placeholder =>
    rw [withinLimits_of_refused refused, tooLarge_of_skips skips]
    refine meets_skipOrLose (fun c d passed => ?_) kept passed
    exact (Read.skipItems_eq_ok_iff (paired_of_suits suits _)).mpr
      (Walker.collection_of_le le passed)

private theorem meets_readCollection {header : Read buf CollectionHeader}
    {entry : UInt8 → UInt8 → Decode buf (Option ε)} {build : List ε → Value}
    (suits : ∀ ⦃h c d⦄, header c = .ok h d → kind = .map ∨ h.first = h.second)
    (whole : ∀ first second, Whole (entry first second))
    (meets : ∀ first second,
      Meets (entry first second) (passEntry (Walker.ofRoom limit room) kind first second)) :
    Meets (readCollection limits kind header entry build)
      (header >>= fun h => Walker.collection limit (Walker.inside limit room) h.first h.second
        (kind.valuesPerEntry * h.count.toNatClampNeg)) := by
  apply Meets.bind
  intro h c d read
  apply meets_withinLimits skips le (suits read)
  have entries := meets_collect (whole h.first h.second) (suits read)
    (meets h.first h.second) [] h.count.toNatClampNeg
  exact (entries.map build).of_passed fun _ _ passed => Walker.items_of_collection passed

end Unbuilt

/-! ## Structs -/

section Structs

variable {limits : Limits} (names : FieldNames) {walker : Walker buf} {values : ValueReader buf}

/-- A field is read where its value is passed. -/
theorem meets_readField (extend : (recovery limits).Extends walker) {tag : UInt8}
    (meets : Meets (values.read tag) (walker.pass tag)) (id : Int16) :
    Meets (giving (readField limits values tag id)) (walker.pass tag) := by
  intro s c kept passed
  have arrives := meets kept passed
  change Arrives c (.ok (readField limits values tag id s).1 (readField limits values tag id s).2)
  cases read : values.read tag s with
  | ok value u =>
    rw [read] at arrives
    rw [readField_of_ok read]
    cases arrives with
    | ok place kept => exact .ok place kept
  | error fault u =>
    rw [read] at arrives
    rw [readField_of_error read]
    have skipped := Read.skipValue_eq_ok_iff.mpr (extend _ _ _ passed)
    rw [skipOrLose_of_ok (s := { u with cursor := s.cursor }) skipped]
    cases arrives with
    | error kept => exact .ok rfl kept

private theorem meets_readEntries (extend : (recovery limits).Extends walker)
    (meets : ∀ tag, Meets (values.read tag) (walker.pass tag)) (done : List (String × Field)) :
    Meets (giving (readEntries limits names values done)) walker.fields := by
  intro s d kept passed
  change Arrives d (.ok (readEntries limits names values done s).1
    (readEntries limits names values done s).2)
  fun_induction readEntries limits names values done s with
  | case1 done s lost =>
    rw [kept] at lost
    cases lost
  | case2 done s _ fault c header =>
    rw [congrFun walker.fields_eq s.cursor, bind_of_error header] at passed
    cases passed
  | case3 done s _ c header =>
    rw [walker.fields_of_stop header] at passed
    cases passed
    exact .ok rfl kept
  | case4 done s _ tag id c header read ih =>
    rw [walker.fields_of_field header] at passed
    obtain ⟨_, e, one, rest⟩ := bind_eq_ok_iff.mp passed
    have arrives := meets_readField (s := { s with cursor := c }) extend (meets tag) id kept one
    change Arrives e (.ok read.1 read.2) at arrives
    cases arrives with
    | ok place going =>
      apply ih going
      rw [place]
      exact rest

/-- The fields of a struct are read where they are passed. -/
theorem meets_readFields (extend : (recovery limits).Extends walker)
    (meets : ∀ tag, Meets (values.read tag) (walker.pass tag)) :
    Meets (giving (readFields limits names values)) walker.fields := by
  intro s c kept passed
  have arrives := meets_readEntries names extend meets [] kept passed
  change Arrives c (.ok (readFields limits names values s).1 (readFields limits names values s).2)
  cases arrives with
  | ok place kept => exact .ok place kept

end Structs

/-! ## Values -/

section Values

variable {limits : Limits} {names : FieldNames} {limit room : Nat}

/-- A value is read where it is passed with no more room than it is skipped with, whatever levels of
nesting are left. -/
theorem meets_values (skips : limits.skipUnbuilt) (le : room ≤ limits.maxSkipDepth) (depth : Nat)
    (tag : UInt8) :
    Meets ((values limits names depth).read tag)
      ((Walker.ofRoom limit room : Walker buf).pass tag) := by
  apply values_induction (motive := fun _ tag act =>
    Meets act ((Walker.ofRoom limit room).pass tag))
  case tooDeep => exact fun _ => meets_tooDeep skips le _
  case unknown =>
    intro depth tag unknown s c _ passed
    rw [Walker.pass_ofRoom, Walker.value_of_unknown unknown] at passed
    exact absurd passed throw_ne_ok
  case fixed =>
    intro depth tag width fixed
    rw [Walker.pass_ofRoom, Walker.value_of_fixed fixed]
    exact (meets_reading (Read.spans_natural width)).map _
  case string =>
    intro depth tag known
    rw [Walker.pass_ofRoom, Walker.value_of_string known]
    exact meets_string.map _
  case struct =>
    intro depth tag known _ meets
    rw [Walker.pass_ofRoom, Walker.value_of_struct known]
    have fields := meets_readFields names (Walker.extends_of_le le) meets
    exact (fields.map _).of_passed fun _ _ passed => Walker.fields_of_within passed
  case map =>
    intro depth tag known meets
    rw [pass_of_map known]
    exact meets_readCollection skips le (fun _ _ _ _ => .inl rfl) whole_readPair
      (meets_readPair meets)
  case sequence =>
    intro depth tag kind build sequence meets
    rw [pass_of_sequence sequence]
    exact meets_readCollection skips le (fun _ _ _ read => .inr (first_eq_second read))
      (fun tag _ => whole_readItem tag) (meets_readItem meets sequence)

end Values

end Decoder

end TaggedRpc
