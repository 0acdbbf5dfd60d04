import TaggedRpc.Proofs.Decode.Turns
import TaggedRpc.Proofs.Tree.Totals

/-!
# Counting of entries

Every entry of a collection that is built has been counted before (`Counts`). The count never goes
above the limit for all collections of a message, so no tree has more entries. Entries of fields
that failed or that were replaced are counted as well, and so are entries that synchronisation was
lost before. A loss itself is not forgotten, and as nothing is read after it, an action that fails
has not brought one about.
-/

namespace TaggedRpc

namespace Decoder

variable {buf : ByteArray} {limits : Limits} {room : Nat} {α β γ ε : Type}

/-- What an action leaves of the decoder `s`. It has counted what it has built, up to some that was
counted beforehand, and has not counted too much. A success forgets no loss of synchronisation, and
a failure brings none about. -/
inductive Counted (limits : Limits) (s : Decoder buf) (room : Nat) (weight : α → Nat) :
    EStateM.Result Fault (Decoder buf) α → Prop where
  | ok {a : α} {t : Decoder buf} (counts : s.elements + weight a ≤ t.elements + room)
    (within : t.elements ≤ limits.maxElements) (lost : s.desync.isSome → t.desync.isSome) :
    Counted limits s room weight (.ok a t)
  | error {fault : Fault} {t : Decoder buf} (counts : s.elements ≤ t.elements)
    (within : t.elements ≤ limits.maxElements) (same : t.desync = s.desync) :
    Counted limits s room weight (.error fault t)

/-- An action that counts what it builds, if not too much has been counted before. -/
def Counts (limits : Limits) (room : Nat) (weight : α → Nat) (act : Decode buf α) : Prop :=
  ∀ ⦃s : Decoder buf⦄, s.elements ≤ limits.maxElements → Counted limits s room weight (act s)

private theorem Counted.weaken {weight : α → Nat} {outcome : EStateM.Result Fault (Decoder buf) α}
    {s t : Decoder buf} {room' count : Nat} (counted : Counted limits t room' weight outcome)
    (moved : s.elements + count ≤ t.elements) (rooms : room' ≤ room + count)
    (same : t.desync = s.desync) : Counted limits s room weight outcome := by
  cases counted with
  | ok counts within lost => exact .ok (by omega) within (same ▸ lost)
  | error counts within same' => exact .error (by omega) within (same'.trans same)

theorem Counted.elements_le {weight : α → Nat} {s t : Decoder buf} {a : α}
    (counted : Counted limits s room weight (.ok a t)) :
    s.elements + weight a ≤ t.elements + room ∧ t.elements ≤ limits.maxElements := by
  cases counted with
  | ok counts within => exact ⟨counts, within⟩

/-! ## Parts -/

section Parts

variable {weight : α → Nat} {act : Decode buf α}

private theorem Counts.pure {a : α} (le : weight a ≤ room) :
    Counts limits room weight (Pure.pure a : Decode buf α) :=
  fun _ within => .ok (Nat.add_le_add_left le _) within id

private theorem Counts.map (counts : Counts limits room weight act) {weight' : β → Nat}
    {room' : Nat} {f : α → β} (le : ∀ a, weight' (f a) + room ≤ room' + weight a) :
    Counts limits room' weight' (f <$> act) := by
  intro s within
  have counted := counts within
  generalize done : act s = outcome at counted
  cases counted with
  | @ok a t counts within lost =>
    have more := le a
    rw [map_eq_ok_iff.mpr ⟨a, done, rfl⟩]
    exact .ok (by omega) within lost
  | error counts within same =>
    rw [map_eq_error_iff.mpr done]
    exact .error counts within same

/-- A turn counts what it builds. What is built first was counted when it goes on. -/
private theorem Counts.turn {weight' : β → Nat} {stop : α → β} {go : α → Decode buf β}
    (first : Counts limits 0 weight act) (stops : ∀ a, weight' (stop a) ≤ room + weight a)
    (goes : ∀ a, Counts limits (room + weight a) weight' (go a)) :
    Counts limits room weight' (turn act stop go) := by
  intro s within
  have counted := first within
  generalize done : act s = outcome at counted
  cases counted with
  | error counts within same =>
    rw [turn_of_error done]
    exact .error counts within same
  | @ok a t counts within lost =>
    by_cases kept : t.desync = none
    · have before : s.desync = none := by
        rw [kept] at lost
        simpa using lost
      rw [turn_of_kept done kept]
      exact (goes a within).weaken counts (Nat.le_refl _) (kept.trans before.symm)
    · have lost := Option.isSome_iff_ne_none.mpr kept
      have more := stops a
      rw [turn_of_lost done lost]
      exact .ok (by omega) within fun _ => lost

private theorem Counts.bind {read : Read buf γ} {next : γ → Decode buf α}
    (counts : ∀ c, Counts limits room weight (next c)) :
    Counts limits room weight (reading read >>= next) := by
  intro s within
  cases outcome : read s.cursor with
  | ok c place =>
    rw [bind_of_ok (reading_of_ok outcome)]
    have counted := counts c (s := { s with cursor := place }) within
    exact counted.weaken (Nat.le_refl _ : s.elements + 0 ≤ s.elements) (Nat.le_refl _) rfl
  | error fault place =>
    rw [bind_of_error (reading_eq_error_iff.mpr ⟨place, outcome, rfl⟩)]
    exact .error (Nat.le_refl _) within rfl

private theorem counts_reading (read : Read buf γ) {build : γ → α}
    (single : ∀ c, weight (build c) = 0) : Counts limits 0 weight (build <$> reading read) := by
  rw [map_eq_pure_bind]
  exact Counts.bind fun c => .pure (Nat.le_of_eq (single c))

private theorem counts_giving {act : Decoder buf → α × Decoder buf}
    (single : ∀ s, weight (act s).1 = 0) (same : ∀ s, (act s).2.elements = s.elements)
    (lost : ∀ s, s.desync.isSome → (act s).2.desync.isSome) :
    Counts limits 0 weight (giving act) :=
  fun s within => .ok (Nat.le_of_eq (by rw [single, same])) (by rwa [same]) (lost s)

private theorem elements_skipOrLose (skip : Read buf Unit) (reason : Fault → Desync)
    (s : Decoder buf) : (skipOrLose skip reason s).elements = s.elements := by
  unfold skipOrLose
  cases skip s.cursor <;> rfl

private theorem isSome_skipOrLose (skip : Read buf Unit) (reason : Fault → Desync)
    (s : Decoder buf) (lost : s.desync.isSome) : (skipOrLose skip reason s).desync.isSome := by
  unfold skipOrLose
  cases skip s.cursor with
  | ok => exact lost
  | error => rfl

private theorem counts_tooDeep (tag : UInt8) :
    Counts limits 0 Value.entryTotal (giving (tooDeep limits tag) : Decode buf Value) := by
  refine counts_giving (fun _ => rfl) (fun s => ?_) fun s lost => ?_ <;> unfold tooDeep <;> split
  · exact elements_skipOrLose _ _ s
  · rfl
  · exact isSome_skipOrLose _ _ s lost
  · exact lost

private theorem counts_tooLarge (kind : CollectionKind) (first second : UInt8) (count : Int32)
    (placeholder : Placeholder) :
    Counts limits 0 Value.entryTotal
      (giving (tooLarge limits kind first second count placeholder) : Decode buf Value) := by
  refine counts_giving (fun _ => rfl) (fun s => ?_) fun s lost => ?_ <;> unfold tooLarge <;> split
  · exact elements_skipOrLose _ _ s
  · rfl
  · exact isSome_skipOrLose _ _ s lost
  · exact lost

private theorem counts_withinLimits {kind : CollectionKind} {first second : UInt8} {count : Int32}
    {build : Nat → Decode buf Value}
    (builds : ∀ n, Counts limits n Value.entryTotal (build n)) :
    Counts limits 0 Value.entryTotal (withinLimits limits kind first second count build) := by
  intro s within
  cases refused : limits.refusal? s.elements kind count with
  | some placeholder =>
    rw [withinLimits_of_refused refused]
    exact counts_tooLarge kind first second count placeholder within
  | none =>
    have left := (le_of_built refused).2
    rw [withinLimits_of_built refused]
    have counted := builds count.toNatClampNeg
      (s := { s with elements := s.elements + count.toNatClampNeg }) (by dsimp only; omega)
    exact counted.weaken (Nat.le_refl _) (Nat.le_add_left _ _) rfl

end Parts

/-! ## Collections -/

section Collections

variable {entry : Decode buf (Option ε)} {weight : ε → Nat}

/-- Entries count what is in them. What was counted beforehand is what is in `done`, and some more
for each entry that is left. -/
private theorem counts_collect (counts : Counts limits 0 (fun next => next.elim 0 weight) entry)
    (own : Nat) (done : List ε) (size : Nat) :
    Counts limits ((done.map fun e => weight e + own).sum + own * size)
      (fun all => (all.map fun e => weight e + own).sum) (collect entry done size) := by
  have reversed (all : List ε) : (all.reverse.map fun e => weight e + own).sum =
      (all.map fun e => weight e + own).sum := by
    rw [List.map_reverse, List.sum_reverse]
  induction size generalizing done with
  | zero => exact .pure (Nat.le_of_eq (reversed done))
  | succ left ih =>
    have longer (e : ε) : ((e :: done).map fun e => weight e + own).sum + own * left =
        (done.map fun e => weight e + own).sum + own * (left + 1) + weight e := by
      rw [List.map_cons, List.sum_cons, Nat.mul_succ]
      omega
    apply counts.turn
    · intro next
      rw [reversed]
      cases next with
      | none => exact Nat.le_trans (Nat.le_add_right _ _) (Nat.le_add_right _ _)
      | some e => exact Nat.le_trans (Nat.le_add_right _ _) (Nat.le_of_eq (longer e))
    · intro next
      cases next with
      | none => exact .pure ((reversed done).le.trans (Nat.le_add_right _ _))
      | some e =>
        have rest := ih (e :: done)
        rwa [longer] at rest

private theorem counts_readCollection {kind : CollectionKind} {header : Read buf CollectionHeader}
    {entry : UInt8 → UInt8 → Decode buf (Option ε)} {build : List ε → Value}
    (counts : ∀ first second, Counts limits 0 (fun next => next.elim 0 weight) (entry first second))
    (total : ∀ all, (build all).entryTotal = (all.map fun e => weight e + 1).sum) :
    Counts limits 0 Value.entryTotal (readCollection limits kind header entry build) := by
  apply Counts.bind
  intro h
  apply counts_withinLimits
  intro size
  have entries := counts_collect (counts h.first h.second) 1 [] size
  rw [List.map_nil, List.sum_nil, Nat.zero_add, Nat.one_mul] at entries
  apply entries.map
  intro all
  rw [total, Nat.add_comm]

variable {values : ValueReader buf}
  (counts : ∀ tag, Counts limits 0 Value.entryTotal (values.read tag))

include counts

private theorem counts_readItem (tag : UInt8) :
    Counts limits 0 (fun next => next.elim 0 Value.entryTotal) (readItem values tag) :=
  (counts tag).map fun _ => Nat.le_of_eq (Nat.add_comm _ _)

private theorem counts_readPair (keyTag valueTag : UInt8) :
    Counts limits 0 (fun next => next.elim 0 fun entry => entry.1.entryTotal + entry.2.entryTotal)
      (readPair values keyTag valueTag) := by
  apply (counts keyTag).turn
  · exact fun key => Nat.zero_le _
  · intro key
    apply (counts valueTag).map
    exact fun value => Nat.le_of_eq (by rw [Nat.zero_add]; rfl)

/-! ## Structs -/

/-- A field counts the entries in its value, and also those that were built before it failed. -/
theorem counts_readField (tag : UInt8) (id : Int16) :
    Counts limits 0 Field.entryTotal (giving (readField limits values tag id)) := by
  intro s within
  have counted := counts tag within
  unfold giving
  generalize read : values.read tag s = outcome at counted
  cases counted with
  | ok counts within lost =>
    rw [readField_of_ok read]
    exact .ok counts within lost
  | @error fault t counts within same =>
    rw [readField_of_error read]
    -- The entries that were built before the fault stay counted, while the skip counts nothing.
    refine .ok (by rwa [elements_skipOrLose]) (by rwa [elements_skipOrLose]) fun lost => ?_
    exact isSome_skipOrLose _ _ _ (by rwa [same])

variable (names : FieldNames)

private theorem counts_readEntry :
    Counts limits 0 (fun next => next.elim 0 fun entry => entry.2.entryTotal)
      (readEntry limits names values) := by
  have header : Counts limits 0 (fun _ => 0)
      (giving nextHeader : Decode buf (Option (UInt8 × Int16))) := by
    refine counts_giving (fun _ => rfl) (fun s => ?_) fun s lost => ?_ <;> unfold nextHeader <;>
      split
    · rfl
    · rfl
    · exact lost
    · rfl
  apply header.turn
  · exact fun _ => Nat.zero_le _
  · rintro (_ | ⟨tag, id⟩)
    · exact .pure (Nat.zero_le _)
    · exact (counts_readField counts tag id).map fun field => Nat.le_of_eq (Nat.add_comm _ _)

private theorem counts_collectFields (size : Nat) :
    Counts limits 0 (fun all => (all.map fun entry => entry.2.entryTotal).sum)
      (collectFields limits names values [] size) := by
  have start : Counts limits 0 (fun _ => 0) (Pure.pure () : Decode buf Unit) :=
    .pure (Nat.le_refl 0)
  apply start.turn
  · exact fun _ => Nat.le_refl 0
  · intro
    have entries := counts_collect (counts_readEntry counts names) 0 [] size
    rwa [Nat.zero_mul] at entries

/-- The fields of a struct count the entries in their values. Those that are replaced count too. -/
theorem counts_readFields :
    Counts limits 0 Fields.entryTotal (giving (readFields limits names values)) := by
  intro s within
  have counted := counts_collectFields counts names (buf.size + 1) within
  obtain ⟨all, t, collected, read⟩ :=
    exists_collected limits names values (Nat.lt_succ_self buf.size) s
  rw [collected] at counted
  rw [read]
  cases counted with
  | ok counts within lost =>
    -- Fields that were replaced are counted and not in the tree, so this is not an equation.
    have kept := Fields.sum_ofList_le Field.entryTotal all
    refine .ok (Nat.le_trans (Nat.add_le_add_left ?_ _) counts) within lost
    rw [Fields.entryTotal, Fields.total_eq]
    exact kept

end Collections

/-- All values count the entries that they are built of, whatever levels of nesting are left. -/
theorem counts_values (limits : Limits) (names : FieldNames) (depth : Nat) (tag : UInt8) :
    Counts limits 0 Value.entryTotal ((values limits names depth : ValueReader buf).read tag) := by
  apply values_induction (motive := fun _ _ => Counts limits 0 Value.entryTotal)
  case tooDeep => exact fun _ => counts_tooDeep _
  case unknown => exact fun _ => counts_giving (fun _ => rfl) (fun _ => rfl) fun _ _ => rfl
  case fixed =>
    exact fun _ => counts_reading _ fun n => Value.entryTotal_of_isLeaf (isLeaf_fixedValue _ n)
  case string => exact fun _ => counts_reading _ fun _ => rfl
  case struct =>
    intro depth tag _ _ counts
    apply (counts_readFields counts names).map
    exact fun fields => Nat.le_of_eq (by rw [Value.entryTotal_struct, Nat.add_comm])
  case map =>
    exact fun _ counts => counts_readCollection (counts_readPair counts) Value.entryTotal_map
  case sequence =>
    intro depth tag kind build sequence counts
    apply counts_readCollection fun tag _ => counts_readItem counts tag
    cases sequence with
    | set => exact Value.entryTotal_set
    | list => exact Value.entryTotal_list

/-- Wherever fields are read, they have no more entries than a message may have. -/
theorem entryTotal_readFields_le (names : FieldNames) (depth : Nat) {s : Decoder buf}
    (within : s.elements ≤ limits.maxElements) :
    (readFields limits names (values limits names depth) s).1.entryTotal ≤ limits.maxElements := by
  have counted := counts_readFields (counts_values limits names depth) names within
  obtain ⟨counts, within'⟩ := counted.elements_le
  exact Nat.le_trans (Nat.le_trans (Nat.le_add_left _ _) counts) within'

end Decoder

end TaggedRpc
