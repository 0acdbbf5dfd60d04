import TaggedRpc.Proofs.Decode.Turns
import TaggedRpc.Proofs.Tree.Loss

/-!
# Loss of synchronisation in decoded trees

Every part of decoding builds a tree that records the loss of synchronisation at which it ends, if
there is one, and fails only while synchronisation is kept (`Tracks`). So the loss is recorded once,
and everywhere above the place where it happened.
-/

namespace TaggedRpc

namespace Decoder

variable {buf : ByteArray} {limits : Limits} {α β γ ε : Type}

/-- An outcome whose result records the loss at which it ends, or a failure before any loss. -/
inductive Recorded (records : Option Desync → α → Prop) :
    EStateM.Result Fault (Decoder buf) α → Prop where
  | ok {a : α} {t : Decoder buf} (recorded : records t.desync a) : Recorded records (.ok a t)
  | error {fault : Fault} {t : Decoder buf} (kept : t.desync = none) :
    Recorded records (.error fault t)

/-- An action that records the loss of synchronisation, if it starts before any loss. -/
def Tracks (records : Option Desync → α → Prop) (act : Decode buf α) : Prop :=
  ∀ ⦃s : Decoder buf⦄, s.desync = none → Recorded records (act s)

/-! ## Parts -/

section Parts

variable {records : Option Desync → α → Prop} {records' : Option Desync → β → Prop}
  {act : Decode buf α}

private theorem Tracks.pure {b : β} (recorded : records' none b) :
    Tracks records' (Pure.pure b : Decode buf β) := by
  intro s kept
  rw [← kept] at recorded
  exact .ok recorded

private theorem Tracks.bind {read : Read buf γ} {next : γ → Decode buf α}
    (tracks : ∀ c, Tracks records (next c)) : Tracks records (reading read >>= next) := by
  intro s kept
  cases outcome : read s.cursor with
  | ok c place =>
    rw [bind_of_ok (reading_of_ok outcome)]
    exact tracks c (s := { s with cursor := place }) kept
  | error fault place =>
    rw [bind_of_error (reading_eq_error_iff.mpr ⟨place, outcome, rfl⟩)]
    exact .error kept

private theorem Tracks.turn {stop : α → β} {go : α → Decode buf β} (first : Tracks records act)
    (stops : ∀ loss a, records loss a → records' loss (stop a))
    (goes : ∀ a, records none a → Tracks records' (go a)) :
    Tracks records' (turn act stop go) := by
  intro s kept
  have recorded := first kept
  generalize done : act s = outcome at recorded
  cases recorded with
  | error kept =>
    rw [turn_of_error done]
    exact .error kept
  | @ok a t recorded =>
    by_cases going : t.desync = none
    · rw [turn_of_kept done going]
      rw [going] at recorded
      exact goes a recorded going
    · rw [turn_of_lost done (Option.isSome_iff_ne_none.mpr going)]
      exact .ok (stops _ a recorded)

private theorem Tracks.map {f : α → β} (tracks : Tracks records act)
    (keeps : ∀ loss a, records loss a → records' loss (f a)) : Tracks records' (f <$> act) := by
  rw [map_eq_turn]
  exact tracks.turn keeps fun a recorded => .pure (keeps none a recorded)

private theorem tracks_reading (read : Read buf γ) {build : γ → Value}
    (leaf : ∀ c, (build c).isLeaf) : Tracks Value.Records (build <$> reading read) := by
  rw [map_eq_pure_bind]
  exact Tracks.bind fun c => .pure (.of_isLeaf (leaf c))

private theorem tracks_tooDeep (tag : UInt8) :
    Tracks Value.Records (giving (tooDeep limits tag) : Decode buf Value) :=
  fun _ _ => .ok (.of_isLeaf rfl)

private theorem tracks_unknownType (tag : UInt8) :
    Tracks Value.Records (giving (unknownType tag) : Decode buf Value) := by
  intro s _
  apply Recorded.ok
  constructor
  · intro fields among
    cases List.mem_singleton.mp among
  · intro inner among
    cases List.mem_singleton.mp among
    trivial
  · exact Nat.le_refl 1
  · intro other among
    cases List.mem_singleton.mp among
    rfl

private theorem isLeaf_of_refusal? {elements : Nat} {kind : CollectionKind} {count : Int32}
    {placeholder : Placeholder}
    (refused : limits.refusal? elements kind count = some placeholder) :
    (Value.placeholder placeholder).isLeaf := by
  rcases eq_of_refusal? refused with ⟨rfl, -⟩ | ⟨rfl, -⟩ <;> rfl

private theorem tracks_withinLimits {kind : CollectionKind} {first second : UInt8} {count : Int32}
    {build : Nat → Decode buf Value} (builds : ∀ n, Tracks Value.Records (build n)) :
    Tracks Value.Records (withinLimits limits kind first second count build) := by
  intro s kept
  cases refused : limits.refusal? s.elements kind count with
  | some placeholder =>
    rw [withinLimits_of_refused refused]
    exact .ok (.of_isLeaf (isLeaf_of_refusal? refused))
  | none =>
    rw [withinLimits_of_built refused]
    exact builds _ (s := { s with elements := s.elements + count.toNatClampNeg }) kept

end Parts

/-! ## Collections -/

section Collections

variable {records : Option Desync → ε → Prop}

private theorem tracks_collect {entry : Decode buf (Option ε)}
    (tracks : Tracks (fun loss next => ∀ e ∈ next, records loss e) entry) {done : List ε}
    (before : ∀ e ∈ done, records none e) (size : Nat) :
    Tracks (fun loss => UpToLast (records none) (records loss)) (collect entry done size) := by
  have before' : ∀ e ∈ done.reverse, records none e :=
    fun e among => before e (List.mem_reverse.mp among)
  induction size generalizing done with
  | zero => exact .pure (.clean before')
  | succ left ih =>
    apply tracks.turn
    · intro loss next recorded
      cases next with
      | none => exact .clean before'
      | some e =>
        change UpToLast _ _ (e :: done).reverse
        rw [List.reverse_cons]
        exact .last before' (recorded e rfl)
    · intro next recorded
      cases next with
      | none => exact .pure (.clean before')
      | some e =>
        have all := List.forall_mem_cons.mpr ⟨recorded e rfl, before⟩
        exact ih all fun e among => all e (List.mem_reverse.mp among)

private theorem tracks_readCollection {kind : CollectionKind} {header : Read buf CollectionHeader}
    {entry : UInt8 → UInt8 → Decode buf (Option ε)} {build : List ε → Value}
    (tracks : ∀ first second,
      Tracks (fun loss next => ∀ e ∈ next, records loss e) (entry first second))
    (keeps : ∀ loss all, UpToLast (records none) (records loss) all → (build all).Records loss) :
    Tracks Value.Records (readCollection limits kind header entry build) := by
  apply Tracks.bind
  intro h
  apply tracks_withinLimits
  intro size
  exact (tracks_collect (tracks h.first h.second) (List.forall_mem_nil _) size).map keeps

variable {values : ValueReader buf} (tracks : ∀ tag, Tracks Value.Records (values.read tag))

include tracks

private theorem tracks_readItem (tag : UInt8) :
    Tracks (fun loss next => ∀ item ∈ next, item.Records loss) (readItem values tag) :=
  (tracks tag).map fun _ _ recorded _ same => Option.mem_some.mp same ▸ recorded

private theorem tracks_readPair (keyTag valueTag : UInt8) :
    Tracks (fun loss next => ∀ entry ∈ next, Value.PairRecords loss entry)
      (readPair values keyTag valueTag) := by
  apply (tracks keyTag).turn
  · exact fun _ _ _ => nofun
  · intro key keyRecorded
    apply (tracks valueTag).map
    rintro loss value recorded _ ⟨⟩
    exact ⟨keyRecorded, recorded⟩

end Collections

/-! ## Structs -/

section Structs

variable {names : FieldNames} {values : ValueReader buf}

/-- The fields that are read from a state end at the stop tag of their own struct. -/
inductive EndsAtStop (limits : Limits) (values : ValueReader buf) : Decoder buf → Prop where
  | stop {s : Decoder buf} {c : Cursor buf} (kept : s.desync = none)
    (header : readHeader s.cursor = .ok none c) : EndsAtStop limits values s
  | field {s : Decoder buf} {c : Cursor buf} {tag : UInt8} {id : Int16} (kept : s.desync = none)
    (header : readHeader s.cursor = .ok (some (tag, id)) c)
    (rest : EndsAtStop limits values (readField limits values tag id { s with cursor := c }).2) :
    EndsAtStop limits values s

/-- Fields keep synchronisation exactly when they end at their stop tag. -/
theorem readEntries_kept_iff (names : FieldNames) (done : List (String × Field)) (s : Decoder buf) :
    (readEntries limits names values done s).2.desync = none ↔ EndsAtStop limits values s := by
  constructor
  · intro final
    fun_induction readEntries limits names values done s with
    | case1 done s lost =>
      rw [final] at lost
      cases lost
    | case2 => cases final
    | case3 done s _ c header => exact .stop final header
    | case4 done s lost tag id c header read ih =>
      exact .field (Option.not_isSome_iff_eq_none.mp lost) header (ih final)
  · intro ends
    induction ends generalizing done with
    | stop kept header =>
      rw [readEntries_of_stop kept header]
      exact kept
    | field kept header rest ih =>
      rw [readEntries_of_field kept header]
      exact ih _

variable (tracks : ∀ tag, Tracks Value.Records (values.read tag))

include tracks

/-- A field records the loss: in its value, or because it has none. -/
private theorem tracks_readField (tag : UInt8) (id : Int16) :
    Tracks (fun loss field => ∀ value ∈ field.value, value.Records loss)
      (giving (readField limits values tag id)) := by
  intro s kept
  have recorded := tracks tag kept
  generalize read : values.read tag s = outcome at recorded
  cases recorded with
  | ok recorded =>
    rw [giving_eq_ok_iff.mpr (readField_of_ok read)]
    apply Recorded.ok
    rintro value ⟨⟩
    exact recorded
  | error =>
    rw [giving_eq_ok_iff.mpr (readField_of_error read)]
    exact .ok nofun

private theorem tracks_readEntry :
    Tracks (fun loss next => ∀ entry ∈ next, Fields.EntryRecords loss entry)
      (readEntry limits names values) := by
  have header : Tracks (fun _ _ => True)
      (giving nextHeader : Decode buf (Option (UInt8 × Int16))) := fun _ _ => .ok trivial
  apply header.turn
  · exact fun _ _ _ => nofun
  · rintro (_ | ⟨tag, id⟩) -
    · exact .pure nofun
    · apply (tracks_readField tracks tag id).map
      rintro loss field recorded _ ⟨⟩
      exact recorded

private theorem tracks_collectFields (size : Nat) :
    Tracks (fun loss => UpToLast (Fields.EntryRecords none) (Fields.EntryRecords loss))
      (collectFields limits names values [] size) := by
  have start : Tracks (fun _ _ => True) (Pure.pure () : Decode buf Unit) := .pure trivial
  apply start.turn
  · exact fun _ _ _ => .clean nofun
  · exact fun _ _ => tracks_collect (tracks_readEntry tracks) (List.forall_mem_nil _) size

private theorem tracks_readFields :
    Tracks (fun loss fields => (Value.struct fields).Records loss)
      (giving (readFields limits names values)) := by
  intro s kept
  obtain ⟨all, t, collected, read⟩ :=
    exists_collected limits names values (Nat.lt_succ_self buf.size) s
  have recorded : Recorded _ (collectFields limits names values [] (buf.size + 1) s) :=
    tracks_collectFields tracks _ kept
  rw [collected] at recorded
  rw [read]
  cases recorded with
  | ok recorded => exact .ok (Fields.records_struct recorded)

end Structs

/-! ## Values -/

/-- A value records the loss, whatever levels of nesting are left. -/
theorem tracks_values (limits : Limits) (names : FieldNames) (depth : Nat) (tag : UInt8) :
    Tracks Value.Records ((values limits names depth : ValueReader buf).read tag) := by
  apply values_induction (motive := fun _ _ => Tracks Value.Records)
  case tooDeep => exact fun _ => tracks_tooDeep _
  case unknown => exact fun _ => tracks_unknownType _
  case fixed => exact fun _ => tracks_reading _ fun n => isLeaf_fixedValue _ n
  case string => exact fun _ => tracks_reading _ fun _ => rfl
  case struct => exact fun _ _ tracks => (tracks_readFields tracks).map fun _ _ => id
  case map =>
    exact fun _ tracks =>
      tracks_readCollection (tracks_readPair tracks) fun _ _ => Value.records_map
  case sequence =>
    intro depth tag kind build sequence tracks
    apply tracks_readCollection fun tag _ => tracks_readItem tracks tag
    intro loss items
    cases sequence with
    | set => exact Value.records_set
    | list => exact Value.records_list

/-- The loss of synchronisation is recorded once and everywhere. The fields of a struct are
incomplete for the reason of the loss, and complete exactly when they end at their own stop tag.
Every struct among them that is incomplete gives the same reason; such structs lie in one field of a
struct, in the last item of a collection, and never in the key of a map, and every struct around
them is incomplete. An unknown tag is the only one, and the reason of the loss. -/
theorem readFields_records_loss (limits : Limits) (names : FieldNames) (depth : Nat)
    (s : Decoder buf) (kept : s.desync = none) :
    let read := readFields limits names (values limits names depth) s
    (read.1.incomplete = read.2.desyncReason ∧
      (read.1.incomplete = none ↔ EndsAtStop limits (values limits names depth) s)) ∧
    (∀ fields, .struct fields ∈ (Value.struct read.1).subvalues →
      fields.incomplete = none ∨ fields.incomplete = read.2.desyncReason) ∧
    (∀ inner ∈ (Value.struct read.1).subvalues, inner.BreaksOnce) ∧
    (Value.struct read.1).unknownTags.length ≤ 1 ∧
      ∀ tag ∈ (Value.struct read.1).unknownTags,
        read.2.desyncReason = some ("unknown type tag " ++ toString tag.toNat) := by
  intro read
  have records : (Value.struct read.1).Records read.2.desync := by
    cases tracks_readFields (tracks_values limits names depth) kept with
    | ok recorded => exact recorded
  refine ⟨⟨rfl, ?_⟩, records.reasons, records.nodes, records.single, ?_⟩
  · rw [← readEntries_kept_iff names []]
    exact Option.map_eq_none_iff
  · intro tag among
    exact congrArg (Option.map Desync.message) (records.unknown tag among)

/-- A field that is a struct, with a field inside it whose tag is not known. -/
def unknownInside : ByteArray := ⟨#[12, 0, 1, 5, 0, 2, 7]⟩

/-- An unknown tag inside a struct is the reason why all structs around it end early. -/
theorem unknownInside_records_loss :
    let read := readFields {} .empty (values {} .empty 3) (.start unknownInside)
    read.1.incomplete = some "unknown type tag 5" ∧
      ∀ fields, .struct fields ∈ (Value.struct read.1).subvalues →
        fields.incomplete = none ∨ fields.incomplete = some "unknown type tag 5" := by
  intro read
  have reason : read.2.desyncReason = some "unknown type tag 5" := by decide +kernel
  obtain ⟨⟨same, -⟩, each, -⟩ := readFields_records_loss {} .empty 3 (.start unknownInside) rfl
  exact ⟨same.trans reason, fun fields among => (each fields among).imp_right (·.trans reason)⟩

end Decoder

end TaggedRpc
