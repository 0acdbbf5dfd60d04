import TaggedRpc.Proofs.Decode.Counted
import TaggedRpc.Proofs.Decode.Message

/-!
# No amplification

Every field in a decoded tree stands for three bytes of its own, those of its header, which decoding
has moved on by (`Pays`). A field that fails is moved back behind its header only, so its header is
still paid for, and what was read of its value is not in the tree. With the limit on the entries of
collections this bounds the number of all values in the tree of a message (`decode_size_le`).
-/

namespace TaggedRpc

namespace Decoder

variable {buf : ByteArray} {limits : Limits} {room : Nat} {α β γ ε : Type}

/-- An action that, if it succeeds, has moved on by three bytes for each field in what it gives,
except for some fields that were paid for beforehand. -/
structure Pays (room : Nat) (count : α → Nat) (act : Decode buf α) : Prop where
  of_ok : ∀ {s t : Decoder buf} {a : α}, act s = .ok a t → s.pos + 3 * count a ≤ t.pos + 3 * room

/-! ## Parts -/

section Parts

variable {count : α → Nat} {act : Decode buf α}

private theorem Pays.weaken {room' : Nat} (pays : Pays room count act) (le : room ≤ room') :
    Pays room' count act where
  of_ok outcome := by
    have paid := pays.of_ok outcome
    omega

private theorem Pays.pure {a : α} (le : count a ≤ room) :
    Pays room count (Pure.pure a : Decode buf α) where
  of_ok outcome := by
    obtain ⟨rfl, rfl⟩ := pure_eq_ok_iff.mp outcome
    omega

private theorem Pays.map {count' : β → Nat} {f : α → β} (pays : Pays 0 count act)
    (le : ∀ a, count' (f a) ≤ count a + room) : Pays room count' (f <$> act) where
  of_ok outcome := by
    obtain ⟨a, done, rfl⟩ := map_eq_ok_iff.mp outcome
    have paid := pays.of_ok done
    have more := le a
    omega

private theorem Pays.bind {n : Nat} {read : Read buf γ} {next : γ → Decode buf α}
    (forth : Advances Cursor.pos n read) (pays : ∀ c, Pays room count (next c)) :
    Pays room count (reading read >>= next) where
  of_ok outcome := by
    obtain ⟨c, u, done, rest⟩ := bind_eq_ok_iff.mp outcome
    have before := (advances_reading forth).le_of_ok done
    have behind := (pays c).of_ok rest
    omega

private theorem Pays.turn {count' : β → Nat} {stop : α → β} {go : α → Decode buf β}
    (first : Pays 0 count act) (stops : ∀ a, count' (stop a) ≤ room + count a)
    (goes : ∀ a, Pays (room + count a) count' (go a)) : Pays room count' (turn act stop go) where
  of_ok {s t b} outcome := by
    obtain ⟨a, u, done, ⟨-, rfl, rfl⟩ | ⟨-, rest⟩⟩ := turn_eq_ok outcome
    · have paid := first.of_ok done
      have more := stops a
      omega
    · have paid := first.of_ok done
      have behind := (goes a).of_ok rest
      omega

private theorem pays_reading {n : Nat} {read : Read buf γ} (forth : Advances Cursor.pos n read)
    {build : γ → α} (single : ∀ c, count (build c) = 0) :
    Pays 0 count (build <$> reading read) := by
  rw [map_eq_pure_bind]
  exact Pays.bind forth fun c => .pure (Nat.le_of_eq (single c))

private theorem pays_giving {act : Decoder buf → α × Decoder buf}
    (paid : ∀ s, s.pos + 3 * count (act s).1 ≤ (act s).2.pos) : Pays 0 count (giving act) where
  of_ok {s t a} outcome := by
    have given := paid s
    rw [giving_eq_ok_iff.mp outcome] at given
    exact given

/-- A collection is paid for if its entries are. What stands for one has no fields. -/
private theorem pays_withinLimits {kind : CollectionKind} {first second : UInt8} {size : Int32}
    {build : Nat → Decode buf Value} (builds : ∀ n, Pays 0 Value.fieldTotal (build n)) :
    Pays 0 Value.fieldTotal (withinLimits limits kind first second size build) where
  of_ok {s t value} outcome := by
    cases refused : limits.refusal? s.elements kind size with
    | some placeholder =>
      rw [withinLimits_of_refused refused] at outcome
      exact (pays_giving (pos_le_tooLarge limits kind first second size placeholder)).of_ok outcome
    | none =>
      rw [withinLimits_of_built refused] at outcome
      have paid := (builds _).of_ok outcome
      exact paid

end Parts

/-! ## Collections -/

section Collections

variable {weight : ε → Nat}

/-- Entries pay for the fields in them. Those in `done` were paid for beforehand. -/
private theorem pays_collect {entry : Decode buf (Option ε)}
    (pays : Pays 0 (fun next => next.elim 0 weight) entry) (done : List ε) (size : Nat) :
    Pays (done.map weight).sum (fun all => (all.map weight).sum) (collect entry done size) := by
  have reversed (all : List ε) : (all.reverse.map weight).sum = (all.map weight).sum := by
    rw [List.map_reverse, List.sum_reverse]
  induction size generalizing done with
  | zero => exact .pure (Nat.le_of_eq (reversed done))
  | succ left ih =>
    have longer (e : ε) : ((e :: done).map weight).sum = (done.map weight).sum + weight e := by
      rw [List.map_cons, List.sum_cons, Nat.add_comm]
    apply pays.turn
    · intro next
      rw [reversed]
      cases next with
      | none => exact Nat.le_add_right _ _
      | some e => exact Nat.le_of_eq (longer e)
    · intro next
      cases next with
      | none => exact .pure (Nat.le_of_eq (reversed done))
      | some e => exact (ih (e :: done)).weaken (Nat.le_of_eq (longer e))

private theorem pays_readCollection {kind : CollectionKind} {n : Nat}
    {header : Read buf CollectionHeader} (forth : Advances Cursor.pos n header)
    {entry : UInt8 → UInt8 → Decode buf (Option ε)} {build : List ε → Value}
    (pays : ∀ first second, Pays 0 (fun next => next.elim 0 weight) (entry first second))
    (total : ∀ all, (build all).fieldTotal = (all.map weight).sum) :
    Pays 0 Value.fieldTotal (readCollection limits kind header entry build) := by
  apply Pays.bind forth
  intro h
  apply pays_withinLimits
  intro size
  exact (pays_collect (pays h.first h.second) [] size).map fun all => Nat.le_of_eq (total all)

variable {values : ValueReader buf} (pays : ∀ tag, Pays 0 Value.fieldTotal (values.read tag))

include pays

private theorem pays_readItem (tag : UInt8) :
    Pays 0 (fun next => next.elim 0 Value.fieldTotal) (readItem values tag) :=
  (pays tag).map fun _ => Nat.le_refl _

private theorem pays_readPair (keyTag valueTag : UInt8) :
    Pays 0 (fun next => next.elim 0 fun entry => entry.1.fieldTotal + entry.2.fieldTotal)
      (readPair values keyTag valueTag) := by
  apply (pays keyTag).turn
  · exact fun key => Nat.zero_le _
  · intro key
    apply (pays valueTag).map
    intro value
    rw [Option.elim_some, Nat.zero_add, Nat.add_comm]

end Collections

/-! ## Structs -/

section Structs

variable {names : FieldNames} {values : ValueReader buf}

private theorem pos_add_three_le_of_readHeader {c d : Cursor buf} {tag : UInt8} {id : Int16}
    (header : readHeader c = .ok (some (tag, id)) d) : c.pos + 3 ≤ d.pos := by
  obtain ⟨first, e, tagRead, rest⟩ := bind_eq_ok_iff.mp header
  have moved := Read.advances_uint8.le_of_ok tagRead
  split at rest
  · cases (pure_eq_ok_iff.mp rest).1
  · obtain ⟨number, f, idRead, same⟩ := bind_eq_ok_iff.mp rest
    have moved' := Read.advances_int16.le_of_ok idRead
    obtain ⟨-, rfl⟩ := pure_eq_ok_iff.mp same
    omega

private theorem pays_nextHeader :
    Pays 0 (fun next => next.elim 0 fun _ => 1)
      (giving nextHeader : Decode buf (Option (UInt8 × Int16))) := by
  apply pays_giving
  intro s
  cases header : readHeader s.cursor with
  | error fault c =>
    rw [nextHeader_of_error header]
    exact advances_readHeader.le_of_error header
  | ok content c =>
    rw [nextHeader_of_ok header]
    rcases content with _ | ⟨tag, id⟩
    · exact Nat.le_of_succ_le (advances_readHeader.le_of_ok header)
    · exact pos_add_three_le_of_readHeader header

variable (pays : ∀ tag, Pays 0 Value.fieldTotal (values.read tag))

include pays

/-- A field pays for the fields inside it. If it fails there are none, and it is moved back to the
start of its value and not before that. -/
private theorem pays_readField (tag : UInt8) (id : Int16) :
    Pays 0 Field.fieldTotal (giving (readField limits values tag id)) := by
  apply pays_giving
  intro s
  cases read : values.read tag s with
  | ok value t =>
    rw [readField_of_ok read]
    exact (pays tag).of_ok read
  | error fault t =>
    have kept := pos_le_readField limits values tag id s
    rw [readField_of_error read] at kept ⊢
    exact kept

private theorem pays_readEntry :
    Pays 0 (fun next => next.elim 0 fun entry => entry.2.fieldTotal + 1)
      (readEntry limits names values) := by
  apply pays_nextHeader.turn
  · exact fun _ => Nat.zero_le _
  · rintro (_ | ⟨tag, id⟩)
    · exact .pure (Nat.le_refl _)
    · exact (pays_readField pays tag id).map fun field => Nat.le_refl _

private theorem pays_collectFields (size : Nat) :
    Pays 0 (fun all => (all.map fun entry => entry.2.fieldTotal + 1).sum)
      (collectFields limits names values [] size) := by
  have start : Pays 0 (fun _ => 0) (Pure.pure () : Decode buf Unit) := .pure (Nat.le_refl 0)
  apply start.turn
  · exact fun _ => Nat.le_refl 0
  · exact fun _ => pays_collect (pays_readEntry pays) [] size

/-- The fields of a struct pay for all fields inside it. Those that are replaced pay as well. -/
private theorem pays_readFields :
    Pays 0 Fields.fieldTotal (giving (readFields limits names values)) where
  of_ok {s u fields} outcome := by
    obtain ⟨all, t, collected, read⟩ :=
      exists_collected limits names values (Nat.lt_succ_self buf.size) s
    cases read.symm.trans outcome
    have paid := (pays_collectFields pays _).of_ok collected
    have kept := Fields.sum_ofList_le (fun field => field.fieldTotal + 1) all
    rw [Fields.fieldTotal_eq]
    exact Nat.le_trans (Nat.add_le_add_left (Nat.mul_le_mul_left 3 kept) _) paid

end Structs

/-- All values pay for the fields in them, whatever levels of nesting are left. -/
theorem pays_values (limits : Limits) (names : FieldNames) (depth : Nat) (tag : UInt8) :
    Pays 0 Value.fieldTotal ((values limits names depth : ValueReader buf).read tag) := by
  apply values_induction (motive := fun _ _ => Pays 0 Value.fieldTotal)
  case tooDeep => exact fun _ => pays_giving (pos_le_tooDeep limits _)
  case unknown => exact fun _ => pays_giving fun _ => Nat.le_refl _
  case fixed =>
    exact fun _ => pays_reading (Read.advances_natural _) fun n =>
      Value.fieldTotal_of_isLeaf (isLeaf_fixedValue _ n)
  case string => exact fun _ => pays_reading Read.advances_string fun _ => rfl
  case struct =>
    intro depth tag _ _ pays
    exact (pays_readFields pays).map fun fields => Nat.le_of_eq (Value.fieldTotal_struct fields)
  case map =>
    exact fun _ pays =>
      pays_readCollection advances_mapHeader (pays_readPair pays) Value.fieldTotal_map
  case sequence =>
    intro depth tag kind build sequence pays
    apply pays_readCollection advances_sequenceHeader fun tag _ => pays_readItem pays tag
    cases sequence with
    | set => exact Value.fieldTotal_set
    | list => exact Value.fieldTotal_list

/-- Wherever fields are read, decoding moves on by three bytes for each field in them. -/
theorem fieldTotal_readFields_le (limits : Limits) (names : FieldNames) (depth : Nat)
    (s : Decoder buf) :
    s.pos + 3 * (readFields limits names (values limits names depth) s).1.fieldTotal ≤
      (readFields limits names (values limits names depth) s).2.pos :=
  (pays_readFields (pays_values limits names depth)).of_ok rfl

end Decoder

/-- No amplification. Wherever a struct or a value is read, and however many levels of nesting are
left, three bytes were moved on by for each field in the tree that comes of it. So a message has at
most a third as many fields as bytes were read, and no more values than these and two for each
entry that a message may have. -/
theorem decode_size_le (limits : Limits) (buf : ByteArray) :
    (∀ (names : FieldNames) (depth : Nat) (s : Decoder buf),
      s.pos + 3 *
          (Decoder.readFields limits names (Decoder.values limits names depth) s).1.fieldTotal ≤
        (Decoder.readFields limits names (Decoder.values limits names depth) s).2.pos) ∧
    (∀ (names : FieldNames) (depth : Nat) (tag : UInt8) (s t : Decoder buf) (value : Value),
      (Decoder.values limits names depth).read tag s = .ok value t →
        s.pos + 3 * value.fieldTotal ≤ t.pos) ∧
    (∀ (registry : Option Registry) (message : Message),
      decode limits registry buf = .ok message →
        message.fields.fieldTotal ≤ message.bytesConsumed / 3 ∧
        message.fields.subvalues.length ≤ message.bytesConsumed / 3 + 2 * limits.maxElements) := by
  refine ⟨?structs, ?values, ?messages⟩
  case structs =>
    intro names depth s
    exact Decoder.fieldTotal_readFields_le limits names depth s
  case values =>
    intro names depth tag s t value read
    exact (Decoder.pays_values limits names depth tag).of_ok read
  case messages =>
    intro registry message decoded
    obtain ⟨envelope, c, -, rfl⟩ := decode_eq_ok_iff.mp decoded
    set message := Decoder.messageBehind limits registry envelope c
    have fields : 3 * message.fields.fieldTotal ≤ message.bytesConsumed :=
      Nat.le_trans (Nat.le_add_left _ _) (Decoder.fieldTotal_readFields_le limits _ _ _)
    have entries : message.fields.entryTotal ≤ limits.maxElements :=
      Decoder.entryTotal_readFields_le _ _ (Nat.zero_le _)
    have values := message.fields.length_subvalues_le
    omega

/-- Limits of four entries. -/
def scantLimits : Limits := { maxElements := 4 }

/-- A call with a list of two structs, a map from nothing to structs without fields, and a field
that is replaced. -/
def crowdedCall : ByteArray :=
  ⟨#[0, 0, 0, 1, 102, 1, 0, 0, 0, 7, 15, 0, 1, 12, 0, 0, 0, 2, 1, 0, 1, 0, 1, 0, 1, 1, 0, 2, 0,
    13, 0, 2, 1, 12, 0, 0, 0, 2, 0, 0, 1, 0, 4, 1, 0, 4, 0]⟩

/-- The tree of the call has six fields and twelve values, where the bytes that were read and a
limit of four entries leave room for fifteen fields and twenty-three values. -/
theorem decode_crowdedCall :
    ∃ message, decode scantLimits none crowdedCall = .ok message ∧
      message.fields.fieldTotal ≤ message.bytesConsumed / 3 ∧
      message.fields.subvalues.length ≤ message.bytesConsumed / 3 + 2 * scantLimits.maxElements ∧
      message.fields.fieldTotal = 6 ∧ message.fields.subvalues.length = 12 ∧
      message.bytesConsumed = 47 := by
  have run : (decode scantLimits none crowdedCall).toOption.map
      (fun message => (message.fields.fieldTotal, message.fields.subvalues.length,
        message.bytesConsumed)) = some (6, 12, 47) := by
    decide +kernel
  obtain ⟨message, decoded, seen⟩ := decode_of_seen run
  obtain ⟨fields, values⟩ := (decode_size_le scantLimits crowdedCall).2.2 none _ decoded
  simp only [Prod.mk.injEq] at seen
  exact ⟨message, decoded, fields, values, seen⟩

end TaggedRpc
