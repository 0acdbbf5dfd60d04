import TaggedRpc.Proofs.Decode.Entries
import TaggedRpc.Proofs.Decode.Turns

/-!
# The budget of entries

A collection is not built if it has more entries than a message may still have. Whether it has
depends on everything that was counted before it, so what is decoded in one place may change what is
decoded in another. Where decoding comes to no such collection (`RunsOut`) this cannot happen: it
does the same as if fewer entries had been counted before (`spares_values`).
-/

namespace TaggedRpc

namespace Decoder

variable {buf : ByteArray} {α β γ ε : Type}

/-- A decoder that has counted some more entries. -/
def raise (s : Decoder buf) (more : Nat) : Decoder buf := { s with elements := s.elements + more }

/-! ## Collections for which too few entries are left -/

/-- The header of a collection is read under a tag byte: its kind, the tags of what is in it and the
number of its entries. -/
inductive Opens (tag : UInt8) (s : Decoder buf) :
    CollectionKind → UInt8 → UInt8 → Int32 → Decoder buf → Prop where
  | map {keyTag valueTag : UInt8} {count : Int32} {c d e : Cursor buf}
    (known : Tag.ofByte? tag = some .map) (first : Read.uint8 s.cursor = .ok keyTag c)
    (second : Read.uint8 c = .ok valueTag d) (size : Read.int32 d = .ok count e) :
    Opens tag s .map keyTag valueTag count { s with cursor := e }
  | set {itemTag : UInt8} {count : Int32} {c d : Cursor buf} (known : Tag.ofByte? tag = some .set)
    (first : Read.uint8 s.cursor = .ok itemTag c) (size : Read.int32 c = .ok count d) :
    Opens tag s .set itemTag itemTag count { s with cursor := d }
  | list {itemTag : UInt8} {count : Int32} {c d : Cursor buf} (known : Tag.ofByte? tag = some .list)
    (first : Read.uint8 s.cursor = .ok itemTag c) (size : Read.int32 c = .ok count d) :
    Opens tag s .list itemTag itemTag count { s with cursor := d }

/-- Reading a value comes to a collection that is not built because too few entries are left for it.
The collection is the value itself, or it is found in an item, a key, a value or a field inside,
after those before it were read. -/
inductive RunsOut (limits : Limits) (names : FieldNames) : Nat → UInt8 → Decoder buf → Prop where
  | here {depth : Nat} {tag first second : UInt8} {kind : CollectionKind} {count : Int32}
    {s u : Decoder buf} (opens : Opens tag s kind first second count u)
    (refused : limits.refusal? u.elements kind count =
      some (.elementBudgetExhausted kind count)) : RunsOut limits names (depth + 1) tag s
  | item {depth : Nat} {tag itemTag : UInt8} {kind : CollectionKind} {count : Int32}
    {s u t : Decoder buf} {items : List Value} {size : Nat} (sequence : kind ≠ .map)
    (opens : Opens tag s kind itemTag itemTag count u)
    (built : limits.refusal? u.elements kind count = none) (lt : size < count.toNatClampNeg)
    (before : readItems (values limits names depth) itemTag [] size
      (u.raise count.toNatClampNeg) = .ok items t) (kept : t.desync = none)
    (inside : RunsOut limits names depth itemTag t) : RunsOut limits names (depth + 1) tag s
  | key {depth : Nat} {tag keyTag valueTag : UInt8} {count : Int32} {s u t : Decoder buf}
    {entries : List (Value × Value)} {size : Nat}
    (opens : Opens tag s .map keyTag valueTag count u)
    (built : limits.refusal? u.elements .map count = none) (lt : size < count.toNatClampNeg)
    (before : readPairs (values limits names depth) keyTag valueTag [] size
      (u.raise count.toNatClampNeg) = .ok entries t) (kept : t.desync = none)
    (inside : RunsOut limits names depth keyTag t) : RunsOut limits names (depth + 1) tag s
  | value {depth : Nat} {tag keyTag valueTag : UInt8} {count : Int32} {s u t v : Decoder buf}
    {entries : List (Value × Value)} {key : Value} {size : Nat}
    (opens : Opens tag s .map keyTag valueTag count u)
    (built : limits.refusal? u.elements .map count = none) (lt : size < count.toNatClampNeg)
    (before : readPairs (values limits names depth) keyTag valueTag [] size
      (u.raise count.toNatClampNeg) = .ok entries t) (kept : t.desync = none)
    (read : (values limits names depth).read keyTag t = .ok key v) (keyKept : v.desync = none)
    (inside : RunsOut limits names depth valueTag v) : RunsOut limits names (depth + 1) tag s
  | field {depth : Nat} {tag fieldTag : UInt8} {id : Int16} {s t : Decoder buf}
    {before : List (String × Field)} (known : Tag.ofByte? tag = some .struct) (left : depth ≠ 0)
    (comes : ComesTo limits names (values limits names depth) [] s before fieldTag id t)
    (inside : RunsOut limits names depth fieldTag t) : RunsOut limits names (depth + 1) tag s

/-- Reading fields comes to such a collection. -/
def FieldsRunOut (limits : Limits) (names : FieldNames) (depth : Nat) (s : Decoder buf) : Prop :=
  ∃ before tag id t, ComesTo limits names (values limits names depth) [] s before tag id t ∧
    RunsOut limits names depth tag t

/-- Entries run out only if a collection may have some. -/
theorem RunsOut.pos {limits : Limits} {names : FieldNames} {depth : Nat} {tag : UInt8}
    {s : Decoder buf} (out : RunsOut limits names depth tag s) : 0 < limits.maxCollectionSize := by
  induction out with
  | here opens refused =>
    rcases eq_of_refusal? refused with ⟨same, -⟩ | ⟨-, within, spent⟩
    · cases same
    · omega
  | item _ _ _ _ _ _ _ ih => exact ih
  | key _ _ _ _ _ _ ih => exact ih
  | value _ _ _ _ _ _ _ _ ih => exact ih
  | field _ _ _ _ ih => exact ih

/-! ## Entries to spare -/

/-- An outcome with some more entries counted. -/
def raised (more : Nat) :
    EStateM.Result Fault (Decoder buf) α → EStateM.Result Fault (Decoder buf) α
  | .ok a t => .ok a (t.raise more)
  | .error fault t => .error fault (t.raise more)

/-- An action does the same from a decoder whether some more entries are counted before or not. -/
def Spares (more : Nat) (act : Decode buf α) (s : Decoder buf) : Prop :=
  act (s.raise more) = raised more (act s)

private theorem raise_comm (s : Decoder buf) (m n : Nat) :
    (s.raise m).raise n = (s.raise n).raise m := by
  simp only [raise, Nat.add_right_comm]

/-- A decoder that has not counted less is one that has counted some more. -/
theorem exists_raise {count : Nat} {s : Decoder buf} (le : count ≤ s.elements) :
    ∃ (t : Decoder buf) (more : Nat), t.elements = count ∧ s = t.raise more :=
  ⟨{ s with elements := count }, s.elements - count, rfl, by simp [raise, Nat.add_sub_of_le le]⟩

section Parts

variable {more : Nat} {act : Decode buf α} {s : Decoder buf}

private theorem Spares.bind {read : Read buf γ} {next : γ → Decode buf α}
    (spares : ∀ b c, read s.cursor = .ok b c → Spares more (next b) { s with cursor := c }) :
    Spares more (reading read >>= next) s := by
  have same : (s.raise more).cursor = s.cursor := rfl
  unfold Spares
  cases outcome : read s.cursor with
  | ok b c =>
    rw [bind_of_ok (reading_of_ok outcome), bind_of_ok (reading_of_ok (same ▸ outcome))]
    exact spares b c outcome
  | error fault c =>
    rw [bind_of_error (reading_eq_error_iff.mpr ⟨c, outcome, rfl⟩),
      bind_of_error (reading_eq_error_iff.mpr ⟨c, same ▸ outcome, rfl⟩)]
    rfl

private theorem Spares.turn {stop : α → β} {go : α → Decode buf β} (first : Spares more act s)
    (goes : ∀ a t, act s = .ok a t → act (s.raise more) = .ok a (t.raise more) →
      t.desync = none → Spares more (go a) t) : Spares more (turn act stop go) s := by
  unfold Spares at first ⊢
  cases done : act s with
  | error fault t =>
    rw [done] at first
    rw [turn_of_error done, turn_of_error first]
    rfl
  | ok a t =>
    rw [done] at first
    by_cases kept : t.desync = none
    · rw [turn_of_kept done kept, turn_of_kept first kept]
      exact goes a t done first kept
    · have lost := Option.isSome_iff_ne_none.mpr kept
      rw [turn_of_lost done lost, turn_of_lost first lost]
      rfl

private theorem Spares.map (spares : Spares more act s) (f : α → β) :
    Spares more (f <$> act) s := by
  rw [map_eq_turn]
  exact spares.turn fun _ _ _ _ _ => rfl

private theorem spares_reading (read : Read buf γ) (build : γ → α) :
    Spares more (build <$> reading read) s := by
  rw [map_eq_pure_bind]
  exact Spares.bind fun _ _ _ => rfl

private theorem raise_skipOrLose (skip : Read buf Unit) (reason : Fault → Desync)
    (s : Decoder buf) :
    skipOrLose skip reason (s.raise more) = (skipOrLose skip reason s).raise more := by
  have same : (s.raise more).cursor = s.cursor := rfl
  unfold skipOrLose
  rw [same]
  cases skip s.cursor <;> rfl

variable {limits : Limits}

private theorem spares_tooDeep (tag : UInt8) :
    Spares more (giving (tooDeep limits tag) : Decode buf Value) s := by
  unfold Spares giving tooDeep
  by_cases skips : limits.skipUnbuilt
  · simp only [skips, if_true, raise_skipOrLose, raised]
  · simp only [skips, raised]
    rfl

private theorem spares_tooLarge (kind : CollectionKind) (first second : UInt8) (count : Int32)
    (placeholder : Placeholder) :
    Spares more (giving (tooLarge limits kind first second count placeholder) :
      Decode buf Value) s := by
  unfold Spares giving tooLarge
  by_cases skips : limits.skipUnbuilt
  · simp only [skips, if_true, raise_skipOrLose, raised]
  · simp only [skips, raised]
    rfl

private theorem refusal?_of_unspent {elements : Nat} {kind : CollectionKind} {count : Int32}
    (unspent : limits.refusal? (elements + more) kind count ≠
      some (.elementBudgetExhausted kind count)) :
    limits.refusal? elements kind count = limits.refusal? (elements + more) kind count := by
  unfold Limits.refusal? at unspent ⊢
  split
  · rfl
  · next within =>
    rw [if_neg within] at unspent
    have enough : ¬ limits.maxElements - (elements + more) < count.toNatClampNeg := by
      intro spent
      exact unspent (if_pos spent)
    rw [if_neg enough, if_neg (by omega)]

private theorem spares_withinLimits {kind : CollectionKind} {first second : UInt8} {count : Int32}
    {build : Nat → Decode buf Value}
    (unspent : limits.refusal? (s.raise more).elements kind count ≠
      some (.elementBudgetExhausted kind count))
    (builds : limits.refusal? (s.raise more).elements kind count = none →
      Spares more (build count.toNatClampNeg) (s.raise count.toNatClampNeg)) :
    Spares more (withinLimits limits kind first second count build) s := by
  have same : limits.refusal? s.elements kind count =
      limits.refusal? (s.raise more).elements kind count := refusal?_of_unspent unspent
  unfold Spares
  cases refused : limits.refusal? (s.raise more).elements kind count with
  | some placeholder =>
    rw [withinLimits_of_refused refused, withinLimits_of_refused (same.trans refused)]
    exact spares_tooLarge kind first second count placeholder
  | none =>
    rw [withinLimits_of_built refused, withinLimits_of_built (same.trans refused)]
    change build _ ((s.raise more).raise _) = raised more (build _ (s.raise _))
    rw [raise_comm]
    exact builds refused

end Parts

/-! ## Structs -/

section Structs

variable {more : Nat} {limits : Limits} {names : FieldNames} {values : ValueReader buf}
  {runsOut : UInt8 → Decoder buf → Prop} {s : Decoder buf}
  (spares : ∀ {tag s}, s.desync = none → ¬ runsOut tag (s.raise more) →
    Spares more (values.read tag) s)

private theorem raise_readField {tag : UInt8} {s : Decoder buf}
    (value : Spares more (values.read tag) s) (id : Int16) :
    readField limits values tag id (s.raise more) =
      ((readField limits values tag id s).1, (readField limits values tag id s).2.raise more) := by
  unfold Spares at value
  cases read : values.read tag s with
  | ok value' t =>
    rw [read] at value
    rw [readField_of_ok read, readField_of_ok value]
  | error fault t =>
    rw [read] at value
    rw [readField_of_error read, readField_of_error value, ← raise_skipOrLose]
    rfl

include spares

/-- Fields do not depend on what is counted, if none of the values that are come to does. -/
theorem raise_readEntries {done : List (String × Field)}
    (inside : ∀ {before tag id t}, ComesTo limits names values done (s.raise more) before tag id t →
      ¬ runsOut tag t) :
    readEntries limits names values done (s.raise more) =
      ((readEntries limits names values done s).1,
        (readEntries limits names values done s).2.raise more) := by
  fun_induction readEntries limits names values done s with
  | case1 done s lost =>
    exact giving_eq_ok_iff.mp (giving_readEntries_of_lost (s := s.raise more) lost)
  | case2 done s kept fault c header =>
    exact readEntries_of_error (Option.not_isSome_iff_eq_none.mp kept) header
  | case3 done s kept c header =>
    exact readEntries_of_stop (Option.not_isSome_iff_eq_none.mp kept) header
  | case4 done s lost tag id c header read ih =>
    have kept : (s.raise more).desync = none := Option.not_isSome_iff_eq_none.mp lost
    have field : readField limits values tag id { s.raise more with cursor := c } =
        (read.1, read.2.raise more) :=
      raise_readField (spares (s := { s with cursor := c }) kept (inside (.here kept header))) id
    rw [readEntries_of_field kept header, field]
    apply ih
    intro before tag' id' t comes
    have rest : ComesTo limits names values
        ((names.keyFor id, (readField limits values tag id { s.raise more with cursor := c }).1) ::
          done) (readField limits values tag id { s.raise more with cursor := c }).2
        before tag' id' t := by
      rw [field]
      exact comes
    exact inside (.next kept header rest)

/-- The fields of a struct do not depend on what is counted, if none of the values that are come to
does. -/
theorem raise_readFields
    (inside : ∀ {before tag id t},
      ComesTo limits names values [] (s.raise more) before tag id t → ¬ runsOut tag t) :
    readFields limits names values (s.raise more) =
      ((readFields limits names values s).1, (readFields limits names values s).2.raise more) := by
  rw [readFields, raise_readEntries spares inside]
  rfl

end Structs

/-! ## Collections -/

private theorem opens_of_mapHeader {tag : UInt8} {s : Decoder buf} {h : CollectionHeader}
    {c : Cursor buf} (known : Tag.ofByte? tag = some .map) (read : mapHeader s.cursor = .ok h c) :
    Opens tag s .map h.first h.second h.count { s with cursor := c } := by
  obtain ⟨_, _, first, read⟩ := bind_eq_ok_iff.mp read
  obtain ⟨_, _, second, read⟩ := bind_eq_ok_iff.mp read
  obtain ⟨_, _, size, read⟩ := bind_eq_ok_iff.mp read
  obtain ⟨rfl, rfl⟩ := pure_eq_ok_iff.mp read
  exact .map known first second size

private theorem opens_of_sequenceHeader {tag : UInt8} {s : Decoder buf} {h : CollectionHeader}
    {c : Cursor buf} {kind : CollectionKind} {build : List Value → Value}
    (sequence : Sequence tag kind build) (read : sequenceHeader s.cursor = .ok h c) :
    Opens tag s kind h.first h.second h.count { s with cursor := c } := by
  obtain ⟨_, _, first, read⟩ := bind_eq_ok_iff.mp read
  obtain ⟨_, _, size, read⟩ := bind_eq_ok_iff.mp read
  obtain ⟨rfl, rfl⟩ := pure_eq_ok_iff.mp read
  cases sequence with
  | set known => exact .set known first size
  | list known => exact .list known first size

section Collections

variable {more : Nat} {limits : Limits} {tag : UInt8} {s : Decoder buf} (kept : s.desync = none)

include kept

private theorem spares_collect {entry : Decode buf (Option ε)} {runsOut : Decoder buf → Prop}
    (spares : ∀ {s}, s.desync = none → ¬ runsOut (s.raise more) → Spares more entry s)
    {done : List ε} {size : Nat}
    (inside : ∀ {left all t}, left < size → collect entry done left (s.raise more) = .ok all t →
      t.desync = none → ¬ runsOut t) : Spares more (collect entry done size) s := by
  induction size generalizing done s with
  | zero => rfl
  | succ size ih =>
    refine (spares kept (inside (Nat.succ_pos size) rfl kept)).turn fun next t _ read going => ?_
    cases next with
    | none => rfl
    | some e =>
      apply ih going
      intro left all u lt rest
      apply inside (Nat.succ_lt_succ lt)
      rw [collect_of_kept read going, rest]

private theorem spares_readCollection {kind : CollectionKind} {header : Read buf CollectionHeader}
    {entry : UInt8 → UInt8 → Decode buf (Option ε)} {build : List ε → Value}
    (runsOut : UInt8 → UInt8 → Decoder buf → Prop)
    (spares : ∀ {first second s}, s.desync = none → ¬ runsOut first second (s.raise more) →
      Spares more (entry first second) s)
    (opens : ∀ {h c}, header s.cursor = .ok h c →
      Opens tag (s.raise more) kind h.first h.second h.count
        (Decoder.raise { s with cursor := c } more))
    (unspent : ∀ {first second count u}, Opens tag (s.raise more) kind first second count u →
      limits.refusal? u.elements kind count ≠ some (.elementBudgetExhausted kind count))
    (inside : ∀ {first second count u left all t},
      Opens tag (s.raise more) kind first second count u →
        limits.refusal? u.elements kind count = none → left < count.toNatClampNeg →
          collect (entry first second) [] left (u.raise count.toNatClampNeg) = .ok all t →
            t.desync = none → ¬ runsOut first second t) :
    Spares more (readCollection limits kind header entry build) s := by
  refine Spares.bind fun h c read => spares_withinLimits (unspent (opens read)) fun built => ?_
  apply Spares.map
  refine spares_collect (s := Decoder.raise { s with cursor := c } h.count.toNatClampNeg) kept
    spares fun lt before => ?_
  rw [raise_comm] at before
  exact inside (opens read) built lt before

end Collections

section Values

variable {more depth : Nat} {limits : Limits} {names : FieldNames} {tag : UInt8} {s : Decoder buf}
  (kept : s.desync = none)
  (spares : ∀ (tag : UInt8) {s : Decoder buf}, s.desync = none →
    ¬ RunsOut limits names depth tag (s.raise more) →
      Spares more ((values limits names depth).read tag) s)
  (unspent : ¬ RunsOut limits names (depth + 1) tag (s.raise more))

include kept spares unspent

private theorem spares_readMap (known : Tag.ofByte? tag = some .map) :
    Spares more
      (readCollection limits .map mapHeader (readPair (values limits names depth)) .map) s := by
  -- An entry runs out in its key, or in its value after the key was read.
  refine spares_readCollection kept (fun keyTag valueTag t =>
    RunsOut limits names depth keyTag t ∨ ∃ key u, (values limits names depth).read keyTag t =
      .ok key u ∧ u.desync = none ∧ RunsOut limits names depth valueTag u) ?_
    (opens_of_mapHeader (s := s.raise more) known)
    (fun opens spent => unspent (.here opens spent)) ?_
  · intro keyTag valueTag s kept unspent
    obtain ⟨keys, vals⟩ := not_or.mp unspent
    refine (spares keyTag kept keys).turn fun key t _ read going => ?_
    exact (spares valueTag going fun out => vals ⟨key, _, read, going, out⟩).map _
  · rintro keyTag valueTag count u left entries t opens built lt before kept' out
    rw [← readPairs_eq] at before
    rcases out with out | ⟨key, v, read, keyKept, out⟩
    · exact unspent (.key opens built lt before kept' out)
    · exact unspent (.value opens built lt before kept' read keyKept out)

private theorem spares_readSequence {kind : CollectionKind} {build : List Value → Value}
    (sequence : Sequence tag kind build) :
    Spares more (readCollection limits kind sequenceHeader
      (fun tag _ => readItem (values limits names depth) tag) build) s := by
  refine spares_readCollection kept (fun itemTag _ t =>
    RunsOut limits names depth itemTag t) (fun kept unspent => (spares _ kept unspent).map _)
    (opens_of_sequenceHeader (s := s.raise more) sequence)
    (fun opens spent => unspent (.here opens spent)) ?_
  intro first second count u left items t opens built lt before kept' out
  rw [← readItems_eq] at before
  have other : kind ≠ .map := by cases sequence <;> decide
  have same : first = second := by cases opens <;> first | rfl | exact absurd rfl other
  subst same
  exact unspent (.item other opens built lt before kept' out)

end Values

/-- A value does not depend on what is counted before, as long as reading it comes to no collection
for which too few entries are left. -/
theorem spares_values {limits : Limits} {names : FieldNames} {more depth : Nat} {tag : UInt8}
    {s : Decoder buf} (kept : s.desync = none)
    (unspent : ¬ RunsOut limits names depth tag (s.raise more)) :
    Spares more ((values limits names depth).read tag) s := by
  revert s
  apply values_induction (motive := fun depth tag act => ∀ {s : Decoder buf}, s.desync = none →
    ¬ RunsOut limits names depth tag (s.raise more) → Spares more act s)
  case tooDeep => exact fun _ _ _ _ => spares_tooDeep _
  case unknown => exact fun _ _ _ _ => rfl
  case fixed => exact fun _ _ _ _ => spares_reading _ _
  case string => exact fun _ _ _ _ => spares_reading _ _
  case struct =>
    intro depth tag known left spares s kept unspent
    apply Spares.map
    have fields := raise_readFields (spares _) fun comes inside =>
      unspent (.field known left comes inside)
    rw [Spares, giving, giving, fields]
    rfl
  case map =>
    exact fun known spares _ kept unspent => spares_readMap kept spares unspent known
  case sequence =>
    exact fun sequence spares _ kept unspent => spares_readSequence kept spares unspent sequence

end Decoder

end TaggedRpc
