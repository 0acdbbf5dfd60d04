import TaggedRpc.Proofs.Decode.Turns
import TaggedRpc.Proofs.Tree.Insertions

/-!
# What decoding yields

Conditions that hold of everything that an action decodes (`Yields`), whatever the state is. If the
values inside a collection or a struct meet conditions by their tags, then so do its items, its
entries or its fields, and a collection has as many entries as it says at most.
-/

namespace TaggedRpc

namespace Decoder

variable {buf : ByteArray} {α β γ ε : Type}

/-- An action whose results all meet a condition. -/
structure Yields (post : α → Prop) (act : Decode buf α) : Prop where
  of_ok : ∀ {s t : Decoder buf} {a : α}, act s = .ok a t → post a

/-! ## Parts -/

section Parts

variable {pre : α → Prop} {post : β → Prop} {act : Decode buf α}

private theorem Yields.pure {b : β} (holds : post b) : Yields post (Pure.pure b : Decode buf β) where
  of_ok outcome := by
    obtain ⟨rfl, -⟩ := pure_eq_ok_iff.mp outcome
    exact holds

private theorem Yields.bind {read : Read buf γ} {next : γ → Decode buf β}
    (yields : ∀ c, Yields post (next c)) : Yields post (reading read >>= next) where
  of_ok outcome := by
    obtain ⟨c, u, -, rest⟩ := bind_eq_ok_iff.mp outcome
    exact (yields c).of_ok rest

/-- A function of the result yields what the function makes of it. -/
theorem Yields.map {f : α → β} (yields : Yields pre act) (keeps : ∀ a, pre a → post (f a)) :
    Yields post (f <$> act) where
  of_ok outcome := by
    obtain ⟨a, done, rfl⟩ := map_eq_ok_iff.mp outcome
    exact keeps a (yields.of_ok done)

private theorem yields_any (act : Decode buf α) : Yields (fun _ => True) act := ⟨fun _ => trivial⟩

private theorem Yields.weaken {post' : β → Prop} {act : Decode buf β} (yields : Yields post act)
    (weaker : ∀ b, post b → post' b) : Yields post' act :=
  ⟨fun outcome => weaker _ (yields.of_ok outcome)⟩

private theorem Yields.turn {stop : α → β} {go : α → Decode buf β} (first : Yields pre act)
    (stops : ∀ a, pre a → post (stop a)) (goes : ∀ a, pre a → Yields post (go a)) :
    Yields post (turn act stop go) where
  of_ok {s t b} outcome := by
    obtain ⟨a, u, done, ⟨-, rfl, rfl⟩ | ⟨-, rest⟩⟩ := turn_eq_ok outcome
    · exact stops a (first.of_ok done)
    · exact (goes a (first.of_ok done)).of_ok rest

/-- A function of what is read yields what the function makes of anything. -/
theorem yields_reading (read : Read buf α) {build : α → β} (holds : ∀ a, post (build a)) :
    Yields post (build <$> reading read) := (yields_any _).map fun a _ => holds a

/-- An action that always gives a result yields what it gives. -/
theorem yields_giving {act : Decoder buf → β × Decoder buf} (holds : ∀ s, post (act s).1) :
    Yields post (giving act) where
  of_ok {s t b} outcome := by
    rw [giving_eq_ok_iff] at outcome
    have given := holds s
    rwa [outcome] at given

end Parts

/-! ## Collections -/

section Collections

variable {limits : Limits} {post : Value → Prop} {kind : CollectionKind}

private theorem yields_withinLimits {first second : UInt8} {count : Int32}
    {build : Nat → Decode buf Value}
    (oversized : limits.maxCollectionSize < count.toNatClampNeg →
      post (.placeholder (.oversizedCollection kind count)))
    (exhausted : 0 < count.toNatClampNeg → count.toNatClampNeg ≤ limits.maxCollectionSize →
      post (.placeholder (.elementBudgetExhausted kind count)))
    (builds : count.toNatClampNeg ≤ limits.maxCollectionSize →
      Yields post (build count.toNatClampNeg)) :
    Yields post (withinLimits limits kind first second count build) where
  of_ok {s t value} outcome := by
    cases refused : limits.refusal? s.elements kind count with
    | some placeholder =>
      rw [withinLimits_of_refused refused, giving_eq_ok_iff] at outcome
      cases outcome
      rcases eq_of_refusal? refused with ⟨rfl, above⟩ | ⟨rfl, within, spent⟩
      · exact oversized above
      · exact exhausted (Nat.lt_of_le_of_lt (Nat.zero_le _) spent) within
    | none =>
      rw [withinLimits_of_built refused] at outcome
      exact (builds (le_of_built refused).1).of_ok outcome

private theorem yields_collect {entry : Decode buf (Option ε)} {holds : ε → Prop}
    (yields : Yields (fun next => ∀ e ∈ next, holds e) entry) {done : List ε}
    (before : ∀ e ∈ done, holds e) (size : Nat) :
    Yields (fun all => all.length ≤ done.length + size ∧ ∀ e ∈ all, holds e)
      (collect entry done size) := by
  have reversed {all : List ε} {count : Nat} (length : all.length ≤ count)
      (each : ∀ e ∈ all, holds e) :
      all.reverse.length ≤ count ∧ ∀ e ∈ all.reverse, holds e :=
    ⟨by rwa [List.length_reverse], fun e among => each e (List.mem_reverse.mp among)⟩
  induction size generalizing done with
  | zero => exact .pure (reversed (Nat.le_refl _) before)
  | succ left ih =>
    rw [collect]
    apply yields.turn
    · intro next held
      cases next with
      | none => exact reversed (Nat.le_add_right _ _) before
      | some e =>
        have longer : (e :: done).length ≤ done.length + (left + 1) := by
          rw [List.length_cons]
          omega
        exact reversed longer (List.forall_mem_cons.mpr ⟨held e rfl, before⟩)
    · intro next held
      cases next with
      | none => exact .pure (reversed (Nat.le_add_right _ _) before)
      | some e =>
        apply (ih (List.forall_mem_cons.mpr ⟨held e rfl, before⟩)).weaken
        rintro all ⟨count, each⟩
        rw [List.length_cons] at count
        exact ⟨by omega, each⟩

private theorem yields_readCollection {header : Read buf CollectionHeader}
    {entry : UInt8 → UInt8 → Decode buf (Option ε)} {holds : UInt8 → UInt8 → ε → Prop}
    {build : List ε → Value}
    (yields : ∀ first second,
      Yields (fun next => ∀ e ∈ next, holds first second e) (entry first second))
    (oversized : ∀ count : Int32, limits.maxCollectionSize < count.toNatClampNeg →
      post (.placeholder (.oversizedCollection kind count)))
    (exhausted : ∀ count : Int32, 0 < count.toNatClampNeg →
      count.toNatClampNeg ≤ limits.maxCollectionSize →
        post (.placeholder (.elementBudgetExhausted kind count)))
    (built : ∀ first second all, all.length ≤ limits.maxCollectionSize →
      (∀ e ∈ all, holds first second e) → post (build all)) :
    Yields post (readCollection limits kind header entry build) := by
  apply Yields.bind
  intro h
  apply yields_withinLimits (oversized h.count) (exhausted h.count)
  intro within
  apply (yields_collect (yields h.first h.second) (List.forall_mem_nil _) _).map
  rintro all ⟨length, each⟩
  rw [List.length_nil, Nat.zero_add] at length
  exact built h.first h.second all (Nat.le_trans length within) each

variable {values : ValueReader buf} {holds : UInt8 → Value → Prop}
  (yields : ∀ tag, Yields (holds tag) (values.read tag))

include yields

private theorem yields_readItem (tag : UInt8) :
    Yields (fun next => ∀ item ∈ next, holds tag item) (readItem values tag) :=
  (yields tag).map fun _ held _ same => Option.mem_some.mp same ▸ held

private theorem yields_readPair (keyTag valueTag : UInt8) :
    Yields (fun next => ∀ entry ∈ next, holds keyTag entry.1 ∧ holds valueTag entry.2)
      (readPair values keyTag valueTag) := by
  apply (yields keyTag).turn
  · exact fun _ _ => nofun
  · intro key heldKey
    apply (yields valueTag).map
    rintro value heldValue _ ⟨⟩
    exact ⟨heldKey, heldValue⟩

/-- A map is one whose keys and whose values meet the conditions of their tags, or what stands for
one. -/
theorem yields_readMap
    (oversized : ∀ count : Int32, limits.maxCollectionSize < count.toNatClampNeg →
      post (.placeholder (.oversizedCollection .map count)))
    (exhausted : ∀ count : Int32, 0 < count.toNatClampNeg →
      count.toNatClampNeg ≤ limits.maxCollectionSize →
        post (.placeholder (.elementBudgetExhausted .map count)))
    (built : ∀ keyTag valueTag entries, entries.length ≤ limits.maxCollectionSize →
      (∀ entry ∈ entries, holds keyTag entry.1 ∧ holds valueTag entry.2) → post (.map entries)) :
    Yields post (readCollection limits .map mapHeader (readPair values) .map) :=
  yields_readCollection (yields_readPair yields) oversized exhausted built

/-- A set or a list is one whose items meet the condition of their tag, or what stands for one. -/
theorem yields_readSequence (kind : CollectionKind) {build : List Value → Value}
    (oversized : ∀ count : Int32, limits.maxCollectionSize < count.toNatClampNeg →
      post (.placeholder (.oversizedCollection kind count)))
    (exhausted : ∀ count : Int32, 0 < count.toNatClampNeg →
      count.toNatClampNeg ≤ limits.maxCollectionSize →
        post (.placeholder (.elementBudgetExhausted kind count)))
    (built : ∀ tag items, items.length ≤ limits.maxCollectionSize →
      (∀ item ∈ items, holds tag item) → post (build items)) :
    Yields post
      (readCollection limits kind sequenceHeader (fun tag _ => readItem values tag) build) :=
  yields_readCollection (fun tag _ => yields_readItem yields tag) oversized exhausted
    fun tag _ => built tag

end Collections

/-! ## Structs -/

section Structs

variable {limits : Limits} {names : FieldNames} {values : ValueReader buf}
  {holds : UInt8 → Value → Prop}

/-- A field with a tag and a number: either its value meets a condition, or its value cannot be
read. -/
inductive FieldRead (values : ValueReader buf) (holds : Value → Prop) (tag : UInt8) (id : Int16) :
    Field → Prop where
  | decoded {value : Value} (held : holds value) :
    FieldRead values holds tag id (.decoded tag id value)
  | failed {fault : Fault} {s t : Decoder buf} (failed : values.read tag s = .error fault t) :
    FieldRead values holds tag id (.failed tag id fault.message)

section FieldRead

variable {tag : UInt8} {id : Int16} {field : Field} {condition : Value → Prop}
  (read : FieldRead values condition tag id field)

include read

/-- A field that is read has the tag that is read. -/
theorem FieldRead.tag_eq : field.tag = tag := by
  cases read <;> rfl

/-- The value of a field that is read meets the condition. -/
theorem FieldRead.held_of_value {value : Value} (holds : field.value = some value) :
    condition value := by
  cases read with
  | decoded held =>
    cases holds
    exact held
  | failed => cases holds

end FieldRead

/-- A key and a field that it is the key of. The tag of the field is not that of the end of a
struct. -/
inductive EntryRead (names : FieldNames) (values : ValueReader buf)
    (holds : UInt8 → Value → Prop) : String × Field → Prop where
  | mk {tag : UInt8} {id : Int16} {field : Field} (going : tag ≠ Tag.stop.toByte)
    (read : FieldRead values (holds tag) tag id field) :
    EntryRead names values holds (names.keyFor id, field)

variable (yields : ∀ tag, Yields (holds tag) (values.read tag))

include yields

private theorem yields_readField (tag : UInt8) (id : Int16) :
    Yields (FieldRead values (holds tag) tag id) (giving (readField limits values tag id)) := by
  apply yields_giving
  intro s
  cases read : values.read tag s with
  | ok value t =>
    rw [readField_of_ok read]
    exact .decoded ((yields tag).of_ok read)
  | error fault t =>
    rw [readField_of_error read]
    exact .failed read

omit yields in
private theorem yields_nextHeader : Yields
    (fun header : Option (UInt8 × Int16) => ∀ content ∈ header, content.1 ≠ Tag.stop.toByte)
    (giving nextHeader : Decode buf (Option (UInt8 × Int16))) := by
  apply yields_giving
  rintro s content among
  cases header : readHeader s.cursor with
  | error fault c =>
    rw [nextHeader_of_error header] at among
    cases among
  | ok read c =>
    rw [nextHeader_of_ok header, Option.mem_def] at among
    cases among
    exact tag_ne_stop_of_readHeader header

private theorem yields_readEntry :
    Yields (fun next => ∀ entry ∈ next, EntryRead names values holds entry)
      (readEntry limits names values) := by
  apply yields_nextHeader.turn
  · exact fun _ _ => nofun
  · rintro (_ | ⟨tag, id⟩) going
    · exact .pure nofun
    · apply (yields_readField yields tag id).map
      rintro field read _ ⟨⟩
      exact .mk (going _ rfl) read

/-- The values of the fields of a struct meet the conditions of their tags. -/
theorem entryRead_readFields (s : Decoder buf) :
    ∀ entry ∈ (readFields limits names values s).1.entries,
      EntryRead names values holds entry := by
  have collected : Yields (fun all => ∀ entry ∈ all, EntryRead names values holds entry)
      (collectFields limits names values [] (buf.size + 1)) :=
    (yields_any _).turn (fun _ _ => List.forall_mem_nil _) fun _ _ =>
      (yields_collect (yields_readEntry yields) (List.forall_mem_nil _) _).weaken
        fun _ each => each.2
  intro entry among
  apply collected.of_ok (collectFields_eq_ok (Nat.lt_succ_self _) s)
  exact Fields.mem_of_mem_ofList among

end Structs

end Decoder

end TaggedRpc
