import TaggedRpc.Decode.Desync
import TaggedRpc.Proofs.Tree.Insertions
import TaggedRpc.Proofs.Tree.Subvalues

/-!
# Trees that record a loss

What a decoded tree says about the loss of synchronisation, if there was one (`Value.Records`):
every struct that ends early gives the reason of the loss, such structs lie on a single path, and a
tag that is not known is the reason. A value records a loss if its children do, all but one of them
recording none.
-/

namespace TaggedRpc

section Once

variable {α : Type} {clean last : α → Prop}

/-- Values that all meet one condition, except for one, which may meet another. -/
inductive Once (clean here : α → Prop) : List α → Prop where
  /-- All meet the first condition. -/
  | clean {values : List α} (all : ∀ value ∈ values, clean value) : Once clean here values
  /-- One meets the other condition. -/
  | once {before behind : List α} {value : α} (others : ∀ other ∈ before ++ behind, clean other)
    (meets : here value) : Once clean here (before ++ value :: behind)

/-- Values that all meet one condition, except for the last one, which may meet another. -/
inductive UpToLast (clean last : α → Prop) : List α → Prop where
  /-- All meet the first condition. -/
  | clean {values : List α} (all : ∀ value ∈ values, clean value) : UpToLast clean last values
  /-- The last one meets the other condition. -/
  | last {before : List α} {value : α} (others : ∀ other ∈ before, clean other)
    (meets : last value) : UpToLast clean last (before ++ [value])

/-- If the second condition is weaker, all values meet it. -/
theorem Once.each {values : List α} (once : Once clean last values)
    (weaken : ∀ value, clean value → last value) : ∀ value ∈ values, last value := by
  intro other among
  cases once with
  | clean all => exact weaken other (all other among)
  | once others meets =>
    rw [List.mem_append, List.mem_cons] at among
    rcases among with first | rfl | behind
    · exact weaken other (others other (List.mem_append_left _ first))
    · exact meets
    · exact weaken other (others other (List.mem_append_right _ behind))

private theorem Once.countP_le {values : List α} (once : Once clean last values) {p : α → Bool}
    (never : ∀ value, clean value → p value = false) : values.countP p ≤ 1 := by
  have nothing {others : List α} (all : ∀ other ∈ others, clean other) : others.countP p = 0 := by
    rw [List.countP_eq_zero]
    intro other among
    rw [never other (all other among)]
    exact Bool.false_ne_true
  cases once with
  | clean all =>
    rw [nothing all]
    exact Nat.zero_le 1
  | once others meets =>
    rw [List.countP_append, List.countP_cons,
      nothing fun other among => others other (List.mem_append_left _ among),
      nothing fun other among => others other (List.mem_append_right _ among)]
    split <;> omega

/-- One value at most may be the last. -/
theorem UpToLast.once {values : List α} (upToLast : UpToLast clean last values) :
    Once clean last values := by
  cases upToLast with
  | clean all => exact .clean all
  | last others meets =>
    apply Once.once
    · rw [List.append_nil]
      exact others
    · exact meets

/-- All values but the last one meet the first condition. -/
theorem UpToLast.dropLast {values : List α} (upToLast : UpToLast clean last values) :
    ∀ value ∈ values.dropLast, clean value := by
  cases upToLast with
  | clean all => exact fun value among => all value (List.dropLast_subset _ among)
  | last others meets =>
    rw [List.dropLast_concat]
    exact others

end Once

namespace Value

variable {loss : Option Desync} {value : Value}

/-- A value in a tree that was decoded up to a loss of synchronisation, or without one. -/
structure Records (loss : Option Desync) (value : Value) : Prop where
  /-- Every struct that ends early gives the reason of the loss. -/
  reasons : ∀ fields, .struct fields ∈ value.subvalues →
    fields.incomplete = none ∨ fields.incomplete = loss.map Desync.message
  /-- What is broken lies in one place of each value. -/
  nodes : ∀ inner ∈ value.subvalues, inner.BreaksOnce
  /-- There is at most one unknown tag. -/
  single : value.unknownTags.length ≤ 1
  /-- An unknown tag is the reason of the loss. -/
  unknown : ∀ tag ∈ value.unknownTags, loss = some (.unknownTag tag)

namespace Records

/-- A value that stands for itself records any loss, as there is nothing in it that could break. -/
theorem of_isLeaf (leaf : value.isLeaf) : value.Records loss := by
  have alone : value.subvalues = [value] := by
    rw [subvalues_eq]
    cases value <;> first | rfl | cases leaf
  have known : value.unknownTag? = none := by
    cases value with
    | placeholder content => cases content <;> first | rfl | cases leaf
    | _ => rfl
  have none : value.unknownTags = [] := by
    rw [unknownTags, alone, List.filterMap_cons_none known, List.filterMap_nil]
  constructor
  · intro fields among
    rw [alone, List.mem_singleton] at among
    subst among
    cases leaf
  · intro inner among
    rw [alone, List.mem_singleton] at among
    subst among
    cases inner <;> trivial
  · rw [none]
    exact Nat.zero_le 1
  · rw [none]
    nofun

/-- A value without a loss has no unknown tag. -/
theorem unknownTags_eq_nil (records : value.Records none) : value.unknownTags = [] := by
  rw [List.eq_nil_iff_forall_not_mem]
  intro tag among
  cases records.unknown tag among

/-- A value without a loss records any loss outside it. -/
theorem weaken (records : value.Records none) : value.Records loss := by
  constructor
  · intro fields among
    exact .inl ((records.reasons fields among).elim id id)
  · exact records.nodes
  · exact records.single
  · rw [records.unknownTags_eq_nil]
    nofun

/-- A value in which a struct ends early records a loss. -/
theorem isSome_of_isBroken (records : value.Records loss) (broken : value.isBroken) :
    loss.isSome := by
  obtain ⟨inner, among, incomplete⟩ := List.any_eq_true.mp broken
  cases inner with
  | struct fields =>
    change fields.incomplete.isSome at incomplete
    rcases records.reasons fields among with complete | same
    · rw [complete] at incomplete
      cases incomplete
    · rw [same, Option.isSome_map] at incomplete
      exact incomplete
  | _ => cases incomplete

/-- No struct ends early in a value without a loss. -/
theorem isBroken_eq_false (records : value.Records none) : value.isBroken = false := by
  rw [Bool.eq_false_iff]
  intro broken
  cases records.isSome_of_isBroken broken

end Records

variable {values : List Value}

private theorem records_of_once (once : Once (Records none) (Records loss) values) :
    ∀ value ∈ values, value.Records loss :=
  once.each fun _ records => records.weaken

private theorem flatMap_unknownTags_eq_nil (all : ∀ value ∈ values, value.Records none) :
    values.flatMap unknownTags = [] := by
  rw [List.flatMap_eq_nil_iff]
  intro value among
  exact (all value among).unknownTags_eq_nil

private theorem unknown_of_once (once : Once (Records none) (Records loss) values) :
    (values.flatMap unknownTags).length ≤ 1 ∧
      ∀ tag ∈ values.flatMap unknownTags, loss = some (.unknownTag tag) := by
  cases once with
  | clean all =>
    rw [flatMap_unknownTags_eq_nil all]
    exact ⟨Nat.zero_le 1, nofun⟩
  | once others here =>
    rw [List.flatMap_append, List.flatMap_cons,
      flatMap_unknownTags_eq_nil fun other among => others other (List.mem_append_left _ among),
      flatMap_unknownTags_eq_nil fun other among => others other (List.mem_append_right _ among),
      List.nil_append, List.append_nil]
    exact ⟨here.single, here.unknown⟩

/-- A value records a loss if one of its children at most does, and the value itself tells of it. -/
theorem records_of_children (once : Once (Records none) (Records loss) value.children)
    (own : ∀ fields, value = .struct fields → fields.incomplete = loss.map Desync.message)
    (node : value.BreaksOnce) (known : value.unknownTag? = none) : value.Records loss := by
  have tags : value.unknownTags = value.children.flatMap unknownTags := by
    rw [unknownTags_eq, known]
    rfl
  constructor
  · intro fields among
    rcases mem_subvalues_iff.mp among with same | ⟨child, held, within⟩
    · exact .inr (own fields same.symm)
    · exact (records_of_once once child held).reasons fields within
  · intro inner among
    rcases mem_subvalues_iff.mp among with rfl | ⟨child, held, within⟩
    · exact node
    · exact (records_of_once once child held).nodes inner within
  · rw [tags]
    exact (unknown_of_once once).1
  · rw [tags]
    exact (unknown_of_once once).2

/-! ## Collections -/

private theorem unbroken_of_items (upToLast : UpToLast (Records none) (Records loss) values) :
    ∀ item ∈ values.dropLast, item.isBroken = false :=
  fun item among => (upToLast.dropLast item among).isBroken_eq_false

/-- A set records a loss at its last item at most. -/
theorem records_set (upToLast : UpToLast (Records none) (Records loss) values) :
    (Value.set values).Records loss :=
  records_of_children upToLast.once nofun (unbroken_of_items upToLast) rfl

/-- A list records a loss at its last item at most. -/
theorem records_list (upToLast : UpToLast (Records none) (Records loss) values) :
    (Value.list values).Records loss :=
  records_of_children upToLast.once nofun (unbroken_of_items upToLast) rfl

/-- A map entry whose value may record a loss. -/
def PairRecords (loss : Option Desync) (entry : Value × Value) : Prop :=
  entry.1.Records none ∧ entry.2.Records loss

variable {entries : List (Value × Value)}

private theorem records_of_mem_pairs (all : ∀ entry ∈ entries, PairRecords none entry) :
    ∀ value ∈ entries.flatMap (fun entry => [entry.1, entry.2]), value.Records none := by
  intro value among
  obtain ⟨entry, held, within⟩ := List.mem_flatMap.mp among
  rw [List.mem_cons, List.mem_singleton] at within
  rcases within with rfl | rfl
  · exact (all entry held).1
  · exact (all entry held).2

/-- A map records a loss at the value of its last entry at most. -/
theorem records_map (upToLast : UpToLast (PairRecords none) (PairRecords loss) entries) :
    (Value.map entries).Records loss := by
  apply records_of_children
  · rw [children]
    cases upToLast with
    | clean all => exact .clean (records_of_mem_pairs all)
    | @last before entry all here =>
      rw [List.flatMap_append, List.flatMap_singleton, List.append_cons]
      apply Once.once
      · rw [List.append_nil]
        intro other among
        rw [List.mem_append, List.mem_singleton] at among
        rcases among with held | rfl
        · exact records_of_mem_pairs all other held
        · exact here.1
      · exact here.2
  · intro fields same
    cases same
  · constructor
    · intro entry among
      cases upToLast with
      | clean all => exact (all entry among).1.isBroken_eq_false
      | last all here =>
        rw [List.mem_append, List.mem_singleton] at among
        rcases among with held | rfl
        · exact (all entry held).1.isBroken_eq_false
        · exact here.1.isBroken_eq_false
    · exact fun entry among => (upToLast.dropLast entry among).2.isBroken_eq_false
  · rfl

end Value

/-! ## Structs -/

/-- An entry of a struct whose value, if it has one, may record a loss. -/
def Fields.EntryRecords (loss : Option Desync) (entry : String × Field) : Prop :=
  ∀ value ∈ entry.2.value, value.Records loss

namespace Fields

variable {loss : Option Desync} {entry : String × Field} {entries : List (String × Field)}

/-- An entry in which a struct ends early records a loss. -/
theorem EntryRecords.isSome_of_isBroken (records : EntryRecords loss entry)
    (broken : entry.2.isBroken) : loss.isSome := by
  unfold Field.isBroken at broken
  cases held : entry.2.value with
  | none =>
    rw [held] at broken
    cases broken
  | some value =>
    rw [held] at broken
    exact (records value held).isSome_of_isBroken broken

private theorem once_values (once : Once (EntryRecords none) (EntryRecords loss) entries) :
    Once (Value.Records none) (Value.Records loss)
      (entries.filterMap fun entry => entry.2.value) := by
  have none_of {others : List (String × Field)} (all : ∀ other ∈ others, EntryRecords none other) :
      ∀ value ∈ others.filterMap (fun entry => entry.2.value), value.Records none := by
    intro value among
    obtain ⟨entry, held, same⟩ := List.mem_filterMap.mp among
    exact all entry held value same
  cases once with
  | clean all => exact .clean (none_of all)
  | @once before behind entry others meets =>
    rw [List.filterMap_append]
    have others := none_of others
    rw [List.filterMap_append] at others
    cases held : entry.2.value with
    | none =>
      simp only [List.filterMap_cons, held]
      exact .clean others
    | some value =>
      simp only [List.filterMap_cons, held]
      exact .once others (meets value held)

/-- If the last insertion at most records a loss, one entry at most does. Inserting may put it in
the place of an earlier field. -/
theorem once_ofList (upToLast : UpToLast (EntryRecords none) (EntryRecords loss) entries) :
    Once (EntryRecords none) (EntryRecords loss) (ofList entries).entries := by
  have kept {insertions : List (String × Field)}
      (all : ∀ other ∈ insertions, EntryRecords none other) :
      ∀ entry ∈ (ofList insertions).entries, EntryRecords none entry :=
    fun entry among => all entry (mem_of_mem_ofList among)
  cases upToLast with
  | clean all => exact .clean (kept all)
  | @last before entry others meets =>
    obtain ⟨first, behind, split, held⟩ :=
      insertEntry_split entry.1 entry.2 (ofList before).entries
    rw [ofList_concat]
    change Once _ _ (insertEntry entry.1 entry.2 (ofList before).entries)
    rw [split]
    apply Once.once
    · exact fun other among => kept others other (held other among)
    · exact meets

/-- A struct records a loss at its last insertion at most, if it gives the reason. -/
theorem records_struct (upToLast : UpToLast (EntryRecords none) (EntryRecords loss) entries) :
    (Value.struct { ofList entries with incomplete := loss.map Desync.message }).Records loss := by
  have once := once_ofList upToLast
  apply Value.records_of_children
  · exact once_values once
  · intro fields same
    cases same
    rfl
  · constructor
    · intro broken
      obtain ⟨entry, among, broken⟩ := List.any_eq_true.mp broken
      rw [Option.isSome_map]
      have records :=
        once.each (fun _ records value held => (records value held).weaken) entry among
      exact records.isSome_of_isBroken broken
    · apply once.countP_le
      intro entry records
      rw [Bool.eq_false_iff]
      intro broken
      cases records.isSome_of_isBroken broken
  · rfl

end Fields

end TaggedRpc
