import Mathlib.Data.Finset.Dedup
import Mathlib.Data.Finset.Card
import TaggedRpc.Proofs.Tree.Insertions
import TaggedRpc.Tree.Table

/-!
# Tables of fields after any history

A table of fields remembers what was inserted into it, whatever the order of insertions and marks
(`FieldTable.after_remembers`). One edit does to a table what it does to the fields in it
(`FieldTable.toFields_insert`), and the index of a table follows from its keys, so what is known of
fields that are built from insertions is known of tables.
-/

namespace TaggedRpc

namespace FieldTable

variable {table other : FieldTable} {key : String}

/-! ## The index -/

/-- A key has a slot exactly where it stands among the keys. -/
theorem getElem?_index_eq_some_iff {slot : Nat} :
    table.index[key]? = some slot ↔ table.keys[slot]? = some key := by
  rw [table.indexed, keys, List.getElem?_map, Array.getElem?_toList]

/-- The keys of a table are all different: none has two slots. -/
theorem nodup_keys (table : FieldTable) : table.keys.Nodup := by
  rw [List.nodup_iff_getElem?_ne_getElem?]
  intro i j before bound same
  have held : table.keys[j]? = some table.keys[j] := List.getElem?_eq_getElem bound
  have first := getElem?_index_eq_some_iff.mpr (same.trans held)
  have second := getElem?_index_eq_some_iff.mpr held
  rw [second, Option.some.injEq] at first
  exact absurd first.symm (Nat.ne_of_lt before)

private theorem index_eq_of_keys (same : table.keys = other.keys) : table.index = other.index := by
  apply Std.ExtTreeMap.ext_getElem?
  intro key
  apply Option.ext
  intro slot
  rw [getElem?_index_eq_some_iff, getElem?_index_eq_some_iff, same]

private theorem ext_toFields (same : table.toFields = other.toFields) : table = other := by
  obtain ⟨entries, incomplete⟩ := Fields.mk.injEq .. ▸ same
  have index : table.index = other.index := index_eq_of_keys (congrArg (List.map Prod.fst) entries)
  cases table
  cases other
  cases Array.toList_inj.mp entries
  cases index
  cases incomplete
  rfl

private theorem get?_eq_some_iff {field : Field} :
    table.get? key = some field ↔ (key, field) ∈ table.entries := by
  constructor
  · intro found
    obtain ⟨slot, place, held⟩ := Option.bind_eq_some_iff.mp found
    obtain ⟨entry, stands, rfl⟩ := Option.map_eq_some_iff.mp held
    have own := (table.indexed key slot).mp place
    rw [stands, Option.map_some, Option.some.injEq] at own
    exact own ▸ Array.mem_of_getElem? stands
  · intro among
    obtain ⟨slot, stands⟩ := Array.getElem?_of_mem among
    have place : table.index[key]? = some slot := by
      rw [table.indexed, stands]
      rfl
    exact Option.bind_eq_some_iff.mpr ⟨slot, place, by rw [stands]; rfl⟩

/-- The index leads to the field that a search finds. -/
theorem get?_toFields (table : FieldTable) (key : String) :
    table.toFields.get? key = table.get? key := by
  apply Option.ext
  intro field
  rw [get?_eq_some_iff, ← Array.mem_toList_iff]
  exact Fields.lookup_eq_some_iff_mem table.nodup_keys

private theorem filterMap_get?_keys (table : FieldTable) :
    table.keys.filterMap table.get? = table.entries.toList.map Prod.snd := by
  rw [keys, List.filterMap_map, ← List.filterMap_eq_map]
  apply List.filterMap_congr
  intro entry among
  exact get?_eq_some_iff.mpr (Array.mem_toList_iff.mp among)

/-! ## Edits -/

/-- Inserting into a table is inserting into its fields. -/
theorem toFields_insert (table : FieldTable) (key : String) (field : Field) :
    (table.insert key field).toFields = table.toFields.insert key field := by
  unfold insert
  split
  · next slot found =>
    have held := table.slot_lt_size found
    have own := (table.indexed key slot).mp found
    rw [Array.getElem?_eq_getElem held, Option.map_some, Option.some.injEq] at own
    have stands : table.entries.toList[slot]? = some (key, table.entries[slot].2) := by
      rw [Array.getElem?_toList, Array.getElem?_eq_getElem held, ← own]
    rw [toFields, Fields.insert, toFields, Array.toList_set, own,
      Fields.insertEntry_of_getElem? table.nodup_keys stands]
  · next absent =>
    have new : key ∉ table.keys := by
      intro among
      obtain ⟨slot, stands⟩ := List.getElem?_of_mem among
      rw [getElem?_index_eq_some_iff.mpr stands] at absent
      cases absent
    rw [toFields, Fields.insert, toFields, Array.toList_push, Fields.insertEntry_of_absent new]

end FieldTable

/-- What may be done to a table of fields. -/
inductive Edit where
  /-- Insert a field under a key. -/
  | insert (key : String) (field : Field)
  /-- Say why the fields end early. -/
  | markIncomplete (reason : String)

namespace Edit

/-- What an edit inserts, if it does. -/
def insertion? : Edit → Option (String × Field)
  | insert key field => some (key, field)
  | markIncomplete _ => none

/-- What an edit gives as the reason why the fields end early, if it does. -/
def reason? : Edit → Option String
  | insert _ _ => none
  | markIncomplete reason => some reason

/-- What edits insert, in order. -/
def insertions (edits : List Edit) : List (String × Field) := edits.filterMap insertion?

/-- The reasons that edits give, in order. -/
def reasons (edits : List Edit) : List String := edits.filterMap reason?

end Edit

namespace FieldTable

/-- Do an edit to a table. -/
def edit (table : FieldTable) : Edit → FieldTable
  | .insert key field => table.insert key field
  | .markIncomplete reason => table.markIncomplete reason

/-- The table after a history of edits to an empty one. -/
def after (edits : List Edit) : FieldTable := edits.foldl edit empty

/-- The fields after a history are those that are built from what was inserted, and they end early
for the last reason that was given. -/
theorem toFields_after (edits : List Edit) :
    (after edits).toFields =
      ⟨(Fields.ofList (Edit.insertions edits)).entries, (Edit.reasons edits).getLast?⟩ := by
  induction edits using List.reverseRecOn with
  | nil => rfl
  | append_singleton edits last ih =>
    rw [after, List.foldl_append, ← after, Edit.insertions, Edit.reasons, List.filterMap_append,
      List.filterMap_append, ← Edit.insertions, ← Edit.reasons]
    cases last with
    | insert key field =>
      have inserted : [Edit.insert key field].filterMap Edit.insertion? = [(key, field)] := rfl
      have unmarked : [Edit.insert key field].filterMap Edit.reason? = [] := rfl
      rw [inserted, unmarked, List.append_nil, Fields.ofList_concat]
      change ((after edits).insert key field).toFields = _
      rw [toFields_insert, ih]
      rfl
    | markIncomplete reason =>
      have uninserted : [Edit.markIncomplete reason].filterMap Edit.insertion? = [] := rfl
      have marked : [Edit.markIncomplete reason].filterMap Edit.reason? = [reason] := rfl
      rw [uninserted, marked, List.append_nil, List.getLast?_append]
      change { (after edits).toFields with incomplete := some reason } = _
      rw [ih]
      rfl

/-- The table that is made of the entries of a table and the reason why its fields end early. -/
def rebuild (table : FieldTable) : FieldTable :=
  match table.incomplete with
  | none => ofEntries table.entries.toList
  | some reason => (ofEntries table.entries.toList).markIncomplete reason

private theorem toFields_ofEntries (entries : List (String × Field)) :
    (ofEntries entries).toFields = Fields.ofList entries := by
  have run : ofEntries entries = after (entries.map fun entry => .insert entry.1 entry.2) := by
    rw [ofEntries, after, List.foldl_map]
    rfl
  have inserted : Edit.insertions (entries.map fun entry => .insert entry.1 entry.2) = entries := by
    rw [Edit.insertions, List.filterMap_map]
    exact List.filterMap_some
  have unmarked : Edit.reasons (entries.map fun entry => .insert entry.1 entry.2) = [] := by
    rw [Edit.reasons, List.filterMap_map]
    exact List.filterMap_eq_nil_iff.mpr fun _ _ => rfl
  rw [run, toFields_after, inserted, unmarked]
  rfl

/-- A table is rebuilt from its own entries. -/
theorem rebuild_eq (table : FieldTable) : table.rebuild = table := by
  have entries : (ofEntries table.entries.toList).toFields = ⟨table.entries.toList, none⟩ := by
    rw [toFields_ofEntries]
    exact congrArg (Fields.mk · none) (Fields.entries_ofList_of_nodup table.nodup_keys)
  apply ext_toFields
  unfold rebuild
  split
  · next complete => rw [entries, toFields, complete]
  · next reason marked =>
    have kept : ((ofEntries table.entries.toList).markIncomplete reason).toFields =
        { (ofEntries table.entries.toList).toFields with incomplete := some reason } := rfl
    rw [kept, entries, toFields, marked]

/-! ## Equality -/

private theorem isEqv_iff_forall₂ {α : Type} {compared : α → α → Bool} (as bs : Array α) :
    as.isEqv bs compared ↔ List.Forall₂ (fun a b => compared a b) as.toList bs.toList := by
  rw [Array.isEqv_iff_rel, List.forall₂_iff_get]
  constructor
  · rintro ⟨lengths, equal⟩
    exact ⟨lengths, fun i bound _ => equal i bound⟩
  · rintro ⟨lengths, equal⟩
    exact ⟨lengths, fun i bound => equal i bound (lengths ▸ bound)⟩

/-- Tables are equal exactly where their entries are, one by one, and their reasons. The index makes
no difference. -/
theorem equalBy_iff {table other : FieldTable} {same : Field → Field → Bool} :
    table.equalBy same other ↔
      List.Forall₂ (fun a b => a.1 = b.1 ∧ same a.2 b.2) table.entries.toList
        other.entries.toList ∧ table.incomplete = other.incomplete := by
  have entries : table.entries.isEqv other.entries (fun a b => a.1 == b.1 && same a.2 b.2) ↔
      List.Forall₂ (fun a b => a.1 = b.1 ∧ same a.2 b.2) table.entries.toList
        other.entries.toList := by
    rw [isEqv_iff_forall₂]
    simp only [Bool.and_eq_true, beq_iff_eq]
  rw [equalBy, Bool.and_eq_true, Bool.and_eq_true, beq_iff_eq, beq_iff_eq, entries]
  constructor
  · rintro ⟨⟨held, -⟩, reasons⟩
    exact ⟨held, reasons⟩
  · rintro ⟨held, reasons⟩
    have keys : table.keys = other.keys := by
      rw [keys, FieldTable.keys, ← List.forall₂_eq_eq_eq, List.forall₂_map_left_iff,
        List.forall₂_map_right_iff]
      exact held.imp fun _ _ equal => equal.1
    exact ⟨⟨held, index_eq_of_keys keys⟩, reasons⟩

private theorem equalEntries_iff_forall₂ {as bs : List (String × Field)} :
    Fields.equalEntries as bs ↔ List.Forall₂ (fun a b => a.1 = b.1 ∧ a.2.equal b.2) as bs := by
  induction as generalizing bs with
  | nil => cases bs <;> simp [Fields.equalEntries]
  | cons a as ih =>
    cases bs with
    | nil => simp [Fields.equalEntries]
    | cons b bs =>
      rw [Fields.equalEntries, List.forall₂_cons, Bool.and_eq_true, Bool.and_eq_true, beq_iff_eq,
        ih]

/-- Tables are equal exactly where their fields are. -/
theorem equal_toFields (table other : FieldTable) :
    table.toFields.equal other.toFields = table.equal other := by
  rw [Bool.eq_iff_iff, equal, equalBy_iff, toFields, toFields, Fields.equal, Bool.and_eq_true,
    equalEntries_iff_forall₂, beq_iff_eq]

/-! ## Histories -/

/-- What a table remembers of its history. -/
structure Remembers (edits : List Edit) (table : FieldTable) : Prop where
  /-- The keys are those that were inserted, each once and in the order of first insertion. -/
  keys_eq : table.keys = ((Edit.insertions edits).map Prod.fst).eraseDups
  /-- The field under a key is the last one that was inserted there. -/
  get?_eq : ∀ key, table.get? key = (Edit.insertions edits).reverse.lookup key
  /-- The field under a key is the one that the entries have under it. -/
  get?_iff_mem : ∀ key field, table.get? key = some field ↔ (key, field) ∈ table.entries
  /-- The fields end early for the last reason that was given. -/
  incomplete_eq : table.incomplete = (Edit.reasons edits).getLast?
  /-- There are as many fields as different keys were inserted. -/
  size_eq : table.size = ((Edit.insertions edits).map Prod.fst).toFinset.card
  /-- The field with a number is the first one with it, in the order of the keys. -/
  getById?_eq : ∀ id,
    table.getById? id = (table.keys.filterMap table.get?).find? fun field => field.id == id
  /-- However fields are compared, the table is equal to that after another history, index and all,
  exactly where the entries are equal one by one and the reasons are. -/
  equalBy_after : ∀ (same : Field → Field → Bool) (others : List Edit),
    table.equalBy same (after others) ↔
      List.Forall₂ (fun a b => a.1 = b.1 ∧ same a.2 b.2) table.entries.toList
        (after others).entries.toList ∧ table.incomplete = (after others).incomplete
  /-- The table is rebuilt from its own entries and the reason why they end early. -/
  rebuild_eq : table.rebuild = table

/-- A table remembers every history of edits. -/
theorem after_remembers (edits : List Edit) : (after edits).Remembers edits := by
  have run := toFields_after edits
  have keys : (after edits).keys = (Fields.ofList (Edit.insertions edits)).keys :=
    congrArg Fields.keys run
  constructor
  case keys_eq => rw [keys, Fields.keys_ofList]
  case get?_eq =>
    intro key
    rw [← get?_toFields, run, ← Fields.get?_ofList]
    rfl
  case get?_iff_mem => exact fun key field => get?_eq_some_iff
  case incomplete_eq => exact congrArg Fields.incomplete run
  case size_eq =>
    have distinct : ((Edit.insertions edits).map Prod.fst).toFinset =
        (after edits).keys.toFinset := by
      ext key
      rw [keys, Fields.keys_ofList, List.mem_toFinset, List.mem_toFinset, List.mem_eraseDups]
    rw [distinct, List.toFinset_card_of_nodup (nodup_keys _), FieldTable.keys, List.length_map,
      Array.length_toList, size]
  case getById?_eq =>
    intro id
    rw [filterMap_get?_keys, List.find?_map, getById?, ← Array.find?_toList]
    rfl
  case equalBy_after => exact fun same others => equalBy_iff
  case rebuild_eq => exact rebuild_eq _

end FieldTable

end TaggedRpc
