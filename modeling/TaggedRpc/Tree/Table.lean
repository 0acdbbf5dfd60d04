import TaggedRpc.Tree.Equality
import TaggedRpc.Tree.Fields

/-!
# Tables of fields

The fields of a struct with an index, so that a field is found by its key without a search. The
entries and the index are kept in step: a key has a slot exactly where an entry has the key, so the
slot that the index gives is always one of the entries. Without the index a table is the fields of a
struct (`FieldTable.toFields`).
-/

namespace TaggedRpc

/-- Entries in order of first insertion, and the slot of each key. -/
structure FieldTable where
  /-- The keys and the fields under them. -/
  entries : Array (String × Field)
  /-- The slot of each key. -/
  index : Std.ExtTreeMap String Nat
  /-- Why the fields end early, if they do. -/
  incomplete : Option String
  /-- A key has a slot exactly where the entry in that slot has the key. -/
  indexed : ∀ (key : String) (slot : Nat),
    index[key]? = some slot ↔ entries[slot]?.map Prod.fst = some key

namespace FieldTable

/-- No fields. -/
def empty : FieldTable where
  entries := #[]
  index := ∅
  incomplete := none
  indexed := by simp

/-- A slot that the index gives holds an entry. -/
theorem slot_lt_size (table : FieldTable) {key : String} {slot : Nat}
    (found : table.index[key]? = some slot) : slot < table.entries.size := by
  obtain ⟨entry, held, -⟩ := Option.map_eq_some_iff.mp ((table.indexed key slot).mp found)
  exact (Array.getElem?_eq_some_iff.mp held).1

/-- Replacing a field leaves every key in its slot. -/
theorem indexed_set (table : FieldTable) {slot : Nat} (held : slot < table.entries.size)
    (field : Field) (key : String) (other : Nat) :
    table.index[key]? = some other ↔
      (table.entries.set slot (table.entries[slot].1, field))[other]?.map Prod.fst = some key := by
  rw [table.indexed, Array.getElem?_set]
  by_cases same : slot = other
  · subst same
    rw [if_pos rfl, Array.getElem?_eq_getElem held]
    rfl
  · rw [if_neg same]

/-- An entry under a new key is put into the slot behind the others. -/
theorem indexed_push (table : FieldTable) {key : String} (absent : table.index[key]? = none)
    (field : Field) (other : String) (slot : Nat) :
    (table.index.insert key table.entries.size)[other]? = some slot ↔
      (table.entries.push (key, field))[slot]?.map Prod.fst = some other := by
  simp only [Std.ExtTreeMap.getElem?_insert, Std.LawfulEqOrd.compare_eq_iff_eq, Array.getElem?_push]
  by_cases last : slot = table.entries.size
  · rw [if_pos last, Option.map_some, Option.some.injEq]
    by_cases same : key = other
    · rw [if_pos same, last]
      exact iff_of_true rfl same
    · rw [if_neg same]
      exact iff_of_false (fun found => Nat.ne_of_lt (table.slot_lt_size found) last) same
  · rw [if_neg last, ← table.indexed]
    by_cases same : key = other
    · rw [if_pos same, ← same, absent, Option.some.injEq]
      exact iff_of_false (Ne.symm last) nofun
    · rw [if_neg same]

/-- Insert a field under a key, or replace the field that is there. -/
def insert (table : FieldTable) (key : String) (field : Field) : FieldTable :=
  match found : table.index[key]? with
  | some slot =>
    have held := table.slot_lt_size found
    { table with
      entries := table.entries.set slot (table.entries[slot].1, field)
      indexed := table.indexed_set held field }
  | none =>
    { table with
      entries := table.entries.push (key, field)
      index := table.index.insert key table.entries.size
      indexed := table.indexed_push found field }

/-- Say why the fields end early. -/
def markIncomplete (table : FieldTable) (reason : String) : FieldTable :=
  { table with incomplete := some reason }

/-- The table that a list of entries gives, inserted one after another. -/
def ofEntries (entries : List (String × Field)) : FieldTable :=
  entries.foldl (fun table entry => table.insert entry.1 entry.2) empty

/-- The number of fields. -/
def size (table : FieldTable) : Nat := table.entries.size

/-- Whether there are no fields. -/
def isEmpty (table : FieldTable) : Bool := table.entries.isEmpty

/-- The keys in order. -/
def keys (table : FieldTable) : List String := table.entries.toList.map Prod.fst

/-- The field under a key, found through the index. -/
def get? (table : FieldTable) (key : String) : Option Field := do
  let slot ← table.index[key]?
  table.entries[slot]?.map Prod.snd

/-- The first field with a number. -/
def getById? (table : FieldTable) (id : Int16) : Option Field :=
  (table.entries.find? fun entry => entry.2.id == id).map Prod.snd

/-- Whether two tables are equal, index and all, where fields are compared in a given way. -/
def equalBy (same : Field → Field → Bool) (table other : FieldTable) : Bool :=
  table.entries.isEqv other.entries (fun a b => a.1 == b.1 && same a.2 b.2) &&
    table.index == other.index && table.incomplete == other.incomplete

/-- Whether two tables are equal. -/
def equal (table other : FieldTable) : Bool := table.equalBy Field.equal other

/-- The fields of a table without the index. -/
def toFields (table : FieldTable) : Fields := ⟨table.entries.toList, table.incomplete⟩

end FieldTable

end TaggedRpc
