import TaggedRpc.Tree.Value
import Std.Data.ExtTreeMap

/-!
# Fields of a struct

Fields as a map in order of first insertion: inserting under a key that is there replaces the field
in its place. Fields built from a list of insertions are found in one pass (`ofList`); they are what
inserting one by one gives (`ofList_concat`).
-/

namespace TaggedRpc

namespace Fields

/-- No fields. -/
def empty : Fields := ⟨[], none⟩

/-- The entries of a list with a field inserted under a key. -/
def insertEntry (key : String) (field : Field) : List (String × Field) → List (String × Field)
  | [] => [(key, field)]
  | (k, f) :: rest => if k = key then (k, field) :: rest else (k, f) :: insertEntry key field rest

/-- Insert a field under a key. -/
def insert (fields : Fields) (key : String) (field : Field) : Fields :=
  { fields with entries := insertEntry key field fields.entries }

/-- Say why the fields end early. -/
def markIncomplete (fields : Fields) (reason : String) : Fields :=
  { fields with incomplete := some reason }

/-- The number of fields. -/
def size (fields : Fields) : Nat := fields.entries.length

/-- Whether there are no fields. -/
def isEmpty (fields : Fields) : Bool := fields.entries.isEmpty

/-- The keys in order. -/
def keys (fields : Fields) : List String := fields.entries.map Prod.fst

/-- The field under a key. -/
def get? (fields : Fields) (key : String) : Option Field := fields.entries.lookup key

/-- The first field with a number. -/
def getById? (fields : Fields) (id : Int16) : Option Field :=
  (fields.entries.find? fun entry => entry.2.id == id).map Prod.snd

/-- The field that a path of keys leads to through structs. -/
def getPath? (fields : Fields) : List String → Option Field
  | [] => none
  | [key] => fields.get? key
  | key :: next :: path => do
    let field ← fields.get? key
    let inner ← (← field.value).struct?
    inner.getPath? (next :: path)

/-- The last field that a list of insertions has under each key. -/
def latest (insertions : List (String × Field)) : Std.ExtTreeMap String Field :=
  insertions.foldl (fun fields (key, field) => fields.insert key field) ∅

/-- The keys of a list that have a field, each at its first place, after the entries of `done` in
reverse. -/
def collect (done : List (String × Field)) :
    List (String × Field) → Std.ExtTreeMap String Field → List (String × Field)
  | [], _ => done.reverse
  | (key, _) :: rest, fields =>
    match fields[key]? with
    | some field => collect ((key, field) :: done) rest (fields.erase key)
    | none => collect done rest fields

/-- The fields that a list of insertions gives: each key at its first place, with its last field. -/
def ofList (insertions : List (String × Field)) : Fields :=
  ⟨collect [] insertions (latest insertions), none⟩

/-- The entries found before are put first. -/
theorem collect_eq_append (done insertions : List (String × Field))
    (fields : Std.ExtTreeMap String Field) :
    collect done insertions fields = done.reverse ++ collect [] insertions fields := by
  induction insertions generalizing done fields with
  | nil => simp [collect]
  | cons entry rest ih =>
    simp only [collect]
    split
    · rename_i field _
      rw [ih, ih [(entry.1, field)]]
      simp
    · exact ih done fields

/-- An insertion under a key that has no field left is passed over. -/
theorem collect_concat_of_absent {insertions : List (String × Field)} {key : String} {field : Field}
    {fields : Std.ExtTreeMap String Field} (absent : fields[key]? = none) :
    collect [] (insertions ++ [(key, field)]) fields = collect [] insertions fields := by
  induction insertions generalizing fields with
  | nil => simp [collect, absent]
  | cons entry rest ih =>
    simp only [List.cons_append, collect]
    split
    · rw [collect_eq_append, collect_eq_append [_], ih]
      rw [Std.ExtTreeMap.getElem?_erase, absent, ite_self]
    · exact ih absent

/-- One more insertion at the end is an insertion into the entries. -/
theorem collect_concat {insertions : List (String × Field)} {key : String} {field : Field}
    {fields : Std.ExtTreeMap String Field}
    (present : key ∈ insertions.map Prod.fst → key ∈ fields) :
    collect [] (insertions ++ [(key, field)]) (fields.insert key field) =
      insertEntry key field (collect [] insertions fields) := by
  induction insertions generalizing fields with
  | nil => simp [collect, insertEntry]
  | cons entry rest ih =>
    obtain ⟨other, first⟩ := entry
    rw [List.map_cons, List.mem_cons] at present
    by_cases same : other = key
    · subst same
      obtain ⟨held, holds⟩ := Option.isSome_iff_exists.mp
        (Std.ExtTreeMap.isSome_getElem?_iff_mem.mpr (present (.inl rfl)))
      simp only [List.cons_append, collect, Std.ExtTreeMap.getElem?_insert_self, holds]
      rw [collect_eq_append, collect_eq_append [_]]
      have erased : (fields.insert other field).erase other = fields.erase other := by
        ext k : 1
        simp only [Std.ExtTreeMap.getElem?_erase, Std.ExtTreeMap.getElem?_insert]
        split <;> rfl
      rw [erased, collect_concat_of_absent (by simp)]
      simp [insertEntry]
    · have apart : (fields.insert key field)[other]? = fields[other]? := by
        rw [Std.ExtTreeMap.getElem?_insert, if_neg]
        rw [Std.LawfulEqOrd.compare_eq_iff_eq]
        exact Ne.symm same
      simp only [List.cons_append, collect, apart]
      split
      · rename_i held _
        have commuted : (fields.insert key field).erase other =
            (fields.erase other).insert key field := by
          ext k : 1
          simp only [Std.ExtTreeMap.getElem?_erase, Std.ExtTreeMap.getElem?_insert,
            Std.LawfulEqOrd.compare_eq_iff_eq]
          by_cases key = k <;> by_cases other = k <;> simp_all
        rw [commuted, collect_eq_append, collect_eq_append [_], ih]
        · simp [insertEntry, same]
        · intro among
          have := present (.inr among)
          simp [Std.ExtTreeMap.mem_erase, this, same]
      · exact ih fun among => present (.inr among)

/-- A key of the insertions has a last field. -/
theorem mem_latest {insertions : List (String × Field)} {key : String}
    (among : key ∈ insertions.map Prod.fst) : key ∈ latest insertions := by
  have kept (rest : List (String × Field)) (fields : Std.ExtTreeMap String Field)
      (present : key ∈ fields ∨ key ∈ rest.map Prod.fst) :
      key ∈ rest.foldl (fun fields (key, field) => fields.insert key field) fields := by
    induction rest generalizing fields with
    | nil => simpa using present
    | cons entry rest ih =>
      refine ih _ ?_
      rw [List.map_cons, List.mem_cons] at present
      rw [Std.ExtTreeMap.mem_insert, Std.LawfulEqOrd.compare_eq_iff_eq]
      rcases present with held | same | among
      · exact .inl (.inr held)
      · exact .inl (.inl same.symm)
      · exact .inr among
  exact kept insertions ∅ (.inr among)

/-- Building fields from insertions is inserting them one after another. -/
theorem ofList_concat (insertions : List (String × Field)) (key : String) (field : Field) :
    ofList (insertions ++ [(key, field)]) = (ofList insertions).insert key field := by
  simp only [ofList, insert, Fields.mk.injEq, and_true]
  rw [← collect_concat mem_latest]
  simp [latest]

/-- Building fields from no insertions gives none. -/
theorem ofList_nil : ofList [] = empty := rfl

end Fields

end TaggedRpc
