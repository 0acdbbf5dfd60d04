import Mathlib.Data.List.Forall2
import Mathlib.Data.List.Induction
import TaggedRpc.Tree.Fields

/-!
# Insertions into fields

What is known of fields that are built from insertions: every field was inserted, every key stands
at its first place with its last field (`keys_ofList`, `get?_ofList`), insertions under other keys
build the same fields without one (`ofList_filter`), and two lists of insertions that are related
one by one give entries that are.
-/

namespace TaggedRpc

namespace Fields

/-- An insertion leaves its entry somewhere among entries that were there before. -/
theorem insertEntry_split (key : String) (field : Field) (entries : List (String × Field)) :
    ∃ before behind, insertEntry key field entries = before ++ (key, field) :: behind ∧
      ∀ entry ∈ before ++ behind, entry ∈ entries := by
  induction entries with
  | nil => exact ⟨[], [], rfl, nofun⟩
  | cons entry rest ih =>
    obtain ⟨other, held⟩ := entry
    rw [insertEntry]
    by_cases same : other = key
    · rw [if_pos same, same]
      exact ⟨[], rest, rfl, fun _ among => List.mem_cons_of_mem _ among⟩
    · rw [if_neg same]
      obtain ⟨before, behind, split, kept⟩ := ih
      refine ⟨(other, held) :: before, behind, by rw [split, List.cons_append], ?_⟩
      intro entry among
      rw [List.cons_append, List.mem_cons] at among
      rw [List.mem_cons]
      exact among.imp_right (kept entry)

/-- Every entry that is built from insertions was inserted. -/
theorem mem_of_mem_ofList {insertions : List (String × Field)} {entry : String × Field}
    (among : entry ∈ (ofList insertions).entries) : entry ∈ insertions := by
  induction insertions using List.reverseRecOn with
  | nil => exact absurd among List.not_mem_nil
  | append_singleton insertions last ih =>
    rw [ofList_concat] at among
    obtain ⟨before, behind, split, kept⟩ :=
      insertEntry_split last.1 last.2 (ofList insertions).entries
    change entry ∈ insertEntry last.1 last.2 (ofList insertions).entries at among
    rw [split, List.mem_append, List.mem_cons] at among
    have old (held : entry ∈ before ++ behind) : entry ∈ insertions ++ [last] :=
      List.mem_append_left _ (ih (kept entry held))
    rcases among with held | rfl | held
    · exact old (List.mem_append_left _ held)
    · exact List.mem_append_right _ List.mem_cons_self
    · exact old (List.mem_append_right _ held)

/-! ## Keys and fields under them -/

private theorem map_fst_insertEntry (key : String) (field : Field)
    (entries : List (String × Field)) :
    (insertEntry key field entries).map Prod.fst =
      if key ∈ entries.map Prod.fst then entries.map Prod.fst
      else entries.map Prod.fst ++ [key] := by
  induction entries with
  | nil => simp [insertEntry]
  | cons entry rest ih =>
    rw [insertEntry]
    by_cases same : entry.1 = key
    · simp [same]
    · rw [if_neg same]
      simp only [List.map_cons, ih, List.mem_cons, Ne.symm same, false_or]
      split <;> rfl

/-- The keys after an insertion are those before, and its own. -/
theorem keys_insert (fields : Fields) (key : String) (field : Field) :
    (fields.insert key field).keys =
      if key ∈ fields.keys then fields.keys else fields.keys ++ [key] :=
  map_fst_insertEntry key field fields.entries

/-- The first of some entries is found under its own key only. -/
theorem lookup_cons_eq (key : String) (entry : String × Field) (rest : List (String × Field)) :
    (entry :: rest).lookup key = if key = entry.1 then some entry.2 else rest.lookup key := by
  obtain ⟨first, field⟩ := entry
  rw [List.lookup_cons]
  split
  · next same => rw [if_pos (eq_of_beq same)]
  · next other => rw [if_neg (ne_of_beq_false other)]

/-- An insertion changes the entry under its own key only. -/
theorem lookup_insertEntry (key other : String) (field : Field) (entries : List (String × Field)) :
    (insertEntry key field entries).lookup other =
      if other = key then some field else entries.lookup other := by
  induction entries with
  | nil => rw [insertEntry, lookup_cons_eq]
  | cons entry rest ih =>
    obtain ⟨first, held⟩ := entry
    rw [insertEntry, lookup_cons_eq]
    by_cases found : first = key
    · rw [if_pos found, lookup_cons_eq]
      by_cases same : other = key <;> simp [found, same]
    · rw [if_neg found, lookup_cons_eq, ih]
      by_cases same : other = first <;> simp [same, found]

/-- An insertion changes the field under its own key only. -/
theorem get?_insert (fields : Fields) (key other : String) (field : Field) :
    (fields.insert key field).get? other =
      if other = key then some field else fields.get? other :=
  lookup_insertEntry key other field fields.entries

/-- The keys of fields that are built from insertions are those of the insertions, each at its first
place. -/
theorem keys_ofList (insertions : List (String × Field)) :
    (ofList insertions).keys = (insertions.map Prod.fst).eraseDups := by
  induction insertions using List.reverseRecOn with
  | nil => rfl
  | append_singleton insertions last ih =>
    rw [ofList_concat, keys_insert, ih, List.map_append, List.eraseDups_append]
    by_cases held : last.1 ∈ insertions.map Prod.fst
    · rw [if_pos (List.mem_eraseDups.mpr held)]
      simp [List.removeAll, held]
    · rw [if_neg (mt List.mem_eraseDups.mp held)]
      simp [List.removeAll, held, List.eraseDups_cons]

/-- The keys of fields that are built from insertions are all different. -/
theorem nodup_keys_ofList (insertions : List (String × Field)) :
    (ofList insertions).keys.Nodup := by
  induction insertions using List.reverseRecOn with
  | nil => exact List.nodup_nil
  | append_singleton insertions last ih =>
    rw [ofList_concat, keys_insert]
    split
    · exact ih
    · next absent => exact List.nodup_append.mpr ⟨ih, by simp, by grind⟩

/-- The field under a key is the last one that was inserted there. -/
theorem get?_ofList (insertions : List (String × Field)) (key : String) :
    (ofList insertions).get? key = insertions.reverse.lookup key := by
  induction insertions using List.reverseRecOn with
  | nil => rfl
  | append_singleton insertions last ih =>
    rw [ofList_concat, get?_insert, ih, List.reverse_concat, lookup_cons_eq]

section Different

variable {key : String} {field : Field} {entries : List (String × Field)}

/-- Under a new key an entry is put behind the others. -/
theorem insertEntry_of_absent (absent : key ∉ entries.map Prod.fst) :
    insertEntry key field entries = entries ++ [(key, field)] := by
  induction entries with
  | nil => rfl
  | cons entry rest ih =>
    rw [List.map_cons, List.mem_cons, not_or] at absent
    rw [insertEntry, if_neg (Ne.symm absent.1), ih absent.2, List.cons_append]

/-- Where all keys are different, the entry of a key is the one that is replaced under it. -/
theorem insertEntry_of_getElem? {held : Field} {slot : Nat} (nodup : (entries.map Prod.fst).Nodup)
    (found : entries[slot]? = some (key, held)) :
    insertEntry key field entries = entries.set slot (key, field) := by
  induction entries generalizing slot with
  | nil => cases found
  | cons entry rest ih =>
    rw [List.map_cons, List.nodup_cons] at nodup
    cases slot with
    | zero =>
      cases found
      rw [insertEntry, if_pos rfl, List.set_cons_zero]
    | succ slot =>
      rw [List.getElem?_cons_succ] at found
      have among : key ∈ rest.map Prod.fst :=
        List.mem_map.mpr ⟨_, List.mem_of_getElem? found, rfl⟩
      have other : entry.1 ≠ key := fun same => nodup.1 (same ▸ among)
      rw [insertEntry, if_neg other, ih nodup.2 found, List.set_cons_succ]

/-- Where all keys are different, every entry is found under its key. -/
theorem lookup_eq_some_iff_mem (nodup : (entries.map Prod.fst).Nodup) :
    entries.lookup key = some field ↔ (key, field) ∈ entries := by
  induction entries with
  | nil => exact iff_of_false nofun List.not_mem_nil
  | cons entry rest ih =>
    rw [List.map_cons, List.nodup_cons] at nodup
    rw [lookup_cons_eq, List.mem_cons]
    by_cases same : key = entry.1
    · have behind : (key, field) ∉ rest := fun among =>
        nodup.1 (List.mem_map.mpr ⟨_, among, same⟩)
      rw [if_pos same, Option.some.injEq, or_iff_left behind, Prod.ext_iff]
      exact ⟨fun held => ⟨same, held.symm⟩, fun equal => equal.2.symm⟩
    · have front : (key, field) ≠ entry := fun equal => same (congrArg Prod.fst equal)
      rw [if_neg same, ih nodup.2, or_iff_right front]

/-- Entries whose keys are all different are built from themselves. -/
theorem entries_ofList_of_nodup (nodup : (entries.map Prod.fst).Nodup) :
    (ofList entries).entries = entries := by
  induction entries using List.reverseRecOn with
  | nil => rfl
  | append_singleton entries last ih =>
    rw [List.map_append, List.nodup_append] at nodup
    have absent : last.1 ∉ entries.map Prod.fst := fun among =>
      nodup.2.2 _ among _ (List.mem_singleton_self _) rfl
    rw [ofList_concat, insert, ih nodup.1, insertEntry_of_absent absent]

end Different

section Changed

variable (before behind : List (String × Field)) (key : String) (field field' : Field)

/-- The keys do not depend on what is inserted under them. -/
theorem keys_ofList_changed :
    (ofList (before ++ (key, field') :: behind)).keys =
      (ofList (before ++ (key, field) :: behind)).keys := by
  simp only [keys_ofList, List.map_append, List.map_cons]

/-- What is inserted under one key does not change what is under another. -/
theorem get?_ofList_changed {other : String} (apart : other ≠ key) :
    (ofList (before ++ (key, field') :: behind)).get? other =
      (ofList (before ++ (key, field) :: behind)).get? other := by
  simp only [get?_ofList, List.reverse_append, List.reverse_cons, List.lookup_append,
    lookup_cons_eq, if_neg apart]

end Changed

/-! ## Fields left out -/

/-- Fields without the one under a key. -/
def without (fields : Fields) (key : String) : Fields :=
  { fields with entries := fields.entries.filter fun entry => entry.1 ≠ key }

private theorem filter_insertEntry (key other : String) (field : Field)
    (entries : List (String × Field)) :
    (insertEntry other field entries).filter (fun entry => entry.1 ≠ key) =
      if other = key then entries.filter fun entry => entry.1 ≠ key
      else insertEntry other field (entries.filter fun entry => entry.1 ≠ key) := by
  induction entries with
  | nil => by_cases same : other = key <;> simp [insertEntry, same]
  | cons entry rest ih =>
    obtain ⟨first, held⟩ := entry
    rw [insertEntry]
    by_cases found : first = other
    · subst found
      by_cases same : first = key <;> simp [insertEntry, same]
    · rw [if_neg found, List.filter_cons, List.filter_cons, ih]
      by_cases same : other = key
      · simp only [if_pos same]
      · by_cases out : first = key <;> simp [insertEntry, same, found, out]

/-- Fields that are built without the insertions under a key are those without the one under it. -/
theorem ofList_filter (insertions : List (String × Field)) (key : String) :
    ofList (insertions.filter fun entry => entry.1 ≠ key) = (ofList insertions).without key := by
  induction insertions using List.reverseRecOn with
  | nil => rfl
  | append_singleton insertions last ih =>
    have split : (ofList (insertions ++ [last])).without key =
        { ofList insertions with
          entries := (insertEntry last.1 last.2 (ofList insertions).entries).filter
            fun entry => entry.1 ≠ key } := by
      rw [ofList_concat]
      rfl
    rw [split, filter_insertEntry, List.filter_append]
    by_cases same : last.1 = key
    · have out : [last].filter (fun entry => entry.1 ≠ key) = [] := by simp [same]
      rw [out, List.append_nil, if_pos same, ih]
      rfl
    · have kept : [last].filter (fun entry => entry.1 ≠ key) = [last] := by simp [same]
      rw [kept, if_neg same, ofList_concat, ih]
      rfl

/-- If nothing else is inserted under a key, the fields without it are built from the others. -/
theorem ofList_without {before behind : List (String × Field)} {key : String} {field : Field}
    (alone : ∀ entry ∈ before ++ behind, entry.1 ≠ key) :
    (ofList (before ++ (key, field) :: behind)).without key = ofList (before ++ behind) := by
  have kept : (before ++ (key, field) :: behind).filter (fun entry => entry.1 ≠ key) =
      (before ++ behind).filter fun entry => entry.1 ≠ key := by
    simp
  rw [← ofList_filter, kept, List.filter_eq_self.mpr]
  simpa using alone

/-- A field under another key is still found. -/
theorem get?_without (fields : Fields) {key other : String} (apart : other ≠ key) :
    (fields.without key).get? other = fields.get? other := by
  change (fields.entries.filter fun entry => entry.1 ≠ key).lookup other =
    fields.entries.lookup other
  induction fields.entries with
  | nil => rfl
  | cons entry rest ih =>
    obtain ⟨first, field⟩ := entry
    by_cases out : first = key
    · subst out
      rw [List.filter_cons_of_neg (by simp), ih, List.lookup_cons, beq_false_of_ne apart]
    · rw [List.filter_cons_of_pos (by simpa using out), List.lookup_cons, List.lookup_cons, ih]

/-- If nothing is inserted under a key later, the field is found there. -/
theorem get?_ofList_last (before : List (String × Field)) {behind : List (String × Field)}
    {key : String} {field : Field} (last : ∀ entry ∈ behind, entry.1 ≠ key) :
    (ofList (before ++ (key, field) :: behind)).get? key = some field := by
  have absent : behind.reverse.lookup key = none :=
    List.lookup_eq_none_iff.mpr fun entry among =>
      bne_iff_ne.mpr (last entry (List.mem_reverse.mp among)).symm
  rw [get?_ofList, List.reverse_append, List.reverse_cons, List.append_assoc, List.lookup_append,
    absent, List.singleton_append, lookup_cons_eq, if_pos rfl]
  rfl

section Related

variable {related : String × Field → String × Field → Prop}
  (sameKeys : ∀ {e e' g g'}, related e e' → related g g' → (e.1 = g.1 ↔ e'.1 = g'.1))
  {as bs : List (String × Field)}

include sameKeys

private theorem forall₂_insertEntry {key key' : String} {a b : Field}
    (entries : List.Forall₂ related as bs) (new : related (key, a) (key', b)) :
    List.Forall₂ related (insertEntry key a as) (insertEntry key' b bs) := by
  induction entries with
  | nil => exact .cons new .nil
  | @cons e e' rest rest' head entries ih =>
    obtain ⟨k, f⟩ := e
    obtain ⟨k', f'⟩ := e'
    have alike : k = key ↔ k' = key' := sameKeys head new
    rw [insertEntry, insertEntry]
    by_cases same : k = key
    · rw [if_pos same, if_pos (alike.mp same), same, alike.mp same]
      exact .cons new entries
    · rw [if_neg same, if_neg (fun same' => same (alike.mpr same'))]
      exact .cons head ih

/-- Building fields from related insertions gives related entries. The induction is on the
insertions from the last to the first. -/
theorem forall₂_ofList (insertions : List.Forall₂ related as bs) :
    List.Forall₂ related (ofList as).entries (ofList bs).entries := by
  have reversed := List.rel_reverse insertions
  rw [← as.reverse_reverse, ← bs.reverse_reverse]
  generalize as.reverse = as, bs.reverse = bs at reversed
  induction reversed with
  | nil => exact .nil
  | cons head rest ih =>
    rw [List.reverse_cons, List.reverse_cons, ofList_concat, ofList_concat]
    exact forall₂_insertEntry sameKeys ih head

end Related

end Fields

end TaggedRpc
