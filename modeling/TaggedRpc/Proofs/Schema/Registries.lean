import TaggedRpc.Proofs.Schema.Insertions
import TaggedRpc.Proofs.Text.ByteOrder
import TaggedRpc.Schema.Registry

/-!
# Registries after any history

A registry remembers of every history of insertions the last descriptors under each name
(`Registry.ofList_remembers`). Its audits come in the order of the names, one for each, in whatever
order a walk over the structs comes to them (`Registry.IsWalk`), since there is one ascending order
of the names only.
-/

namespace TaggedRpc

namespace Registry

variable {registry other : Registry} {entries : List (String × List Descriptor)}

/-- Whether entries are those of a registry in some order: every struct once, with the descriptors
that are looked up under its name. A walk over a hash table comes to them in such an order. -/
structure IsWalk (registry : Registry) (entries : List (String × List Descriptor)) : Prop where
  /-- No struct comes twice. -/
  nodup : (entries.map Prod.fst).Nodup
  /-- The structs that come are those of the registry. -/
  mem_iff : ∀ structName descriptors,
    (structName, descriptors) ∈ entries ↔ registry.lookup? structName = some descriptors

/-! ## Look-ups -/

/-- Registries with the same descriptors under each name are the same. -/
theorem ext_lookup? (same : ∀ structName, registry.lookup? structName = other.lookup? structName) :
    registry = other := by
  cases registry
  cases other
  congr 1
  exact Std.ExtTreeMap.ext_getElem? same

private theorem lookup?_insert_entry (registry : Registry) (entry : String × List Descriptor)
    (structName : String) : (registry.insert entry.1 entry.2).lookup? structName =
      if entry.1 = structName then some entry.2 else registry.lookup? structName :=
  registry.lookup?_insert entry.1 structName entry.2

private theorem lookup?_empty (structName : String) : empty.lookup? structName = none :=
  Std.ExtTreeMap.getElem?_empty

/-- The descriptors of a struct are those of its last insertion. -/
theorem lookup?_ofList (insertions : List (String × List Descriptor)) (structName : String) :
    (ofList insertions).lookup? structName =
      (insertions.filter (·.1 = structName)).getLast?.map Prod.snd :=
  lookup_foldl_insert lookup?_insert_entry lookup?_empty insertions structName

/-- A struct has descriptors if any were inserted. -/
theorem isSome_lookup?_ofList {insertions : List (String × List Descriptor)} {structName : String} :
    ((ofList insertions).lookup? structName).isSome ↔ structName ∈ insertions.map Prod.fst :=
  isSome_lookup_foldl_insert lookup?_insert_entry lookup?_empty

/-- There are as many structs as different names were inserted. -/
theorem size_ofList (insertions : List (String × List Descriptor)) :
    (ofList insertions).size = (insertions.map Prod.fst).dedup.length :=
  size_eq_length_dedup fun _ => isSome_lookup?_ofList

/-! ## Walks -/

private theorem map_structName_audits :
    registry.audits.map Audit.structName = registry.structs.toList.map Prod.fst := by
  rw [audits, List.map_map]
  rfl

/-- Audits come in the ascending order of the names of their structs. -/
theorem ascending_audits (registry : Registry) :
    Text.Ascending (registry.audits.map Audit.structName) := by
  rw [map_structName_audits, Std.ExtTreeMap.map_fst_toList_eq_keys]
  refine Std.ExtTreeMap.ordered_keys.imp fun before => ?_
  exact Text.lt_iff_utf8_lt.mp (compare_lt_iff_lt.mp before)

private theorem isWalk_iff_perm :
    registry.IsWalk entries ↔ entries.Perm registry.structs.toList := by
  have nodup : (registry.structs.toList.map Prod.fst).Nodup :=
    map_structName_audits ▸ registry.ascending_audits.nodup
  constructor
  · intro walk
    refine (List.perm_ext_iff_of_nodup walk.nodup.of_map nodup.of_map).mpr fun entry => ?_
    rw [walk.mem_iff, Std.ExtTreeMap.mem_toList_iff_getElem?_eq_some, lookup?]
  · intro perm
    refine ⟨(perm.map Prod.fst).nodup_iff.mpr nodup, fun structName descriptors => ?_⟩
    rw [perm.mem_iff, Std.ExtTreeMap.mem_toList_iff_getElem?_eq_some, lookup?]

/-- Sorting the audits that a walk makes gives those of the registry, in whatever order it comes to
the structs. -/
theorem auditsOf_eq (walk : registry.IsWalk entries) : auditsOf entries = registry.audits :=
  Text.mergeSort_eq_of_ascending ((isWalk_iff_perm.mp walk).map _) registry.ascending_audits

private theorem mem_audits_iff {audit : Audit} : audit ∈ registry.audits ↔
    ∃ descriptors, registry.lookup? audit.structName = some descriptors ∧
      audit = Audit.ofDescriptors audit.structName descriptors := by
  rw [audits, List.mem_map]
  constructor
  · rintro ⟨⟨structName, descriptors⟩, among, rfl⟩
    exact ⟨descriptors, Std.ExtTreeMap.mem_toList_iff_getElem?_eq_some.mp among, rfl⟩
  · rintro ⟨descriptors, found, same⟩
    exact ⟨⟨audit.structName, descriptors⟩,
      Std.ExtTreeMap.mem_toList_iff_getElem?_eq_some.mpr found, same.symm⟩

private theorem mem_map_structName_audits {structName : String} :
    structName ∈ registry.audits.map Audit.structName ↔
      (registry.lookup? structName).isSome := by
  rw [map_structName_audits, Std.ExtTreeMap.map_fst_toList_eq_keys, Std.ExtTreeMap.mem_keys,
    ← Std.ExtTreeMap.isSome_getElem?_iff_mem, lookup?]

/-! ## Histories -/

/-- What a registry remembers of its history. -/
structure Remembers (insertions : List (String × List Descriptor)) (registry : Registry) :
    Prop where
  /-- The descriptors of a struct are those of its last insertion, if there was any. -/
  lookup?_eq : ∀ structName, registry.lookup? structName =
    (insertions.filter (·.1 = structName)).getLast?.map Prod.snd
  /-- There are as many structs as different names were inserted. -/
  size_eq : registry.size = (insertions.map Prod.fst).dedup.length
  /-- The structs can be walked over. -/
  exists_walk : ∃ entries, registry.IsWalk entries
  /-- In whatever order a walk comes to the structs, the same audits are made of it. -/
  auditsOf_eq : ∀ entries, registry.IsWalk entries → auditsOf entries = registry.audits
  /-- Audits come in the strictly ascending order of the names, by their bytes. -/
  ascending : Text.Ascending (registry.audits.map Audit.structName)
  /-- There is an audit for every name that was inserted, and for no other. -/
  mem_names_iff : ∀ structName, structName ∈ registry.audits.map Audit.structName ↔
    structName ∈ insertions.map Prod.fst
  /-- Every audit is that of the descriptors under its name. -/
  audit_eq : ∀ audit ∈ registry.audits, ∃ descriptors,
    registry.lookup? audit.structName = some descriptors ∧
      audit = Audit.ofDescriptors audit.structName descriptors
  /-- Another history with the same descriptors under each name leaves the same audits, in whatever
  orders the two registries are walked over. -/
  auditsOf_eq_of_lookup? : ∀ others,
    (∀ structName, (ofList others).lookup? structName = registry.lookup? structName) →
      ∀ entries entries', registry.IsWalk entries → (ofList others).IsWalk entries' →
        auditsOf entries' = auditsOf entries

/-- A registry remembers every history of insertions. -/
theorem ofList_remembers (insertions : List (String × List Descriptor)) :
    (ofList insertions).Remembers insertions where
  lookup?_eq := lookup?_ofList insertions
  size_eq := size_ofList insertions
  exists_walk := ⟨_, isWalk_iff_perm.mpr (List.Perm.refl _)⟩
  auditsOf_eq _ := auditsOf_eq
  ascending := ascending_audits _
  mem_names_iff _ := mem_map_structName_audits.trans isSome_lookup?_ofList
  audit_eq _ := mem_audits_iff.mp
  auditsOf_eq_of_lookup? others same entries entries' walk walk' := by
    have unchanged : ofList others = ofList insertions := ext_lookup? same
    rw [auditsOf_eq walk, auditsOf_eq walk', unchanged]

end Registry

end TaggedRpc
