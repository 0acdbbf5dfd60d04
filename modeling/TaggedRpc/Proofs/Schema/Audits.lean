import TaggedRpc.Proofs.Schema.Insertions
import TaggedRpc.Proofs.Schema.Keys
import TaggedRpc.Schema.Audit
import TaggedRpc.Wire.Tag

/-!
# What an audit says about names

An audit counts how many descriptors have each number (`getElem?_idCounts`), and names go by the
last descriptor of each number (`get?_ofDescriptors`). So they agree about descriptors in any number
and order (`Audit.faithful`): all descriptors give a name exactly if no number is given twice, and
then their order makes no difference.
-/

namespace TaggedRpc

/-- The numbers of descriptors. -/
def Descriptor.ids (descriptors : List Descriptor) : List Int16 := descriptors.map Descriptor.id

namespace Audit

private theorem idCounts_concat (descriptors : List Descriptor) (last : Descriptor) :
    idCounts (descriptors ++ [last]) =
      (idCounts descriptors).insert last.id ((idCounts descriptors).getD last.id 0 + 1) := by
  rw [idCounts, List.foldl_append]
  rfl

/-- A number counts as often as it is given, and not at all if it is not given. -/
theorem getElem?_idCounts (descriptors : List Descriptor) (id : Int16) :
    (idCounts descriptors)[id]? =
      if (Descriptor.ids descriptors).count id = 0 then none
      else some ((Descriptor.ids descriptors).count id) := by
  induction descriptors using List.reverseRecOn generalizing id with
  | nil => exact Std.ExtTreeMap.getElem?_empty
  | append_singleton rest last ih =>
    have counted : (Descriptor.ids (rest ++ [last])).count id =
        (Descriptor.ids rest).count id + if last.id = id then 1 else 0 := by
      rw [Descriptor.ids, Descriptor.ids, List.map_append, List.count_append, List.map_singleton,
        List.count_singleton]
      simp only [beq_iff_eq]
    rw [idCounts_concat, Std.ExtTreeMap.getElem?_insert, counted]
    simp only [Std.LawfulEqOrd.compare_eq_iff_eq]
    split
    · next same =>
      subst same
      rw [Std.ExtTreeMap.getD_eq_getD_getElem?, ih]
      split
      · next absent =>
        rw [absent]
        rfl
      · rfl
    · rw [ih, Nat.add_zero]

private theorem mem_idCounts {descriptors : List Descriptor} {id : Int16} :
    id ∈ idCounts descriptors ↔ id ∈ Descriptor.ids descriptors := by
  rw [← Std.ExtTreeMap.isSome_getElem?_iff_mem, getElem?_idCounts, ← List.count_pos_iff]
  split
  · next absent => simp [absent]
  · next present => simp [Nat.pos_of_ne_zero present]

private theorem idCounts_eq_of_perm {descriptors others : List Descriptor}
    (perm : descriptors.Perm others) : idCounts descriptors = idCounts others := by
  refine Std.ExtTreeMap.ext_getElem? fun id => ?_
  rw [getElem?_idCounts, getElem?_idCounts, Descriptor.ids, Descriptor.ids,
    (perm.map Descriptor.id).count_eq]

variable {structName : String} {descriptors : List Descriptor}

private theorem pairwise_keys : (idCounts descriptors).keys.Pairwise (· < ·) :=
  Std.ExtTreeMap.ordered_keys.imp Std.compare_eq_lt.mp

/-- An audit lists the numbers that are given more than once. -/
theorem mem_duplicateIds {id : Int16} :
    id ∈ (ofDescriptors structName descriptors).duplicateIds ↔
      2 ≤ (Descriptor.ids descriptors).count id := by
  simp only [ofDescriptors, List.mem_map, List.mem_filter, decide_eq_true_eq, Prod.exists,
    exists_and_right, exists_eq_right, Std.ExtTreeMap.mem_toList_iff_getElem?_eq_some,
    getElem?_idCounts]
  constructor
  · rintro ⟨count, counted, several⟩
    split at counted
    · cases counted
    · cases counted
      exact several
  · intro several
    exact ⟨_, if_neg (by omega), several⟩

/-- The numbers that are given more than once are listed ascending. -/
theorem pairwise_duplicateIds :
    (ofDescriptors structName descriptors).duplicateIds.Pairwise (· < ·) := by
  have ascending : (idCounts descriptors).keys.Pairwise (· < ·) := pairwise_keys
  rw [← Std.ExtTreeMap.map_fst_toList_eq_keys] at ascending
  exact ascending.sublist (List.filter_sublist.map Prod.fst)

/-- An audit lists the numbers of vendor extensions that are given. -/
theorem mem_extensionIds {id : Int16} :
    id ∈ (ofDescriptors structName descriptors).extensionIds ↔
      id ∈ Descriptor.ids descriptors ∧ firstExtensionId ≤ id := by
  rw [ofDescriptors, List.mem_filter, Std.ExtTreeMap.mem_keys, mem_idCounts, decide_eq_true_iff]

/-- The numbers of vendor extensions are listed ascending. -/
theorem pairwise_extensionIds :
    (ofDescriptors structName descriptors).extensionIds.Pairwise (· < ·) :=
  pairwise_keys.sublist List.filter_sublist

/-- Descriptors are consistent if all their numbers are different. -/
theorem isConsistent_iff_nodup : (ofDescriptors structName descriptors).isConsistent = true ↔
    (Descriptor.ids descriptors).Nodup := by
  rw [isConsistent, List.isEmpty_iff, List.eq_nil_iff_forall_not_mem, List.nodup_iff_count_le_one]
  refine forall_congr' fun id => ?_
  rw [mem_duplicateIds]
  omega

/-- Descriptors in another order have the same audit. -/
theorem ofDescriptors_eq_of_perm {others : List Descriptor} (perm : descriptors.Perm others) :
    ofDescriptors structName descriptors = ofDescriptors structName others := by
  rw [ofDescriptors, ofDescriptors, idCounts_eq_of_perm perm, perm.length_eq]

end Audit

namespace FieldNames

/-- The name of a field is that of its last descriptor, if it has any. -/
theorem get?_ofDescriptors (descriptors : List Descriptor) (id : Int16) :
    (ofDescriptors descriptors).get? id =
      (descriptors.filter (·.id = id)).getLast?.map Descriptor.name :=
  lookup_foldl_insert get?_insert get?_empty descriptors id

/-- A field has a name if it has a descriptor. -/
theorem isSome_get?_ofDescriptors {descriptors : List Descriptor} {id : Int16} :
    ((ofDescriptors descriptors).get? id).isSome ↔ id ∈ Descriptor.ids descriptors :=
  isSome_lookup_foldl_insert get?_insert get?_empty

/-- There are as many names as different numbers. -/
theorem size_ofDescriptors (descriptors : List Descriptor) :
    (ofDescriptors descriptors).size = (Descriptor.ids descriptors).dedup.length :=
  size_eq_length_dedup fun _ => isSome_get?_ofDescriptors

/-- Descriptors with different numbers give the same names in another order. -/
theorem ofDescriptors_eq_of_perm {descriptors others : List Descriptor}
    (different : (Descriptor.ids descriptors).Nodup) (perm : descriptors.Perm others) :
    ofDescriptors descriptors = ofDescriptors others := by
  refine ext fun id => ?_
  rw [get?_ofDescriptors, get?_ofDescriptors]
  have single : (descriptors.filter (·.id = id)).length ≤ 1 := by
    rw [← List.countP_eq_length_filter]
    have count := List.nodup_iff_count_le_one.mp different id
    rwa [Descriptor.ids, List.count, List.countP_map] at count
  have same : descriptors.filter (·.id = id) = others.filter (·.id = id) := by
    have perm := perm.filter (·.id = id)
    generalize descriptors.filter (·.id = id) = found at single perm
    match found with
    | [] => exact perm.nil_eq
    | [descriptor] => exact List.singleton_perm.mp perm
  rw [same]

end FieldNames

/-- What an audit says about descriptors, and what the names that they give have to do with it. -/
structure Audit.Faithful (structName : String) (descriptors : List Descriptor) : Prop where
  duplicateIds_ascending : (ofDescriptors structName descriptors).duplicateIds.Pairwise (· < ·)
  mem_duplicateIds_iff : ∀ id, id ∈ (ofDescriptors structName descriptors).duplicateIds ↔
    2 ≤ (Descriptor.ids descriptors).count id
  extensionIds_ascending : (ofDescriptors structName descriptors).extensionIds.Pairwise (· < ·)
  mem_extensionIds_iff : ∀ id, id ∈ (ofDescriptors structName descriptors).extensionIds ↔
    id ∈ Descriptor.ids descriptors ∧ 0x501 ≤ id
  permuted : ∀ others, descriptors.Perm others →
    ofDescriptors structName descriptors = ofDescriptors structName others
  get?_eq : ∀ id, (FieldNames.ofDescriptors descriptors).get? id =
    (descriptors.filter (·.id = id)).getLast?.map Descriptor.name
  size_eq : (FieldNames.ofDescriptors descriptors).size =
    (Descriptor.ids descriptors).dedup.length
  isConsistent_iff : (ofDescriptors structName descriptors).isConsistent = true ↔
    (FieldNames.ofDescriptors descriptors).size = (ofDescriptors structName descriptors).fieldCount
  names_permuted : (ofDescriptors structName descriptors).isConsistent = true →
    ∀ others, descriptors.Perm others →
      FieldNames.ofDescriptors descriptors = FieldNames.ofDescriptors others

/-- An audit lists in order what numbers are given more than once and which are those of vendor
extensions, in whatever order the descriptors come. The last descriptor of each number names its
field. All of them give a name exactly if the audit finds no number twice, and then in any order the
same ones. -/
theorem Audit.faithful (structName : String) (descriptors : List Descriptor) :
    Faithful structName descriptors where
  duplicateIds_ascending := pairwise_duplicateIds
  mem_duplicateIds_iff _ := mem_duplicateIds
  extensionIds_ascending := pairwise_extensionIds
  mem_extensionIds_iff _ := mem_extensionIds
  permuted _ := ofDescriptors_eq_of_perm
  get?_eq := FieldNames.get?_ofDescriptors descriptors
  size_eq := FieldNames.size_ofDescriptors descriptors
  isConsistent_iff := by
    rw [isConsistent_iff_nodup, FieldNames.size_ofDescriptors, ← List.dedup_eq_self]
    have kept : (ofDescriptors structName descriptors).fieldCount =
        (Descriptor.ids descriptors).length := (List.length_map _).symm
    rw [kept]
    exact ⟨congrArg List.length, (List.dedup_sublist _).eq_of_length⟩
  names_permuted consistent _ := FieldNames.ofDescriptors_eq_of_perm
    (isConsistent_iff_nodup.mp consistent)

/-- Descriptors of the arguments of a request for results. -/
def fetchDescriptors : List Descriptor :=
  [⟨1, Tag.struct.toByte, "operationHandle"⟩, ⟨2, Tag.i32.toByte, "orientation"⟩,
    ⟨3, Tag.i64.toByte, "maxRows"⟩]

/-- These descriptors are consistent, so all of them give a name, and backwards the same ones. -/
theorem Audit.faithful_fetchDescriptors :
    (ofDescriptors "TFetchResultsReq" fetchDescriptors).isConsistent = true ∧
      (FieldNames.ofDescriptors fetchDescriptors).size = 3 ∧
      FieldNames.ofDescriptors fetchDescriptors =
        FieldNames.ofDescriptors fetchDescriptors.reverse := by
  have consistent : (ofDescriptors "TFetchResultsReq" fetchDescriptors).isConsistent = true := by
    decide +kernel
  have faithful := faithful "TFetchResultsReq" fetchDescriptors
  exact ⟨consistent, faithful.isConsistent_iff.mp consistent,
    faithful.names_permuted consistent _ (List.reverse_perm _).symm⟩

end TaggedRpc
