import TaggedRpc.Proofs.Decode.Names
import TaggedRpc.Proofs.Decode.Typed
import TaggedRpc.Proofs.Schema.Audits

/-!
# Which descriptors tell fields apart

An audit looks at the numbers of descriptors and not at their names. So descriptors that pass it may
still give two fields one key, and a message then loses one of the two (`decode_twinDescriptors`).
They give all fields different keys exactly if their names are different and none of them is made
like the key of a field without a descriptor (`Descriptor.TellApart`). Under a registry of such
descriptors every struct of a message keeps all the fields that it has without a registry
(`consistent_unambiguous`).
-/

namespace TaggedRpc

/-! ## Structs under other labels -/

/-- The structs in a tree of fields, the fields themselves first. -/
def Fields.structs (fields : Fields) : List Fields :=
  (Value.struct fields).subvalues.filterMap Value.struct?

/-- The numbers of the fields of a struct. -/
def Fields.ids (fields : Fields) : List Int16 := fields.entries.map fun entry => entry.2.id

private theorem Fields.mem_structs {fields inner : Fields} (inside : inner ∈ fields.structs) :
    .struct inner ∈ (Value.struct fields).subvalues := by
  obtain ⟨value, held, same⟩ := List.mem_filterMap.mp inside
  cases value <;> cases same
  exact held

section Labels

variable (labels : Labels)

private theorem Fields.relabelEntries_eq (entries : List (String × Field)) :
    relabelEntries labels entries =
      entries.map fun entry => (labels.key entry.1 entry.2.id, entry.2.relabel labels) := by
  induction entries with
  | nil => rfl
  | cons entry rest ih => rw [relabelEntries, ih, List.map_cons]

private theorem Fields.ids_relabel (fields : Fields) :
    (fields.relabel labels).ids = fields.ids := by
  obtain ⟨entries, incomplete⟩ := fields
  rw [relabel, ids, relabelEntries_eq, List.map_map]
  exact List.map_congr_left fun entry _ => entry.2.id_relabel labels

private theorem Field.value_relabel (field : Field) :
    (field.relabel labels).value = field.value.map (Value.relabel labels) := by
  obtain ⟨tag, id, value, error⟩ := field
  cases value <;> rfl

private theorem Value.children_relabel (value : Value) :
    (value.relabel labels).children = value.children.map (relabel labels) := by
  cases value with
  | struct fields =>
    obtain ⟨entries, incomplete⟩ := fields
    simp only [relabel, Fields.relabel, children, Fields.relabelEntries_eq, List.filterMap_map,
      List.map_filterMap]
    exact List.filterMap_congr fun entry _ => entry.2.value_relabel labels
  | map entries => simp [relabel, children, relabelPairs_eq, List.flatMap_map, List.map_flatMap]
  | set items => rw [relabel, children, relabelItems_eq, children]
  | list items => rw [relabel, children, relabelItems_eq, children]
  | _ => rfl

private theorem Value.subvalues_relabel (value : Value) :
    (value.relabel labels).subvalues = value.subvalues.map (relabel labels) := by
  induction size : value.subvalues.length using Nat.strongRecOn generalizing value with
  | ind size ih =>
    rw [subvalues_eq, subvalues_eq value, children_relabel, List.map_cons, List.flatMap_map,
      List.map_flatMap]
    congr 1
    exact List.flatMap_congr fun child held => ih _ (size ▸ length_subvalues_lt held) child rfl

private theorem Fields.structs_relabel (fields : Fields) :
    (fields.relabel labels).structs = fields.structs.map (relabel labels) := by
  have whole := Value.subvalues_relabel labels (.struct fields)
  rw [Value.relabel] at whole
  rw [structs, whole, structs, List.filterMap_map, List.map_filterMap]
  refine List.filterMap_congr fun value _ => ?_
  cases value <;> rfl

variable {labels}

/-- Trees that are the same under other labels have structs with the same fields. -/
theorem Fields.ids_structs_eq {fields fields' : Fields}
    (same : fields.relabel labels = fields'.relabel labels) :
    fields.structs.map ids = fields'.structs.map ids := by
  have ids (fields : Fields) :
      (fields.relabel labels).structs.map ids = fields.structs.map ids := by
    rw [structs_relabel, List.map_map]
    exact List.map_congr_left fun inner _ => inner.ids_relabel labels
  rw [← ids, same, ids]

end Labels

/-! ## Keys from descriptors -/

/-- Whether descriptors with different numbers tell all fields apart: their names are different, and
none is made like the key of a field without a descriptor. -/
structure Descriptor.TellApart (descriptors : List Descriptor) : Prop where
  different : (descriptors.map Descriptor.name).Nodup
  proper : ∀ descriptor ∈ descriptors, ∀ id, descriptor.name = FieldNames.genericKey id →
    id ∈ Descriptor.ids descriptors

namespace FieldNames

variable {descriptors : List Descriptor}

private theorem exists_of_get?_ofDescriptors {id : Int16} {name : String}
    (named : (ofDescriptors descriptors).get? id = some name) :
    ∃ descriptor ∈ descriptors, descriptor.id = id ∧ descriptor.name = name := by
  rw [get?_ofDescriptors] at named
  obtain ⟨descriptor, last, rfl⟩ := Option.map_eq_some_iff.mp named
  obtain ⟨among, same⟩ := List.mem_filter.mp (List.mem_of_getLast? last)
  exact ⟨descriptor, among, of_decide_eq_true same, rfl⟩

private theorem get?_ofDescriptors_of_mem (different : (Descriptor.ids descriptors).Nodup)
    {descriptor : Descriptor} (among : descriptor ∈ descriptors) :
    (ofDescriptors descriptors).get? descriptor.id = some descriptor.name := by
  have present : descriptor.id ∈ Descriptor.ids descriptors := List.mem_map_of_mem among
  obtain ⟨name, named⟩ := Option.isSome_iff_exists.mp (isSome_get?_ofDescriptors.mpr present)
  obtain ⟨other, among', same, rfl⟩ := exists_of_get?_ofDescriptors named
  rw [named, List.inj_on_of_nodup_map different among' among same]

/-- Descriptors with different numbers give all fields different keys exactly if they tell them
apart. -/
theorem keyFor_ofDescriptors_injective_iff (different : (Descriptor.ids descriptors).Nodup) :
    Function.Injective (ofDescriptors descriptors).keyFor ↔ Descriptor.TellApart descriptors := by
  rw [keyFor_injective_iff]
  constructor
  · rintro ⟨names, generic⟩
    refine ⟨List.Nodup.map_on ?_ different.of_map, fun descriptor among id made => ?_⟩
    · intro descriptor among other among' same
      have named := get?_ofDescriptors_of_mem different among
      have named' := get?_ofDescriptors_of_mem different among'
      rw [same] at named
      exact List.inj_on_of_nodup_map different among among' (names named named')
    · by_contra absent
      have unnamed : (ofDescriptors descriptors).get? id = none := by
        rw [← Option.not_isSome_iff_eq_none, isSome_get?_ofDescriptors]
        exact absent
      exact generic (get?_ofDescriptors_of_mem different among) id unnamed made
  · rintro ⟨names, proper⟩
    refine ⟨fun {i j name} named named' => ?_, fun {i name} named j unnamed made => ?_⟩
    · obtain ⟨descriptor, among, rfl, rfl⟩ := exists_of_get?_ofDescriptors named
      obtain ⟨other, among', rfl, same⟩ := exists_of_get?_ofDescriptors named'
      rw [List.inj_on_of_nodup_map names among among' same.symm]
    · obtain ⟨descriptor, among, rfl, rfl⟩ := exists_of_get?_ofDescriptors named
      have present := isSome_get?_ofDescriptors.mpr (proper descriptor among j made)
      rw [unnamed] at present
      cases present

end FieldNames

private theorem Registry.mem_audits {registry : Registry} {structName : String}
    {descriptors : List Descriptor} (found : registry.lookup? structName = some descriptors) :
    Audit.ofDescriptors structName descriptors ∈ registry.audits :=
  List.mem_map.mpr ⟨(structName, descriptors),
    Std.ExtTreeMap.mem_toList_iff_getElem?_eq_some.mpr found, rfl⟩

private theorem Registry.lookup?_of_bodyDescriptors? {registry : Registry} {method : String}
    {kind : Kind} {structName : String} {descriptors : List Descriptor}
    (found : registry.bodyDescriptors? method kind = some (structName, descriptors)) :
    registry.lookup? structName = some descriptors := by
  obtain ⟨_, _, found⟩ := Option.bind_eq_some_iff.mp found
  obtain ⟨_, held, found⟩ := Option.bind_eq_some_iff.mp found
  split at found
  · cases found
  · cases found
    exact held

/-- All fields of a message have different keys if all descriptors of a registry are consistent and
tell them apart. -/
theorem Decoder.namesOf_injective {registry : Registry} (envelope : Envelope)
    (consistent : ∀ audit ∈ registry.audits, audit.isConsistent = true)
    (apart : ∀ structName descriptors, registry.lookup? structName = some descriptors →
      Descriptor.TellApart descriptors) :
    Function.Injective (namesOf (some registry) envelope).keyFor := by
  rw [namesOf, FieldNames.resolve]
  dsimp only
  cases found : registry.bodyDescriptors? envelope.method envelope.kind with
  | none => exact FieldNames.keyFor_empty_injective
  | some body =>
    obtain ⟨structName, descriptors⟩ := body
    have held := Registry.lookup?_of_bodyDescriptors? found
    exact (FieldNames.keyFor_ofDescriptors_injective_iff (Audit.isConsistent_iff_nodup.mp
      (consistent _ (Registry.mem_audits held)))).mpr (apart structName descriptors held)

/-- Every field has one place in its struct, in every struct of a message. -/
theorem Decoder.nodup_ids_body {buf : ByteArray} (limits : Limits) (registry : Option Registry)
    (envelope : Envelope) (c : Cursor buf) :
    ∀ fields ∈ (body limits registry envelope c).1.structs, fields.ids.Nodup := by
  have keeps : (Value.struct (body limits registry envelope c).1).Keeps
      (namesOf registry envelope).typing 0 Tag.struct.toByte :=
    .struct rfl (typed_readFields (typed_values limits _ _ limits.maxDepth) _)
  intro fields inside
  obtain ⟨level, tag, inner⟩ := keeps.of_mem_subvalues (Fields.mem_structs inside)
  cases inner with
  | single own single => cases single
  | struct own inner =>
    cases inner with
    | mk typed =>
      have keys : fields.keys = fields.ids.map (namesOf registry envelope).keyFor := by
        rw [Fields.keys, Fields.ids, List.map_map]
        exact List.map_congr_left typed.key_eq
      exact (keys ▸ typed.nodup).of_map

/-- Consistent descriptors give all fields different keys exactly if they tell them apart. Under a
registry with nothing but such descriptors a message is not decoded for the same reason as without
one, or every struct of it has the same fields in the same order, each of them once, and the two
trees are the same when keys are made from the numbers of fields. -/
theorem consistent_unambiguous :
    (∀ structName descriptors, (Audit.ofDescriptors structName descriptors).isConsistent = true →
      (Function.Injective (FieldNames.ofDescriptors descriptors).keyFor ↔
        Descriptor.TellApart descriptors)) ∧
    ∀ (limits : Limits) (registry : Registry) (buf : ByteArray),
      (∀ audit ∈ registry.audits, audit.isConsistent = true) →
      (∀ structName descriptors, registry.lookup? structName = some descriptors →
        Descriptor.TellApart descriptors) →
      (∀ error, decode limits (some registry) buf = .error error ↔
        decode limits none buf = .error error) ∧
      ∀ message plain, decode limits (some registry) buf = .ok message →
        decode limits none buf = .ok plain →
          message.fields.structs.map Fields.ids = plain.fields.structs.map Fields.ids ∧
          (∀ fields ∈ message.fields.structs, fields.ids.Nodup) ∧
          ∀ key, message.fields.rekeyed key = plain.fields.rekeyed key := by
  constructor
  · intro structName descriptors consistent
    exact FieldNames.keyFor_ofDescriptors_injective_iff
      (Audit.isConsistent_iff_nodup.mp consistent)
  · intro limits registry buf consistent apart
    refine ⟨fun error => decode_eq_error_iff.trans decode_eq_error_iff.symm, ?_⟩
    intro message plain decoded decoded'
    obtain ⟨envelope, c, header, rfl⟩ := decode_eq_ok_iff.mp decoded
    obtain ⟨envelope', c', header', rfl⟩ := decode_eq_ok_iff.mp decoded'
    rw [header] at header'
    cases header'
    have same := (Decoder.renamed limits (some registry) none envelope c).fields
      (Decoder.namesOf_injective envelope consistent apart) FieldNames.keyFor_empty_injective
    exact ⟨Fields.ids_structs_eq (same FieldNames.genericKey),
      Decoder.nodup_ids_body limits (some registry) envelope c, same⟩

/-- A registry with descriptors for the arguments of one method. -/
def closeSessionRegistry (descriptors : List Descriptor) : Registry :=
  .ofList [("TCloseSessionReq", descriptors)]

private theorem lookup?_closeSessionRegistry (descriptors : List Descriptor) (structName : String) :
    (closeSessionRegistry descriptors).lookup? structName =
      if "TCloseSessionReq" = structName then some descriptors else none := by
  refine (Registry.lookup?_insert .empty "TCloseSessionReq" structName descriptors).trans ?_
  rw [Registry.lookup?, Registry.empty, Std.ExtTreeMap.getElem?_empty]

/-- A call of the method with two fields. -/
def twoFieldsCall : ByteArray :=
  ⟨#[0x80, 1, 0, 1, 0, 0, 0, 12, 67, 108, 111, 115, 101, 83, 101, 115, 115, 105, 111, 110,
    0, 0, 0, 7, 2, 0, 1, 1, 2, 0, 2, 0, 0]⟩

/-- Descriptors of which the first one has a name that is made like the key of the second field. -/
def crossedDescriptors : List Descriptor :=
  [⟨1, Tag.bool.toByte, "field_2"⟩, ⟨2, Tag.bool.toByte, "expired"⟩]

private theorem tellApart_crossedDescriptors : Descriptor.TellApart crossedDescriptors where
  different := by decide +kernel
  proper := by
    have second : "field_2" = FieldNames.genericKey 2 := by decide +kernel
    simp only [crossedDescriptors, List.forall_mem_cons]
    refine ⟨fun id made => ?_, fun id made => ?_, nofun⟩
    · rw [← FieldNames.genericKey_injective (second.symm.trans made)]
      decide
    · have first := FieldNames.head?_genericKey id
      rw [← made] at first
      cases first

/-- These descriptors give all fields different keys, and under them the call keeps both fields. -/
theorem decode_crossedDescriptors :
    Function.Injective (FieldNames.ofDescriptors crossedDescriptors).keyFor ∧
    ∃ message plain, decode {} (some (closeSessionRegistry crossedDescriptors)) twoFieldsCall =
        .ok message ∧
      decode {} none twoFieldsCall = .ok plain ∧ message.fields.keys = ["field_2", "expired"] ∧
      plain.fields.keys = ["field_1", "field_2"] ∧
      message.fields.structs.map Fields.ids = plain.fields.structs.map Fields.ids := by
  have run : (decode {} (some (closeSessionRegistry crossedDescriptors)) twoFieldsCall).toOption.map
      (fun message => message.fields.keys) = some ["field_2", "expired"] := by
    decide +kernel
  have run' : (decode {} none twoFieldsCall).toOption.map (fun message => message.fields.keys) =
      some ["field_1", "field_2"] := by
    decide +kernel
  obtain ⟨message, decoded, keys⟩ := decode_of_seen run
  obtain ⟨plain, decoded', keys'⟩ := decode_of_seen run'
  have kept := consistent_unambiguous.2 {} (closeSessionRegistry crossedDescriptors) twoFieldsCall
    (by decide +kernel) fun structName descriptors found => by
      rw [lookup?_closeSessionRegistry, Option.ite_none_right_eq_some] at found
      rw [← Option.some.inj found.2]
      exact tellApart_crossedDescriptors
  have injective := (consistent_unambiguous.1 "TCloseSessionReq" crossedDescriptors
    (by decide +kernel)).mpr tellApart_crossedDescriptors
  exact ⟨injective, message, plain, decoded, decoded', keys, keys',
    (kept.2 message plain decoded decoded').1⟩

/-- Two descriptors with one name. -/
def twinDescriptors : List Descriptor :=
  [⟨1, Tag.bool.toByte, "flag"⟩, ⟨2, Tag.bool.toByte, "flag"⟩]

/-- An audit finds nothing wrong with two descriptors with one name. But they give their fields one
key, and of the two fields of a call one is lost. -/
theorem decode_twinDescriptors :
    (Audit.ofDescriptors "TCloseSessionReq" twinDescriptors).isConsistent = true ∧
      ¬ Function.Injective (FieldNames.ofDescriptors twinDescriptors).keyFor ∧
      (∀ audit ∈ (closeSessionRegistry twinDescriptors).audits, audit.isConsistent = true) ∧
      (decode {} (some (closeSessionRegistry twinDescriptors)) twoFieldsCall).toOption.map
        (fun message => message.fields.ids) = some [2] ∧
      (decode {} none twoFieldsCall).toOption.map (fun message => message.fields.ids) =
        some [1, 2] := by
  refine ⟨by decide +kernel, fun injective => ?_, by decide +kernel, by decide +kernel,
    by decide +kernel⟩
  have clash : (FieldNames.ofDescriptors twinDescriptors).keyFor 1 =
      (FieldNames.ofDescriptors twinDescriptors).keyFor 2 := by
    decide +kernel
  cases injective clash

end TaggedRpc
