import TaggedRpc.Proofs.Tree.Subvalues

/-!
# Rules for trees

Rules say what must hold of the values and of the structs of a tree, at every level of nesting.
Values at a level are looked at under a tag byte, since what is right for a value depends on the tag
that it was read under. The tag of the value of a field is in the tree. All items of a set or a list
share one tag, all keys of a map share another one, and so do all its values; these tags are not in
the tree, so there must be some that meet the rules (`Value.Keeps`). What keeps rules does so in all
its parts (`Value.Keeps.of_mem_subvalues`).
-/

namespace TaggedRpc

/-- Whether other values may be inside a value. -/
def Value.isCompound : Value → Bool
  | .struct _ | .map _ | .set _ | .list _ => true
  | _ => false

/-- No values are inside a leaf. -/
theorem Value.isCompound_of_isLeaf {value : Value} (leaf : value.isLeaf) :
    value.isCompound = false := by
  cases value <;> first | rfl | cases leaf

/-- What must hold in a tree. -/
structure Rules where
  /-- What must hold of a value at a level under a tag byte. -/
  value : Nat → UInt8 → Value → Prop
  /-- What must hold of the fields of a struct, where the values of the fields are at a level. -/
  fields : Nat → Fields → Prop

mutual

/-- A value at a level under a tag byte that keeps rules, and so does everything inside it. -/
inductive Value.Keeps (rules : Rules) : Nat → UInt8 → Value → Prop where
  | single {level : Nat} {tag : UInt8} {value : Value} (own : rules.value level tag value)
    (single : value.isCompound = false) : Value.Keeps rules level tag value
  | struct {level : Nat} {tag : UInt8} {fields : Fields}
    (own : rules.value level tag (.struct fields)) (inner : Fields.Keeps rules (level + 1) fields) :
    Value.Keeps rules level tag (.struct fields)
  | map {level : Nat} {tag : UInt8} {entries : List (Value × Value)}
    (own : rules.value level tag (.map entries)) (keyTag valueTag : UInt8)
    (keys : ∀ entry ∈ entries, Value.Keeps rules (level + 1) keyTag entry.1)
    (values : ∀ entry ∈ entries, Value.Keeps rules (level + 1) valueTag entry.2) :
    Value.Keeps rules level tag (.map entries)
  | set {level : Nat} {tag : UInt8} {items : List Value} (own : rules.value level tag (.set items))
    (itemTag : UInt8) (inner : ∀ item ∈ items, Value.Keeps rules (level + 1) itemTag item) :
    Value.Keeps rules level tag (.set items)
  | list {level : Nat} {tag : UInt8} {items : List Value}
    (own : rules.value level tag (.list items)) (itemTag : UInt8)
    (inner : ∀ item ∈ items, Value.Keeps rules (level + 1) itemTag item) :
    Value.Keeps rules level tag (.list items)

/-- The fields of a struct that keep rules, where the values of the fields are at a level, and so
does everything inside them. -/
inductive Fields.Keeps (rules : Rules) : Nat → Fields → Prop where
  | mk {level : Nat} {fields : Fields} (own : rules.fields level fields)
    (inner : ∀ entry ∈ fields.entries, ∀ value, entry.2.value = some value →
      Value.Keeps rules level entry.2.tag value) : Fields.Keeps rules level fields

end

/-- A value that keeps rules meets them itself. -/
theorem Value.Keeps.own {rules : Rules} {level : Nat} {tag : UInt8} {value : Value}
    (keeps : value.Keeps rules level tag) : rules.value level tag value := by
  cases keeps <;> assumption

namespace Value

variable {rules : Rules} {level : Nat} {tag : UInt8} {value : Value}

private theorem children_of_single (single : value.isCompound = false) : value.children = [] := by
  cases value <;> first | rfl | cases single

/-- A value right inside one that keeps rules keeps them under some tag byte. -/
theorem Keeps.child {child : Value} (keeps : value.Keeps rules level tag)
    (held : child ∈ value.children) : ∃ tag, child.Keeps rules (level + 1) tag := by
  cases keeps with
  | single own single =>
    rw [children_of_single single] at held
    cases held
  | struct own fields =>
    cases fields with
    | mk own inner =>
      obtain ⟨entry, among, same⟩ := List.mem_filterMap.mp held
      exact ⟨entry.2.tag, inner entry among child same⟩
  | map own keyTag valueTag keys values =>
    obtain ⟨entry, among, side⟩ := List.mem_flatMap.mp held
    rcases List.mem_cons.mp side with rfl | last
    · exact ⟨keyTag, keys entry among⟩
    · rw [List.mem_singleton.mp last]
      exact ⟨valueTag, values entry among⟩
  | set own itemTag inner => exact ⟨itemTag, inner child held⟩
  | list own itemTag inner => exact ⟨itemTag, inner child held⟩

/-- Every value inside one that keeps rules keeps them, at some level under some tag byte. -/
theorem Keeps.of_mem_subvalues {inner : Value} (keeps : value.Keeps rules level tag)
    (held : inner ∈ value.subvalues) : ∃ level tag, inner.Keeps rules level tag := by
  induction size : value.subvalues.length using Nat.strongRecOn generalizing value level tag with
  | ind size ih =>
    rcases mem_subvalues_iff.mp held with rfl | ⟨child, among, inside⟩
    · exact ⟨level, tag, keeps⟩
    · obtain ⟨_, keeps⟩ := keeps.child among
      exact ih _ (size ▸ length_subvalues_lt among) keeps inside rfl

end Value

end TaggedRpc
