import Std.Data.String.ToInt
import TaggedRpc.Schema.Names

/-!
# Keys of fields

When all fields have different keys. Keys that are made from numbers are all different, so it is
enough that the names are, and that none of them is made like a key from a number
(`keyFor_injective`).
-/

namespace TaggedRpc

namespace FieldNames

/-- Fields without names have different keys. -/
theorem genericKey_injective : Function.Injective genericKey := by
  intro i j same
  have texts := (String.append_right_inj _).mp same
  rw [Int.toString_eq_repr, Int.toString_eq_repr, Int.repr_inj, Int16.toInt_inj] at texts
  exact texts

/-- A key that is made from a number starts with the same letter as any other one. -/
theorem head?_genericKey (id : Int16) : (genericKey id).toList.head? = some 'f' := by
  rw [genericKey, String.toList_append]
  rfl

/-- No field has a name if there are none. -/
theorem get?_empty (id : Int16) : empty.get? id = none := Std.ExtTreeMap.getElem?_empty

/-- All fields have different keys exactly if their names are different and none is made like the
key of a field without a name. -/
theorem keyFor_injective_iff {names : FieldNames} : Function.Injective names.keyFor ↔
    (∀ {i j name}, names.get? i = some name → names.get? j = some name → i = j) ∧
      ∀ {i name}, names.get? i = some name → ∀ j, names.get? j = none → name ≠ genericKey j := by
  constructor
  · intro injective
    refine ⟨fun {i j name} named named' => injective ?_, fun {i name} named j unnamed same => ?_⟩
    · rw [keyFor, keyFor, named, named', Option.getD_some, Option.getD_some]
    · have clash : names.keyFor i = names.keyFor j := by
        rw [keyFor, keyFor, named, unnamed, Option.getD_some, Option.getD_none, same]
      rw [injective clash, unnamed] at named
      cases named
  · rintro ⟨different, proper⟩ i j same
    unfold keyFor at same
    cases named : names.get? i with
    | none =>
      cases named' : names.get? j with
      | none =>
        rw [named, named'] at same
        exact genericKey_injective same
      | some name' =>
        rw [named, named'] at same
        exact absurd same.symm (proper named' i named)
    | some name =>
      cases named' : names.get? j with
      | none =>
        rw [named, named'] at same
        exact absurd same (proper named j named')
      | some name' =>
        rw [named, named'] at same
        have equal : name = name' := same
        exact different named (equal ▸ named')

/-- All fields have different keys if their names are different and not made like keys from
numbers. -/
theorem keyFor_injective {names : FieldNames}
    (different : ∀ {i j name}, names.get? i = some name → names.get? j = some name → i = j)
    (proper : ∀ {i name}, names.get? i = some name → ∀ j, name ≠ genericKey j) :
    Function.Injective names.keyFor :=
  keyFor_injective_iff.mpr ⟨different, fun named j _ => proper named j⟩

/-- Without names all fields have different keys. -/
theorem keyFor_empty_injective : Function.Injective empty.keyFor := by
  apply keyFor_injective
  · intro i j name named
    rw [get?_empty] at named
    cases named
  · intro i name named
    rw [get?_empty] at named
    cases named

end FieldNames

end TaggedRpc
