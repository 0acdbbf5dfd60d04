import TaggedRpc.Proofs.Tree.Insertions
import TaggedRpc.Proofs.Tree.Subvalues

/-!
# Agreement of decoded values

Two trees that show the same values wherever both show one. A value may be hidden on either side by
a placeholder that says that a limit was reached, and a field may have failed on either side. What
is not hidden has the same shape and the same leaves, bit by bit; even around what is hidden the
keys, the tags and the numbers of fields and the lengths of collections are the same. So two trees
that agree are equal if nothing in either of them is hidden or has failed (`eq_of_isShown`).
-/

namespace TaggedRpc

/-- Whether a placeholder stands for a value that a limit has hidden. -/
def Placeholder.isHidden : Placeholder → Bool
  | oversizedCollection .. | elementBudgetExhausted .. | depthExceeded => true
  | void | unknownType _ => false

/-- Whether a limit has hidden a value. -/
def Value.isHidden : Value → Bool
  | placeholder value => value.isHidden
  | _ => false

mutual

/-- Two values that are the same, except where a limit has hidden one of them. -/
inductive Value.Agrees : Value → Value → Prop where
  | refl (value : Value) : Value.Agrees value value
  | hidden {a b : Value} (hides : a.isHidden ∨ b.isHidden) : Value.Agrees a b
  | struct {a b : Fields} (fields : Fields.Agrees a b) : Value.Agrees (.struct a) (.struct b)
  | map {as bs : List (Value × Value)} (entries : List.Forall₂ Value.PairAgrees as bs) :
    Value.Agrees (.map as) (.map bs)
  | set {as bs : List Value} (items : List.Forall₂ Value.Agrees as bs) :
    Value.Agrees (.set as) (.set bs)
  | list {as bs : List Value} (items : List.Forall₂ Value.Agrees as bs) :
    Value.Agrees (.list as) (.list bs)

/-- Two map entries whose keys and whose values agree. -/
inductive Value.PairAgrees : Value × Value → Value × Value → Prop where
  | mk {k l v w : Value} (key : Value.Agrees k l) (value : Value.Agrees v w) :
    Value.PairAgrees (k, v) (l, w)

/-- Two fields with the same tag and number, whose values agree unless one has failed. -/
inductive Field.Agrees : Field → Field → Prop where
  | failed {a b : Field} (tag : a.tag = b.tag) (id : a.id = b.id)
    (fails : a.isOk = false ∨ b.isOk = false) : Field.Agrees a b
  | decoded {tag : UInt8} {id : Int16} {a b : Value} (value : Value.Agrees a b) :
    Field.Agrees (.decoded tag id a) (.decoded tag id b)

/-- Two fields under the same key that agree. -/
inductive Fields.EntryAgrees : String × Field → String × Field → Prop where
  | mk {key : String} {a b : Field} (field : Field.Agrees a b) :
    Fields.EntryAgrees (key, a) (key, b)

/-- The fields of two structs that agree one by one, where neither struct ends earlier. -/
inductive Fields.Agrees : Fields → Fields → Prop where
  | mk {as bs : List (String × Field)} {incomplete : Option String}
    (entries : List.Forall₂ Fields.EntryAgrees as bs) :
    Fields.Agrees ⟨as, incomplete⟩ ⟨bs, incomplete⟩

end

namespace Value

/-- Whether no limit has hidden anything in a value, and no field in it has failed. -/
def IsShown (value : Value) : Prop :=
  ∀ inner ∈ value.subvalues, inner.isHidden = false ∧
    ∀ fields, inner = .struct fields → ∀ entry ∈ fields.entries, entry.2.isOk

variable {a b : Value}

/-- Nothing is hidden in the children of a value in which nothing is hidden. -/
theorem IsShown.child (shown : a.IsShown) {child : Value} (held : child ∈ a.children) :
    child.IsShown :=
  fun inner within => shown inner (mem_subvalues_iff.mpr (.inr ⟨child, held, within⟩))

private theorem eq_of_forall₂ {α : Type} {related : α → α → Prop} {as bs : List α}
    (each : List.Forall₂ related as bs) (same : ∀ a ∈ as, ∀ b ∈ bs, related a b → a = b) :
    as = bs := by
  obtain ⟨length, pairs⟩ := List.forall₂_iff_zip.mp each
  rw [← List.forall₂_eq_eq_eq]
  apply List.forall₂_iff_zip.mpr
  refine ⟨length, fun among => ?_⟩
  obtain ⟨left, right⟩ := List.of_mem_zip among
  exact same _ left _ right (pairs among)

/-- Values that agree are the same if nothing in either of them is hidden. -/
theorem Agrees.eq_of_isShown (agrees : a.Agrees b) (shown : a.IsShown) (shown' : b.IsShown) :
    a = b := by
  induction size : a.subvalues.length using Nat.strongRecOn generalizing a b with
  | ind size ih =>
    subst size
    have child (c : Value) (held : c ∈ a.children) (d : Value) (held' : d ∈ b.children)
        (agrees : c.Agrees d) : c = d :=
      ih _ (length_subvalues_lt held) agrees (shown.child held) (shown'.child held') rfl
    have own := shown a a.self_mem_subvalues
    have own' := shown' b b.self_mem_subvalues
    cases agrees with
    | refl => rfl
    | hidden hides =>
      rw [own.1, own'.1] at hides
      cases hides <;> contradiction
    | set items => rw [eq_of_forall₂ items child]
    | list items => rw [eq_of_forall₂ items child]
    | map entries =>
      congr 1
      apply eq_of_forall₂ entries
      intro entry held entry' held' agree
      cases agree with
      | @mk k l v w key value =>
        have sameKey : k = l := child k (key_mem_children held) l (key_mem_children held') key
        have sameValue : v = w :=
          child v (value_mem_children held) w (value_mem_children held') value
        rw [sameKey, sameValue]
    | struct fields =>
      cases fields with
      | mk entries =>
        congr 2
        apply eq_of_forall₂ entries
        intro entry held entry' held' agree
        cases agree with
        | mk field =>
          cases field with
          | failed _ _ fails =>
            rw [own.2 _ rfl _ held, own'.2 _ rfl _ held'] at fails
            cases fails <;> contradiction
          | @decoded tag id c d value =>
            have same : c = d :=
              child c (mem_children_of_field held rfl) d (mem_children_of_field held' rfl) value
            rw [same]

end Value

namespace Fields

/-- Fields that agree are the same if nothing in either of them is hidden. -/
theorem Agrees.eq_of_isShown {fields fields' : Fields} (agrees : fields.Agrees fields')
    (shown : (Value.struct fields).IsShown) (shown' : (Value.struct fields').IsShown) :
    fields = fields' := by
  have same : Value.struct fields = .struct fields' :=
    (Value.Agrees.struct agrees).eq_of_isShown shown shown'
  injection same

/-- Building fields from insertions that agree gives entries that agree. -/
theorem ofList_agrees {as bs : List (String × Field)}
    (insertions : List.Forall₂ EntryAgrees as bs) :
    List.Forall₂ EntryAgrees (ofList as).entries (ofList bs).entries := by
  refine forall₂_ofList (fun first second => ?_) insertions
  cases first
  cases second
  exact Iff.rfl

end Fields

end TaggedRpc
