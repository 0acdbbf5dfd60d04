import TaggedRpc.Decode.Limits
import TaggedRpc.Encode.Payload
import TaggedRpc.Proofs.Encode.Reads

/-!
# Extent of payloads

How high payloads are and how many entries they have, and when payloads respect the limits of
decoding (`Payload.Respects`). A limit looks at each payload inside others by itself (`Fits`), at
the entries of all collections together, and at the height.
-/

namespace TaggedRpc

namespace Payload

mutual

/-- A payload and all payloads inside it. -/
def nodes : Payload → List Payload
  | .struct fields => .struct fields :: nodesFields fields
  | .map keyTag valueTag entries => .map keyTag valueTag entries :: nodesEntries entries
  | .set tag items => .set tag items :: nodesItems items
  | .list tag items => .list tag items :: nodesItems items
  | payload => [payload]

/-- All payloads inside fields. -/
def nodesFields : List (Int16 × Payload) → List Payload
  | [] => []
  | (_, value) :: rest => value.nodes ++ nodesFields rest

/-- All payloads inside map entries. -/
def nodesEntries : List (Payload × Payload) → List Payload
  | [] => []
  | (key, value) :: rest => key.nodes ++ value.nodes ++ nodesEntries rest

/-- All payloads inside items. -/
def nodesItems : List Payload → List Payload
  | [] => []
  | item :: rest => item.nodes ++ nodesItems rest

end

mutual

/-- The levels of nesting that a payload needs. A struct needs one for its fields, even if it has
none. -/
def height : Payload → Nat
  | .struct fields => max 2 (1 + heightFields fields)
  | .map _ _ entries => 1 + heightEntries entries
  | .set _ items => 1 + heightItems items
  | .list _ items => 1 + heightItems items
  | _ => 1

/-- The levels of nesting that the values of fields need. -/
def heightFields : List (Int16 × Payload) → Nat
  | [] => 0
  | (_, value) :: rest => max value.height (heightFields rest)

/-- The levels of nesting that map entries need. -/
def heightEntries : List (Payload × Payload) → Nat
  | [] => 0
  | (key, value) :: rest => max (max key.height value.height) (heightEntries rest)

/-- The levels of nesting that items need. -/
def heightItems : List Payload → Nat
  | [] => 0
  | item :: rest => max item.height (heightItems rest)

end

/-- The number of entries that a payload has itself. -/
def entryCount : Payload → Nat
  | .map _ _ entries => entries.length
  | .set _ items | .list _ items => items.length
  | _ => 0

/-- The number of entries that some payloads have together. -/
def entryTotal : List Payload → Nat
  | [] => 0
  | payload :: rest => payload.entryCount + entryTotal rest

/-- Whether a payload itself is within the limits of decoding, and the tags that it declares are
those of what it holds. -/
def Fits (limits : Limits) : Payload → Prop
  | .text content => content.utf8ByteSize ≤ Read.stringCeiling
  | .map keyTag valueTag entries =>
    entries.length ≤ limits.maxCollectionSize ∧ entries.length ≤ Read.countCeiling ∧
      ∀ entry ∈ entries, entry.1.tag = keyTag ∧ entry.2.tag = valueTag
  | .set tag items | .list tag items =>
    items.length ≤ limits.maxCollectionSize ∧ items.length ≤ Read.countCeiling ∧
      ∀ item ∈ items, item.tag = tag
  | _ => True

instance (limits : Limits) (payload : Payload) : Decidable (payload.Fits limits) :=
  match payload with
  | .text content => inferInstanceAs (Decidable (content.utf8ByteSize ≤ Read.stringCeiling))
  | .map keyTag valueTag entries =>
    inferInstanceAs (Decidable (entries.length ≤ limits.maxCollectionSize ∧
      entries.length ≤ Read.countCeiling ∧
        ∀ entry ∈ entries, entry.1.tag = keyTag ∧ entry.2.tag = valueTag))
  | .set tag items | .list tag items =>
    inferInstanceAs (Decidable (items.length ≤ limits.maxCollectionSize ∧
      items.length ≤ Read.countCeiling ∧ ∀ item ∈ items, item.tag = tag))
  | .bool _ | .byte _ | .i16 _ | .i32 _ | .i64 _ | .double _ | .struct _ =>
    inferInstanceAs (Decidable True)

/-- Fields that respect the limits of decoding. -/
structure Respects (limits : Limits) (fields : List (Int16 × Payload)) : Prop where
  /-- Every payload is within the limits by itself. -/
  fits : ∀ node ∈ nodesFields fields, node.Fits limits
  /-- All collections together have no more entries than are built. -/
  total : entryTotal (nodesFields fields) ≤ limits.maxElements
  /-- No value needs more levels of nesting than there are. -/
  height : heightFields fields ≤ limits.maxDepth

/-- Payloads have as many entries as their parts have together. -/
theorem entryTotal_append (payloads others : List Payload) :
    entryTotal (payloads ++ others) = entryTotal payloads + entryTotal others := by
  induction payloads with
  | nil => rw [entryTotal, List.nil_append, Nat.zero_add]
  | cons payload rest ih => rw [List.cons_append, entryTotal, entryTotal, ih, Nat.add_assoc]

/-- Every payload needs a level of nesting. -/
theorem one_le_height (payload : Payload) : 1 ≤ payload.height := by
  cases payload with
  | struct fields =>
    rw [height]
    omega
  | map keyTag valueTag entries => exact Nat.le_add_right _ _
  | set tag items => exact Nat.le_add_right _ _
  | list tag items => exact Nat.le_add_right _ _
  | _ => exact Nat.le_refl 1

/-- What holds of all that items need holds of what one of them needs. -/
theorem height_le_of_mem_items {items : List Payload} {item : Payload} (among : item ∈ items) :
    item.height ≤ heightItems items := by
  induction items with
  | nil => cases among
  | cons first rest ih =>
    rw [heightItems]
    rcases List.mem_cons.mp among with rfl | among
    · exact Nat.le_max_left _ _
    · exact Nat.le_trans (ih among) (Nat.le_max_right _ _)

/-- The key and the value of a map entry need no more than all entries do. -/
theorem height_le_of_mem_entries {entries : List (Payload × Payload)} {entry : Payload × Payload}
    (among : entry ∈ entries) :
    entry.1.height ≤ heightEntries entries ∧ entry.2.height ≤ heightEntries entries := by
  induction entries with
  | nil => cases among
  | cons first rest ih =>
    rw [heightEntries]
    rcases List.mem_cons.mp among with rfl | among
    · omega
    · have below := ih among
      omega

/-- The value of a field needs no more than all fields do. -/
theorem height_le_of_mem_fields {fields : List (Int16 × Payload)} {field : Int16 × Payload}
    (among : field ∈ fields) : field.2.height ≤ heightFields fields := by
  induction fields with
  | nil => cases among
  | cons first rest ih =>
    rw [heightFields]
    rcases List.mem_cons.mp among with rfl | among
    · exact Nat.le_max_left _ _
    · exact Nat.le_trans (ih among) (Nat.le_max_right _ _)

private theorem nodesItems_eq (items : List Payload) : nodesItems items = items.flatMap nodes := by
  induction items with
  | nil => rfl
  | cons item rest ih => rw [nodesItems, ih, List.flatMap_cons]

private theorem nodesEntries_eq (entries : List (Payload × Payload)) :
    nodesEntries entries = entries.flatMap fun entry => entry.1.nodes ++ entry.2.nodes := by
  induction entries with
  | nil => rfl
  | cons entry rest ih => rw [nodesEntries, ih, List.flatMap_cons]

private theorem nodesFields_eq (fields : List (Int16 × Payload)) :
    nodesFields fields = fields.flatMap fun field => field.2.nodes := by
  induction fields with
  | nil => rfl
  | cons field rest ih => rw [nodesFields, ih, List.flatMap_cons]

variable {holds : Payload → Prop}

/-- What is asked of all that is inside items is asked of what is inside one. -/
theorem nodes_of_mem_items {items : List Payload} {item : Payload}
    (all : ∀ node ∈ nodesItems items, holds node) (among : item ∈ items) :
    ∀ node ∈ item.nodes, holds node := by
  rw [nodesItems_eq] at all
  exact fun node inside => all node (List.mem_flatMap.mpr ⟨item, among, inside⟩)

/-- What is asked of all that is inside map entries is asked of what is inside a key or a value. -/
theorem nodes_of_mem_entries {entries : List (Payload × Payload)} {entry : Payload × Payload}
    (all : ∀ node ∈ nodesEntries entries, holds node) (among : entry ∈ entries) :
    (∀ node ∈ entry.1.nodes, holds node) ∧ ∀ node ∈ entry.2.nodes, holds node := by
  rw [nodesEntries_eq] at all
  constructor
  · intro node inside
    exact all node (List.mem_flatMap.mpr ⟨entry, among, List.mem_append_left _ inside⟩)
  · intro node inside
    exact all node (List.mem_flatMap.mpr ⟨entry, among, List.mem_append_right _ inside⟩)

/-- What is asked of all that is inside fields is asked of what is inside the value of one. -/
theorem nodes_of_mem_fields {fields : List (Int16 × Payload)} {field : Int16 × Payload}
    (all : ∀ node ∈ nodesFields fields, holds node) (among : field ∈ fields) :
    ∀ node ∈ field.2.nodes, holds node := by
  rw [nodesFields_eq] at all
  exact fun node inside => all node (List.mem_flatMap.mpr ⟨field, among, inside⟩)

end Payload

end TaggedRpc
