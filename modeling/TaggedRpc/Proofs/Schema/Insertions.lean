import Mathlib.Data.List.Dedup
import Mathlib.Data.List.Induction
import Std.Data.ExtTreeMap

/-!
# Maps after a list of insertions

What a map holds after insertions into an empty one: under each key what was inserted there last
(`lookup_foldl_insert`), and as many keys as different ones were inserted (`size_eq_length_dedup`).
-/

namespace TaggedRpc

section Lookup

variable {σ ι κ β : Type} [DecidableEq κ] {insert : σ → ι → σ} {lookup : σ → κ → Option β}
  {key : ι → κ} {value : ι → β} {start : σ}
  (law : ∀ map item k, lookup (insert map item) k =
    if key item = k then some (value item) else lookup map k)
  (fresh : ∀ k, lookup start k = none)

include law fresh

/-- If an insertion replaces what is under its own key only, the last one under a key counts. -/
theorem lookup_foldl_insert (items : List ι) (k : κ) :
    lookup (items.foldl insert start) k = (items.filter (key · = k)).getLast?.map value := by
  induction items using List.reverseRecOn with
  | nil => exact fresh k
  | append_singleton rest last ih =>
    rw [List.foldl_append, List.foldl_cons, List.foldl_nil, law, List.filter_append]
    split
    · next same => simp [same]
    · next other => simp [other, ih]

/-- Something is under a key if anything was inserted there. -/
theorem isSome_lookup_foldl_insert {items : List ι} {k : κ} :
    (lookup (items.foldl insert start) k).isSome ↔ k ∈ items.map key := by
  rw [lookup_foldl_insert law fresh, Option.isSome_map, Option.isSome_iff_ne_none, ne_eq,
    List.getLast?_eq_none_iff]
  simp [List.filter_eq_nil_iff]

end Lookup

/-- A map with the keys of a list has as many as there are different ones in the list. -/
theorem size_eq_length_dedup {κ β : Type} [Ord κ] [Std.TransOrd κ] [Std.LawfulEqOrd κ]
    [DecidableEq κ] {map : Std.ExtTreeMap κ β} {keys : List κ}
    (same : ∀ k, map[k]?.isSome ↔ k ∈ keys) : map.size = keys.dedup.length := by
  rw [← Std.ExtTreeMap.length_keys]
  refine List.Perm.length_eq ((List.perm_ext_iff_of_nodup Std.ExtTreeMap.nodup_keys
    (List.nodup_dedup _)).mpr fun k => ?_)
  rw [Std.ExtTreeMap.mem_keys, List.mem_dedup, ← same, Std.ExtTreeMap.isSome_getElem?_iff_mem]

end TaggedRpc
