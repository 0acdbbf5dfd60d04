import Mathlib.Data.String.Basic
import Mathlib.Tactic.SplitIfs

/-!
# Texts in the order of their bytes

Texts are compared by their characters, which is to compare the bytes of their UTF-8
(`lt_iff_utf8_lt`): of two characters the greater one has the greater bytes, whatever follows them.
So what is sorted by a text is in the order of bytes, and where no text comes twice there is one
such order only (`mergeSort_eq_of_ascending`).
-/

namespace TaggedRpc.Text

/-- The bytes of a text in UTF-8. -/
def utf8 (text : String) : List UInt8 := text.toUTF8.data.toList

/-- Whether texts come in the strictly ascending order of their bytes. -/
def Ascending (texts : List String) : Prop := texts.Pairwise fun a b => utf8 a < utf8 b

/-! ## Characters and bytes -/

/-- The bytes of a text are those of its characters, one after another. -/
theorem utf8_eq_flatMap (text : String) :
    utf8 text = text.toList.flatMap String.utf8EncodeChar := by
  have bytes : text.toUTF8 = (text.toList.flatMap String.utf8EncodeChar).toByteArray := by
    conv => lhs; rw [← String.ofList_toList (s := text)]
    rfl
  rw [utf8, bytes, List.toList_data_toByteArray]

private theorem byte_lt_iff {m n : Nat} (first : m < 256) (second : n < 256) :
    UInt8.ofNat m < UInt8.ofNat n ↔ m < n := by
  rw [UInt8.lt_iff_toNat_lt, UInt8.toNat_ofNat_of_lt' first, UInt8.toNat_ofNat_of_lt' second]

private theorem byte_inj {m n : Nat} (first : m < 256) (second : n < 256) :
    UInt8.ofNat m = UInt8.ofNat n ↔ m = n := by
  rw [← UInt8.toNat_inj, UInt8.toNat_ofNat_of_lt' first, UInt8.toNat_ofNat_of_lt' second]

private theorem utf8EncodeChar_append_lt {c d : Char} (less : c < d) (rest rest' : List UInt8) :
    String.utf8EncodeChar c ++ rest < String.utf8EncodeChar d ++ rest' := by
  have codes : c.val.toNat < d.val.toNat := less
  have scalar : d.val.toNat < 0x110000 := by
    rcases d.valid with low | high <;> omega
  have sixBits (n : Nat) (below : n < 0x110000) : n / 64 / 64 = n / 4096 ∧
      n / 4096 / 64 = n / 262144 ∧ n / 262144 % 8 = n / 262144 :=
    ⟨Nat.div_div_eq_div_mul n 64 64, Nat.div_div_eq_div_mul n 4096 64, Nat.mod_eq_of_lt (by omega)⟩
  unfold String.utf8EncodeChar
  dsimp only
  generalize c.val.toNat = v at codes
  generalize d.val.toNat = w at codes scalar
  have := sixBits v (by omega)
  have := sixBits w scalar
  -- More bytes start with a greater one; as many bytes hold the digits of the code point, six bits
  -- each, so the first byte that differs decides.
  split_ifs
  all_goals simp (disch := omega) only [List.cons_append, List.cons_lt_cons_iff, byte_lt_iff,
    byte_inj]
  all_goals omega

private theorem flatMap_utf8EncodeChar_lt {cs ds : List Char} (less : cs < ds) :
    cs.flatMap String.utf8EncodeChar < ds.flatMap String.utf8EncodeChar := by
  induction less with
  | @nil d ds =>
    obtain ⟨first, behind, spelled⟩ :=
      List.exists_cons_of_ne_nil (String.utf8EncodeChar_ne_nil (c := d))
    rw [List.flatMap_nil, List.flatMap_cons, spelled]
    exact List.nil_lt_cons _ _
  | rel less =>
    rw [List.flatMap_cons, List.flatMap_cons]
    exact utf8EncodeChar_append_lt less _ _
  | cons _ ih => exact List.append_left_lt ih

/-- Texts are ordered like their bytes. -/
theorem lt_iff_utf8_lt {a b : String} : a < b ↔ utf8 a < utf8 b := by
  have forth {a b : String} (less : a < b) : utf8 a < utf8 b := by
    rw [utf8_eq_flatMap, utf8_eq_flatMap]
    exact flatMap_utf8EncodeChar_lt less
  refine ⟨forth, fun less => String.not_le.mp fun notLess => ?_⟩
  rcases Std.le_iff_lt_or_eq.mp notLess with greater | same
  · exact List.lt_asymm less (forth greater)
  · rw [same] at less
    exact List.lt_irrefl _ less

/-! ## Sorting by a text -/

/-- Texts in ascending order are all different. -/
theorem Ascending.nodup {texts : List String} (ascending : Ascending texts) : texts.Nodup := by
  refine List.Pairwise.imp ?_ ascending
  rintro a _ less rfl
  exact List.lt_irrefl _ less

variable {α : Type} {key : α → String} {items sorted : List α}

/-- Texts of items are ascending if each item has a smaller text than those behind it. -/
theorem ascending_map_iff :
    Ascending (items.map key) ↔ items.Pairwise fun a b => utf8 (key a) < utf8 (key b) :=
  List.pairwise_map

/-- Items with different texts are sorted into the ascending order of their texts. -/
theorem ascending_mergeSort (different : (items.map key).Nodup) :
    Ascending ((items.mergeSort fun a b => key a ≤ key b).map key) := by
  have ordered : (items.mergeSort fun a b => key a ≤ key b).Pairwise fun a b => key a ≤ key b := by
    refine (List.pairwise_mergeSort ?_ ?_ items).imp of_decide_eq_true
    · intro a b c before after
      exact decide_eq_true (String.le_trans (of_decide_eq_true before) (of_decide_eq_true after))
    · intro a b
      rw [Bool.or_eq_true, decide_eq_true_iff, decide_eq_true_iff]
      exact String.le_total _ _
  have apart : (items.mergeSort fun a b => key a ≤ key b).Pairwise fun a b => key a ≠ key b :=
    List.pairwise_map.mp (((List.mergeSort_perm items _).map key).nodup_iff.mpr different)
  refine ascending_map_iff.mpr ((ordered.and apart).imp fun ⟨notGreater, other⟩ => ?_)
  exact lt_iff_utf8_lt.mp (Std.lt_of_le_of_ne notGreater other)

/-- There is one ascending order only: sorting gives it, whatever order the items come in. -/
theorem mergeSort_eq_of_ascending (perm : items.Perm sorted)
    (ascending : Ascending (sorted.map key)) :
    (items.mergeSort fun a b => key a ≤ key b) = sorted := by
  have different : (items.map key).Nodup := (perm.map key).nodup_iff.mpr ascending.nodup
  refine List.Perm.eq_of_pairwise ?_ (ascending_map_iff.mp (ascending_mergeSort different))
    (ascending_map_iff.mp ascending) ((List.mergeSort_perm items _).trans perm)
  exact fun _ _ _ _ less greater => absurd greater (List.lt_asymm less)

end TaggedRpc.Text
