import TaggedRpc.Proofs.Text.Numbers
import TaggedRpc.Text.Clipped

/-!
# Texts on one line

Texts without a newline (`SingleLine`), and how many newlines a text has (`newlines`). Numbers and
quoted texts are on one line, whatever they stand for, and so is everything that is put together
from texts on one line.
-/

namespace TaggedRpc.Text

/-- Whether a text is on one line. -/
def SingleLine (text : String) : Prop := '\n' ∉ text.toList

instance : DecidablePred SingleLine := fun text => inferInstanceAs (Decidable ('\n' ∉ text.toList))

/-- The number of newlines in a text. -/
def newlines (text : String) : Nat := text.toList.count '\n'

variable {text other : String}

/-- A text is on one line exactly if it has no newline. -/
theorem newlines_eq_zero_iff : newlines text = 0 ↔ SingleLine text := List.count_eq_zero

/-- A text without characters has no newline. -/
@[simp] theorem newlines_empty : newlines "" = 0 := rfl

/-- Newlines of two texts add up. -/
@[simp] theorem newlines_append (text other : String) :
    newlines (text ++ other) = newlines text + newlines other := by
  rw [newlines, String.toList_append, List.count_append, newlines, newlines]

/-- Many texts have the same newlines in any order. -/
theorem newlines_join_of_perm {texts others : List String} (perm : texts.Perm others) :
    newlines (String.join texts) = newlines (String.join others) := by
  rw [newlines, newlines, String.toList_join, String.toList_join]
  exact (perm.flatMap_right String.toList).count_eq '\n'

/-- Many texts have no newline together exactly if all of them are on one line. -/
theorem newlines_join_eq_zero_iff {texts : List String} :
    newlines (String.join texts) = 0 ↔ ∀ text ∈ texts, SingleLine text := by
  induction texts with
  | nil => simp [newlines]
  | cons text rest ih =>
    rw [String.join_cons, newlines_append, Nat.add_eq_zero_iff, newlines_eq_zero_iff, ih,
      List.forall_mem_cons]

/-- Two texts in a row are on one line exactly if both are. -/
@[simp] theorem singleLine_append :
    SingleLine (text ++ other) ↔ SingleLine text ∧ SingleLine other := by
  rw [SingleLine, String.toList_append, List.mem_append, not_or]
  rfl

/-- Two texts on one line are on one line in a row. -/
theorem SingleLine.append (single : SingleLine text) (behind : SingleLine other) :
    SingleLine (text ++ other) := singleLine_append.mpr ⟨single, behind⟩

/-- A text written out is on one line if the text is. -/
@[simp] theorem singleLine_toString : SingleLine (toString text) ↔ SingleLine text := Iff.rfl

/-- Texts with a text on one line between them are on one line if all of them are. -/
theorem SingleLine.intercalate {between : String} (single : SingleLine between)
    {texts : List String} (all : ∀ text ∈ texts, SingleLine text) :
    SingleLine (between.intercalate texts) := by
  induction texts with
  | nil =>
    rw [String.intercalate_nil]
    decide
  | cons text rest ih =>
    obtain ⟨first, others⟩ := List.forall_mem_cons.mp all
    cases rest with
    | nil => rwa [String.intercalate_singleton]
    | cons next rest =>
      rw [String.intercalate_cons_cons]
      exact (first.append single).append (ih others)

/-- A text of characters of numbers is on one line. -/
theorem singleLine_of_isNumeric (numeric : ∀ c ∈ text.toList, isNumeric c = true) :
    SingleLine text := fun among => ne_of_isNumeric (numeric _ among) (by decide) rfl

/-- The text of an integer is on one line. -/
@[simp] theorem singleLine_int (n : Int) : SingleLine (toString n) :=
  singleLine_of_isNumeric fun _ => isNumeric_of_mem_int

/-- The text of a natural number is on one line. -/
@[simp] theorem singleLine_nat (n : Nat) : SingleLine (toString n) := by
  apply singleLine_of_isNumeric
  intro c among
  rw [Nat.toString_eq_repr, Nat.repr_eq_ofList_toDigits, String.toList_ofList] at among
  exact isNumeric_of_mem_toDigits among

private theorem ne_newline_of_mem_hexDigits {n : Nat} {c : Char} (among : c ∈ hexDigits n) :
    c ≠ '\n' := by
  obtain ⟨d, below, rfl⟩ := exists_of_mem_hexDigits among
  clear among
  revert d
  decide

private theorem singleLine_hex (n : Nat) : SingleLine (hex n) := fun among =>
  ne_newline_of_mem_hexDigits (String.toList_ofList ▸ among) rfl

/-- A padded number in base sixteen is on one line. -/
@[simp] theorem singleLine_hexPadded (width n : Nat) : SingleLine (hexPadded width n) := by
  intro among
  rw [hexPadded, String.toList_ofList] at among
  rcases List.mem_append.mp among with zero | digit
  · cases List.eq_of_mem_replicate zero
  · exact ne_newline_of_mem_hexDigits digit rfl

private theorem singleLine_escape (c : Char) : SingleLine (escape c) := by
  unfold escape
  split
  case h_7 _ _ _ other _ _ _ =>
    split
    · have opening : SingleLine "\\u\x7b" := by decide
      exact (opening.append (singleLine_hex _)).append (by decide)
    · rw [SingleLine, Char.toString_eq_singleton, String.toList_singleton, List.mem_singleton]
      exact fun same => other same.symm
  all_goals decide

/-- A quoted text is on one line. -/
@[simp] theorem singleLine_quote (text : String) : SingleLine (quote text) := by
  rw [SingleLine, toList_quote, List.mem_append, List.mem_cons, List.mem_flatMap]
  rintro ((quote | ⟨c, -, among⟩) | quote)
  · cases quote
  · exact singleLine_escape c among
  · cases List.mem_singleton.mp quote

/-- A clipped text is on one line if the text is. -/
theorem SingleLine.clip (single : SingleLine text) (width : Nat) :
    SingleLine (clip width text) := by
  rw [SingleLine, toList_clip]
  split
  · exact single
  · rw [List.mem_append]
    rintro (among | ellipsis)
    · exact single (List.mem_of_mem_take among)
    · revert ellipsis
      decide

end TaggedRpc.Text
