/-!
# Clipped text

A text cut to a number of characters. `toList_clip` says which characters stay and that an
ellipsis stands only where something was cut.
-/

namespace TaggedRpc.Text

/-- The first `width` characters of a text, followed by `...` if there are more. -/
def clip (width : Nat) (text : String) : String :=
  let cut := text.startPos.nextn width
  if cut = text.endPos then text else (text.sliceTo cut).copy ++ "..."

/-- Clipping keeps the first `width` characters and marks the loss of any other. -/
theorem toList_clip (width : Nat) (text : String) :
    (clip width text).toList =
      if text.length ≤ width then text.toList else text.toList.take width ++ ['.', '.', '.'] := by
  have split := text.splits_nextn_startPos width
  unfold clip
  rw [← String.length_toList]
  by_cases fits : text.toList.length ≤ width
  · have whole : text.startPos.nextn width = text.endPos := by
      rw [List.take_of_length_le fits, List.drop_of_length_le fits] at split
      exact split.eq_endPos_iff.mpr rfl
    simp only [whole, fits, if_true]
  · have cut : text.startPos.nextn width ≠ text.endPos := by
      intro whole
      rw [whole] at split
      have dropped := congrArg String.toList (split.eq_right text.splits_endPos)
      rw [String.toList_ofList, String.toList_empty, List.drop_eq_nil_iff] at dropped
      exact fits dropped
    simp only [cut, if_false, fits, String.toList_append, split.copy_sliceTo_eq,
      String.toList_ofList]
    rfl

end TaggedRpc.Text
