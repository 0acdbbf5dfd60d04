import TaggedRpc.Proofs.Decode.Lines
import TaggedRpc.Proofs.Summary.Order

/-!
# The lines of summaries

A summary is itemised (`Message.Itemised`) if it is made of one line for each thing that it tells,
and of no other. The method and the texts of the fields of the body are shown as they are, so a
newline in one of them is one line more. These are the only texts that can break a summary up: the
summary of a message that is decoded has as many newlines in excess as they have, and is itemised
exactly if they have none (`decode_itemised`).
-/

namespace TaggedRpc

open Text

/-! ## Blocks of lines -/

namespace SummaryLayout

variable (layout : SummaryLayout)

private theorem newlines_line (content : String) :
    newlines (layout.line content) = newlines content + 1 := by
  have indent : newlines (String.ofList (List.replicate layout.indent ' ')) = 0 := by
    rw [newlines_eq_zero_iff, SingleLine, String.toList_ofList]
    exact fun among => absurd (List.eq_of_mem_replicate among) (by decide)
  have ending : newlines "\n" = 1 := by decide
  rw [line, newlines_append, newlines_append, indent, ending, Nat.zero_add]

/-- A block has a newline for each of its lines, and those of their contents. -/
theorem newlines_block (lines : List String) :
    newlines (layout.block lines) = lines.length + newlines (String.join lines) := by
  induction lines with
  | nil => rfl
  | cons first rest ih =>
    rw [block] at ih
    rw [block, List.map_cons, String.join_cons, newlines_append, newlines_line, ih,
      String.join_cons, newlines_append, List.length_cons]
    omega

private theorem cancel_line {content content' behind behind' : String} (single : SingleLine content)
    (single' : SingleLine content')
    (same : layout.line content ++ behind = layout.line content' ++ behind') :
    content = content' ∧ behind = behind' := by
  have front {content : String} (single : SingleLine content) (behind : List Char) :
      (content.toList ++ '\n' :: behind).takeWhile (· ≠ '\n') = content.toList := by
    have before : ∀ c ∈ content.toList, decide (c ≠ '\n') = true := fun c among =>
      decide_eq_true (ne_of_mem_of_not_mem among single)
    rw [List.takeWhile_append_of_pos before, List.takeWhile_cons_of_neg (by simp), List.append_nil]
  have chars := congrArg String.toList same
  simp only [line, String.toList_append, List.append_assoc, List.append_cancel_left_eq] at chars
  change content.toList ++ '\n' :: behind.toList =
    content'.toList ++ '\n' :: behind'.toList at chars
  have contents : content.toList = content'.toList := by
    rw [← front single behind.toList, chars, front single']
  rw [contents] at chars
  have ends := (List.cons.inj (List.append_cancel_left chars)).2
  exact ⟨String.toList_inj.mp contents, String.toList_inj.mp ends⟩

private theorem eq_nil_of_block_eq {lines : List String} (empty : layout.block lines = "") :
    lines = [] := by
  have count := congrArg newlines empty
  rw [newlines_block, newlines_empty, Nat.add_eq_zero_iff] at count
  exact List.length_eq_zero_iff.mp count.1

/-- Lines can be read off their block if each of them is on one line. -/
theorem eq_of_block_eq {lines others : List String} (single : ∀ line ∈ lines, SingleLine line)
    (single' : ∀ line ∈ others, SingleLine line) (same : layout.block lines = layout.block others) :
    lines = others := by
  induction lines generalizing others with
  | nil => exact (layout.eq_nil_of_block_eq same.symm).symm
  | cons line lines ih =>
    cases others with
    | nil => exact layout.eq_nil_of_block_eq same
    | cons other others =>
      rw [block, List.map_cons, String.join_cons, block, List.map_cons, String.join_cons] at same
      obtain ⟨first, rest⟩ := List.forall_mem_cons.mp single
      obtain ⟨first', rest'⟩ := List.forall_mem_cons.mp single'
      obtain ⟨rfl, behind⟩ := layout.cancel_line first first' same
      rw [ih rest rest' behind]

/-- What a summary shows of a field as it is: its text, up to the width of the layout. -/
def rawText? (entry : String × Field) : Option String :=
  entry.2.text?.map (Text.clip layout.maxValueWidth)

variable {layout}

private theorem newlines_fieldLine {entry : String × Field} (line : Field.OneLine entry) :
    newlines (layout.fieldLine entry) = newlines (String.join (layout.rawText? entry).toList) := by
  have front : SingleLine ("  " ++ entry.1 ++ " [id=" ++ toString entry.2.id.toInt ++ "] (" ++
      entry.2.typeName ++ "): ") := by
    simp only [singleLine_append, singleLine_int, Field.singleLine_typeName, line.key, and_true]
    simp [SingleLine]
  have whole : layout.fieldLine entry = "  " ++ entry.1 ++ " [id=" ++ toString entry.2.id.toInt ++
    "] (" ++ entry.2.typeName ++ "): " ++ Text.clip layout.maxValueWidth entry.2.display := rfl
  rw [whole, newlines_append, newlines_eq_zero_iff.mpr front, Nat.zero_add, Field.display_eq,
    rawText?]
  cases entry.2.text? with
  | none => exact newlines_eq_zero_iff.mpr (line.display.clip _)
  | some text => simp

private theorem newlines_join_fieldLine {entries : List (String × Field)}
    (each : ∀ entry ∈ entries, Field.OneLine entry) :
    newlines (String.join (entries.map layout.fieldLine)) =
      newlines (String.join (entries.filterMap layout.rawText?)) := by
  induction entries with
  | nil => rfl
  | cons entry rest ih =>
    obtain ⟨first, others⟩ := List.forall_mem_cons.mp each
    rw [List.map_cons, String.join_cons, newlines_append, newlines_fieldLine first, ih others,
      List.filterMap_cons]
    cases layout.rawText? entry <;> simp

private theorem singleLine_incompleteLine {reason : String} (single : SingleLine reason) :
    SingleLine (layout.incompleteLine reason) :=
  .append (.append (by simp [SingleLine]) (single.clip _)) (by simp [SingleLine])

end SummaryLayout

/-! ## Messages -/

/-- The name of a kind of message is on one line. -/
theorem Kind.singleLine_label (kind : Kind) : SingleLine kind.label := by
  unfold label
  split
  case h_5 =>
    simp only [singleLine_append, singleLine_toString, singleLine_nat, and_true]
    simp [SingleLine]
  all_goals simp [SingleLine]

namespace Message

/-- The number of lines about a message before its fields. -/
def headCount (message : Message) : Nat := if message.protocol.isSome then 7 else 6

/-- The number of lines about a message behind its fields. -/
def endCount (message : Message) : Nat := if message.fields.incomplete.isSome then 1 else 0

/-- The number of lines that the summary of a message should have. -/
def lineCount (message : Message) : Nat :=
  message.headCount + message.fields.size + message.endCount

/-- The texts that the summary of a message shows as they are: the method, and the texts of the
fields of the body up to the width of the layout. -/
def rawTexts (message : Message) (layout : SummaryLayout) : List String :=
  message.envelope.method :: message.fields.entries.filterMap layout.rawText?

/-- Lines that are the summary of a message: as many as there should be before the fields, one for
each field, and one behind them if they end early. Each has the indent in front, and no newline but
the one at its end. -/
structure Lines (message : Message) (layout : SummaryLayout) (head fields ends : List String) :
    Prop where
  /-- The summary is these lines, one after another. -/
  summary_eq : message.summary layout = layout.block (head ++ fields ++ ends)
  /-- Six lines come before the fields, or seven if there is a protocol. -/
  length_head : head.length = message.headCount
  /-- Every field has one line. -/
  length_fields : fields.length = message.fields.size
  /-- One more line comes behind the fields if they end early. -/
  length_ends : ends.length = message.endCount
  /-- No line has a newline in it. -/
  single : ∀ line ∈ head ++ fields ++ ends, SingleLine line

/-- Whether the summary of a message is one line for each thing that it should tell. -/
def Itemised (message : Message) (layout : SummaryLayout) : Prop :=
  ∃ head fields ends, message.Lines layout head fields ends

/-- Whether everything is on one line that a summary shows and that is not shown as it is. -/
structure OneLine (message : Message) : Prop where
  protocol : ∀ family ∈ message.protocol, SingleLine family
  names : SingleLine message.nameSource.description
  fields : ∀ entry ∈ message.fields.entries, Field.OneLine entry
  incomplete : ∀ reason ∈ message.fields.incomplete, SingleLine reason

variable {message : Message} {layout : SummaryLayout}

private theorem length_headLines (message : Message) :
    message.headLines.length = message.headCount := by
  rw [headLines, headCount]
  cases message.protocol <;> rfl

private theorem length_map_fieldLine (message : Message) (layout : SummaryLayout) :
    ((layout.arrange message.fields.entries).map layout.fieldLine).length =
      message.fields.size := by
  rw [List.length_map]
  exact (layout.arrange_perm _).length_eq

private theorem length_map_incompleteLine (message : Message) (layout : SummaryLayout) :
    (message.fields.incomplete.toList.map layout.incompleteLine).length = message.endCount := by
  rw [endCount]
  cases message.fields.incomplete <;> rfl

/-- An itemised summary has as many newlines as there should be lines. -/
theorem Itemised.newlines_summary (itemised : message.Itemised layout) :
    newlines (message.summary layout) = message.lineCount := by
  obtain ⟨head, fields, ends, lines⟩ := itemised
  rw [lines.summary_eq, SummaryLayout.newlines_block, newlines_join_eq_zero_iff.mpr lines.single,
    List.length_append, List.length_append, lines.length_head, lines.length_fields,
    lines.length_ends]
  rfl

section OneLine

variable (line : message.OneLine)

include line

private theorem OneLine.newlines_headLines :
    newlines (String.join message.headLines) = newlines message.envelope.method := by
  have others : ∀ text ∈ message.headLines.tail, SingleLine text := by
    intro text among
    simp only [headLines, List.cons_append, List.nil_append, List.tail_cons, List.mem_cons,
      List.mem_append, List.mem_map, Option.mem_toList, List.not_mem_nil, or_false] at among
    rcases among with rfl | rfl | rfl | ⟨family, held, rfl⟩ | rfl | rfl
    · exact .append (by simp [SingleLine]) message.envelope.kind.singleLine_label
    · exact .append (by simp [SingleLine]) (singleLine_int _)
    · simp only [singleLine_append, singleLine_nat, and_true]
      simp [SingleLine]
    · exact .append (by simp [SingleLine]) (line.protocol family held)
    · exact .append (by simp [SingleLine]) line.names
    · simp only [singleLine_append, singleLine_nat, and_true]
      simp [SingleLine]
  have split : message.headLines =
    ("Method: " ++ message.envelope.method) :: message.headLines.tail := rfl
  have label : newlines "Method: " = 0 := newlines_eq_zero_iff.mpr (by simp [SingleLine])
  rw [split, String.join_cons, newlines_append, newlines_append,
    newlines_join_eq_zero_iff.mpr others, label, Nat.zero_add, Nat.add_zero]

private theorem OneLine.newlines_lines (layout : SummaryLayout) :
    newlines (String.join (message.headLines ++ message.fieldLines layout)) =
      newlines (String.join (message.rawTexts layout)) := by
  have arranged : ∀ entry ∈ layout.arrange message.fields.entries, Field.OneLine entry :=
    fun entry among => line.fields entry ((layout.arrange_perm _).mem_iff.mp among)
  have ends : ∀ text ∈ message.fields.incomplete.toList.map layout.incompleteLine,
      SingleLine text :=
    List.forall_mem_map.mpr fun reason held =>
      SummaryLayout.singleLine_incompleteLine (line.incomplete reason (Option.mem_toList.mp held))
  rw [fieldLines, String.join_append, String.join_append, newlines_append, newlines_append,
    line.newlines_headLines, SummaryLayout.newlines_join_fieldLine arranged,
    newlines_join_eq_zero_iff.mpr ends,
    newlines_join_of_perm ((layout.arrange_perm _).filterMap layout.rawText?), rawTexts,
    String.join_cons, newlines_append, Nat.add_zero]

/-- A summary has a newline for each line that there should be, and those of what it shows as it
is. -/
theorem OneLine.newlines_summary (layout : SummaryLayout) :
    newlines (message.summary layout) =
      message.lineCount + newlines (String.join (message.rawTexts layout)) := by
  rw [summary, SummaryLayout.newlines_block, line.newlines_lines, fieldLines, List.length_append,
    List.length_append, length_headLines, length_map_fieldLine, length_map_incompleteLine,
    lineCount, ← Nat.add_assoc message.headCount]

/-- A summary is itemised exactly if what it shows as it is has no newlines. -/
theorem OneLine.itemised_iff :
    message.Itemised layout ↔ ∀ text ∈ message.rawTexts layout, SingleLine text := by
  rw [← newlines_join_eq_zero_iff]
  constructor
  · intro itemised
    have count := itemised.newlines_summary
    rw [line.newlines_summary] at count
    omega
  · intro none
    rw [← line.newlines_lines, fieldLines, newlines_join_eq_zero_iff, ← List.append_assoc] at none
    exact ⟨_, _, _, {
      summary_eq := by rw [summary, fieldLines, ← List.append_assoc]
      length_head := message.length_headLines
      length_fields := message.length_map_fieldLine layout
      length_ends := message.length_map_incompleteLine layout
      single := none }⟩

/-- The lines of an itemised summary are those that the message says, whatever is in its texts. -/
theorem OneLine.eq_of_lines {head fields ends : List String}
    (lines : message.Lines layout head fields ends) :
    head = message.headLines ∧
      fields = (layout.arrange message.fields.entries).map layout.fieldLine ∧
        ends = message.fields.incomplete.toList.map layout.incompleteLine := by
  have none := line.itemised_iff.mp ⟨head, fields, ends, lines⟩
  rw [← newlines_join_eq_zero_iff, ← line.newlines_lines, newlines_join_eq_zero_iff] at none
  have whole := layout.eq_of_block_eq lines.single none (lines.summary_eq.symm.trans rfl)
  rw [fieldLines, List.append_assoc] at whole
  obtain ⟨heads, rest⟩ := List.append_inj whole
    (lines.length_head.trans message.length_headLines.symm)
  exact ⟨heads, List.append_inj rest
    (lines.length_fields.trans (message.length_map_fieldLine layout).symm)⟩

end OneLine

end Message

/-! ## Decoded messages -/

private theorem Method.singleLine_of_bodyStruct? {method structName : String} {kind : Kind}
    (named : bodyStruct? method kind = some structName) : SingleLine structName := by
  have single : ∀ method ∈ known, SingleLine method := by simp [known, SingleLine]
  have request {ending : String} (ends : SingleLine ending)
      (named : (if isKnown method then some ("T" ++ method ++ ending) else none) =
        some structName) : SingleLine structName := by
    obtain ⟨among, ⟨⟩⟩ := Option.ite_none_right_eq_some.mp named
    have method := single method (List.contains_iff_mem.mp among)
    exact .append (.append (by simp [SingleLine]) method) ends
  cases kind with
  | call => exact request (by simp [SingleLine]) named
  | reply => exact request (by simp [SingleLine]) named
  | exception | oneWay | unknown => cases named

private theorem FieldNames.singleLine_description (registry : Option Registry) (method : String)
    (kind : Kind) : SingleLine (resolve registry method kind).2.description := by
  unfold resolve
  split
  · decide
  · next registry =>
    split
    · decide
    · next structName descriptors found =>
      obtain ⟨name, named, rest⟩ := Option.bind_eq_some_iff.mp found
      obtain ⟨held, -, given⟩ := Option.bind_eq_some_iff.mp rest
      obtain ⟨-, ⟨⟩⟩ := Option.ite_none_left_eq_some.mp given
      unfold NameSource.description
      simp only [singleLine_append, singleLine_nat, Method.singleLine_of_bodyStruct? named,
        and_true]
      simp [SingleLine]

namespace Decoder

variable {buf : ByteArray}

private theorem oneLine_messageBehind (limits : Limits) (registry : Option Registry)
    (envelope : Envelope) (c : Cursor buf) (keys : (namesOf registry envelope).OneLine) :
    (messageBehind limits registry envelope c).OneLine where
  protocol family held := by
    obtain ⟨-, ⟨⟩⟩ := Option.ite_none_right_eq_some.mp held
    simp [Method.family, SingleLine]
  names := FieldNames.singleLine_description registry envelope.method envelope.kind
  fields := oneLine_of_mem_readFields (singleLine_values limits keys limits.maxDepth) keys _
  incomplete := singleLine_of_mem_desyncReason

end Decoder

/-- If the names that a registry gives are on one line, the summary of a message that is decoded has
a newline for each line that there should be, and one for each newline in its method and in what is
shown of the texts of its fields. So it is itemised exactly if these have none. Texts inside other
values are quoted, and nothing in them makes a line more, or one less. -/
theorem decode_itemised (limits : Limits) (registry : Option Registry) (buf : ByteArray)
    (layout : SummaryLayout) {message : Message}
    (decoded : decode limits registry buf = .ok message)
    (keys : (Decoder.namesOf registry message.envelope).OneLine) :
    newlines (message.summary layout) =
      message.lineCount + newlines (String.join (message.rawTexts layout)) ∧
    (message.Itemised layout ↔ ∀ text ∈ message.rawTexts layout, SingleLine text) ∧
    ∀ head fields ends, message.Lines layout head fields ends →
      head = message.headLines ∧
        fields = (layout.arrange message.fields.entries).map layout.fieldLine ∧
          ends = message.fields.incomplete.toList.map layout.incompleteLine := by
  obtain ⟨envelope, c, -, rfl⟩ := decode_eq_ok_iff.mp decoded
  have line := Decoder.oneLine_messageBehind limits registry envelope c keys
  exact ⟨line.newlines_summary layout, line.itemised_iff, fun _ _ _ lines => line.eq_of_lines lines⟩

/-- A call whose field is a list of one text, a newline. -/
def nestedNewlineCall : ByteArray :=
  ⟨#[0x80, 1, 0, 1, 0, 0, 0, 1, 102, 0, 0, 0, 7, 15, 0, 1, 11, 0, 0, 0, 1, 0, 0, 0, 1, 10, 0]⟩

/-- The summary of the call is itemised, since the text stands in quotes. -/
theorem decode_nestedNewlineCall :
    ∃ message, decode {} none nestedNewlineCall = .ok message ∧ message.Itemised {} ∧
      newlines (message.summary {}) = 7 := by
  have run : (decode {} none nestedNewlineCall).toOption.map
      (fun message => (message.lineCount, message.rawTexts {})) = some (7, ["f"]) := by
    decide +kernel
  obtain ⟨message, decoded, seen⟩ := decode_of_seen run
  obtain ⟨lineCount, rawTexts⟩ := Prod.mk.inj seen
  have keys : (Decoder.namesOf none message.envelope).OneLine := FieldNames.oneLine_empty
  obtain ⟨count, itemised, -⟩ := decode_itemised {} none nestedNewlineCall {} decoded keys
  rw [rawTexts] at count itemised
  refine ⟨message, decoded, itemised.mpr (by decide +kernel), ?_⟩
  rw [count, lineCount]
  decide +kernel

/-- A call whose field is a text with a newline in it. -/
def newlineCall : ByteArray :=
  ⟨#[0x80, 1, 0, 1, 0, 0, 0, 1, 102, 0, 0, 0, 7, 11, 0, 1, 0, 0, 0, 3, 97, 10, 98, 0]⟩

/-- The summary of the call has a line too many. -/
theorem decode_newlineCall :
    ∃ message, decode {} none newlineCall = .ok message ∧ message.lineCount = 7 ∧
      newlines (message.summary { indent := 4 }) = 8 ∧
        ¬ message.Itemised { indent := 4 } := by
  have run : (decode {} none newlineCall).toOption.map
      (fun message => (message.lineCount, message.rawTexts { indent := 4 })) =
        some (7, ["f", "a\nb"]) := by
    decide +kernel
  obtain ⟨message, decoded, seen⟩ := decode_of_seen run
  obtain ⟨lineCount, rawTexts⟩ := Prod.mk.inj seen
  obtain ⟨envelope, c, -, rfl⟩ := decode_eq_ok_iff.mp decoded
  have line := Decoder.oneLine_messageBehind {} none envelope c FieldNames.oneLine_empty
  have count := line.newlines_summary { indent := 4 }
  have excess : newlines (String.join ["f", "a\nb"]) = 1 := by decide +kernel
  rw [rawTexts, lineCount, excess] at count
  refine ⟨_, decoded, lineCount, count, fun itemised => ?_⟩
  have none := itemised.newlines_summary
  rw [count, lineCount] at none
  cases none

end TaggedRpc
