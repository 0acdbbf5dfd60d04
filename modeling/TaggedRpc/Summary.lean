import TaggedRpc.Decode.Message
import TaggedRpc.Text.Clipped
import TaggedRpc.Tree.Display

/-!
# Summaries of messages

Decoded messages in lines of text: the envelope, where the names of the fields come from, and one
line for each field of the body. Values nested in a field are shown on its line.
-/

namespace TaggedRpc

/-- How a summary is laid out. -/
structure SummaryLayout where
  /-- The number of characters of a value that are shown. -/
  maxValueWidth : Nat := 200
  /-- The number of spaces before each line. -/
  indent : Nat := 0
  /-- Whether fields are in the order of their keys rather than in wire order. -/
  sortFields : Bool := true
  deriving DecidableEq, Repr

namespace SummaryLayout

/-- A line with its indent and its end. -/
def line (layout : SummaryLayout) (content : String) : String :=
  String.ofList (List.replicate layout.indent ' ') ++ content ++ "\n"

/-- Lines one after another. -/
def block (layout : SummaryLayout) (lines : List String) : String :=
  String.join (lines.map layout.line)

/-- Fields in the order in which they are shown. -/
def arrange (layout : SummaryLayout) (entries : List (String × Field)) : List (String × Field) :=
  if layout.sortFields then entries.mergeSort fun a b => a.1 ≤ b.1 else entries

/-- The line of a field. -/
def fieldLine (layout : SummaryLayout) : String × Field → String
  | (key, field) =>
    "  " ++ key ++ " [id=" ++ toString field.id.toInt ++ "] (" ++ field.typeName ++ "): " ++
      Text.clip layout.maxValueWidth field.display

/-- The line of the reason why fields end early. -/
def incompleteLine (layout : SummaryLayout) (reason : String) : String :=
  "  <incomplete: " ++ Text.clip layout.maxValueWidth reason ++ ">"

end SummaryLayout

namespace Message

/-- The lines about a message before its fields. -/
def headLines (message : Message) : List String :=
  ["Method: " ++ message.envelope.method,
    "Type: " ++ message.envelope.kind.label,
    "Sequence: " ++ toString message.envelope.sequenceId.toInt,
    "Bytes: " ++ toString message.bytesConsumed ++ "/" ++ toString message.totalBytes] ++
  message.protocol.toList.map ("Protocol: " ++ ·) ++
  ["Field Names: " ++ message.nameSource.description,
    "Fields (" ++ toString message.fields.size ++ "):"]

/-- The lines about the fields of a message. -/
def fieldLines (message : Message) (layout : SummaryLayout) : List String :=
  (layout.arrange message.fields.entries).map layout.fieldLine ++
    message.fields.incomplete.toList.map layout.incompleteLine

/-- The summary of a message. -/
def summary (message : Message) (layout : SummaryLayout) : String :=
  layout.block (message.headLines ++ message.fieldLines layout)

end Message

/-- The summary of an error. -/
def DecodeError.summary (error : DecodeError) (layout : SummaryLayout) : String :=
  layout.block ["<decode error: " ++ error.message ++ ">"]

/-- The summary of what decoding gave. -/
def summary (layout : SummaryLayout) : Except DecodeError Message → String
  | .ok message => message.summary layout
  | .error error => error.summary layout

end TaggedRpc
