import TaggedRpc.Decode.Depth
import TaggedRpc.Envelope.Read
import TaggedRpc.Schema.Resolution

/-!
# Decoding of messages

A message is an envelope and the fields of a struct. Only a broken envelope is an error; what goes
wrong in the fields is kept in the tree.
-/

namespace TaggedRpc

/-- Why a message cannot be decoded at all. -/
inductive DecodeError where
  /-- The buffer is too short for the first word of an envelope. -/
  | tooShort (size : Nat)
  /-- The envelope cannot be read at an offset of a buffer of a size. -/
  | framing (fault : Fault) (offset size : Nat)
  deriving DecidableEq, Repr

namespace DecodeError

/-- The sentence for an error. -/
def message : DecodeError → String
  | tooShort size => "message too short: " ++ toString size ++ " bytes"
  | framing fault offset size =>
    "framing error at byte " ++ toString offset ++ " of " ++ toString size ++ ": " ++ fault.message

/-- The number of bytes read before the error. -/
def offset : DecodeError → Nat
  | tooShort _ => 0
  | framing _ offset _ => offset

end DecodeError

/-- A decoded message. -/
structure Message where
  /-- What the message says before its body. -/
  envelope : Envelope
  /-- The fields of the body. -/
  fields : Fields
  /-- The number of bytes that were read. -/
  bytesConsumed : Nat
  /-- The number of bytes of the message. -/
  totalBytes : Nat
  /-- The protocol family of the method, if the method is known. -/
  protocol : Option String
  /-- Where the names of the fields come from. -/
  nameSource : NameSource

/-- Whether all bytes of a message were read. -/
def Message.fullyConsumed (message : Message) : Bool := message.bytesConsumed == message.totalBytes

namespace Decoder

variable {buf : ByteArray}

/-- The size of the first word of an envelope. -/
def firstWordSize : Nat := 4

/-- Decode a message at the place of a decoder. -/
def message (limits : Limits) (registry : Option Registry) (s : Decoder buf) :
    Except DecodeError Message :=
  if buf.size < firstWordSize then .error (.tooShort buf.size)
  else
    match Envelope.read s.cursor with
    | .error fault c => .error (.framing fault c.pos buf.size)
    | .ok envelope c =>
      let (names, nameSource) := FieldNames.resolve registry envelope.method envelope.kind
      let (fields, t) :=
        readFields limits names (values limits names limits.maxDepth) { s with cursor := c }
      .ok {
        envelope
        fields
        bytesConsumed := t.pos
        totalBytes := buf.size
        protocol := if Method.isKnown envelope.method then some Method.family else none
        nameSource }

end Decoder

/-- Decode a message. -/
def decode (limits : Limits) (registry : Option Registry) (buf : ByteArray) :
    Except DecodeError Message :=
  (Decoder.start buf).message limits registry

end TaggedRpc
