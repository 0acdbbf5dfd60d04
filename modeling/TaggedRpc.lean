import TaggedRpc.Wire.Progress
import TaggedRpc.Wire.Read
import TaggedRpc.Wire.Fault
import TaggedRpc.Wire.Tag
import TaggedRpc.Binary64.Text
import TaggedRpc.Text.Clipped
import TaggedRpc.Text.Preview
import TaggedRpc.Text.Quoted
import TaggedRpc.Wire.Skip
import TaggedRpc.Envelope.Basic
import TaggedRpc.Envelope.Read
import TaggedRpc.Tree.Fields
import TaggedRpc.Tree.Display
import TaggedRpc.Tree.Equality
import TaggedRpc.Schema.Audit
import TaggedRpc.Schema.Methods
import TaggedRpc.Schema.Registry
import TaggedRpc.Schema.Resolution
import TaggedRpc.Decode.Decoder
import TaggedRpc.Decode.Body
import TaggedRpc.Decode.Depth
import TaggedRpc.Decode.Description
import TaggedRpc.Decode.Message
import TaggedRpc.Encode.Bytes
import TaggedRpc.Encode.Payload
import TaggedRpc.Hive.Samples
import TaggedRpc.Hive.Schemas
import TaggedRpc.Summary
import TaggedRpc.Proofs.Wire.Outcome
import TaggedRpc.Proofs.Wire.Walk
import TaggedRpc.Proofs.Wire.Machine
import TaggedRpc.Proofs.Wire.Continuation
import TaggedRpc.Proofs.Decode.Outcome
import TaggedRpc.Proofs.Decode.Turns
import TaggedRpc.Proofs.Wire.Spans
import TaggedRpc.Proofs.Decode.Boundaries
import TaggedRpc.Proofs.Tree.Insertions
import TaggedRpc.Proofs.Tree.Agreement
import TaggedRpc.Proofs.Tree.Labels
import TaggedRpc.Proofs.Schema.Keys
import TaggedRpc.Proofs.Decode.Limits
import TaggedRpc.Proofs.Tree.Subvalues
import TaggedRpc.Proofs.Tree.Totals
import TaggedRpc.Proofs.Tree.Rules
import TaggedRpc.Proofs.Decode.Loss
import TaggedRpc.Proofs.Decode.Continuation
import TaggedRpc.Proofs.Decode.Consumed
import TaggedRpc.Proofs.Encode.Reads
import TaggedRpc.Proofs.Encode.Envelope
import TaggedRpc.Proofs.Encode.Extent
import TaggedRpc.Proofs.Encode.RoundTrip
import TaggedRpc.Proofs.Decode.InStep
import TaggedRpc.Proofs.Decode.Framing
import TaggedRpc.Proofs.Decode.Names
import TaggedRpc.Proofs.Decode.Yields
import TaggedRpc.Proofs.Decode.Counted
import TaggedRpc.Proofs.Decode.Enforced
import TaggedRpc.Proofs.Decode.Calls
import TaggedRpc.Proofs.Decode.Headers
import TaggedRpc.Proofs.Decode.Typed
import TaggedRpc.Proofs.Decode.Entries
import TaggedRpc.Proofs.Decode.Budget
import TaggedRpc.Proofs.Decode.Noninterference
import TaggedRpc.Proofs.Wire.Plain
import TaggedRpc.Proofs.Encode.Skipped
import TaggedRpc.Proofs.Encode.Grammar
import TaggedRpc.Proofs.Decode.Recovery
import TaggedRpc.Proofs.Wire.Conclusive
import TaggedRpc.Proofs.Decode.Amplification
import TaggedRpc.Proofs.Wire.Steps
import TaggedRpc.Tree.Table
import TaggedRpc.Proofs.Tree.History
import TaggedRpc.Proofs.Wire.Operations
import TaggedRpc.Proofs.Text.Delimited
import TaggedRpc.Proofs.Tree.Rendering
import TaggedRpc.Proofs.Schema.Audits
import TaggedRpc.Proofs.Decode.Unambiguous
import TaggedRpc.Proofs.Text.ByteOrder
import TaggedRpc.Proofs.Text.Numbers
import TaggedRpc.Proofs.Text.SingleLine
import TaggedRpc.Proofs.Schema.Insertions
import TaggedRpc.Proofs.Schema.Registries
import TaggedRpc.Proofs.Summary.Order
import TaggedRpc.Proofs.Tree.Lines
import TaggedRpc.Proofs.Decode.Lines
import TaggedRpc.Proofs.Summary.Lines
