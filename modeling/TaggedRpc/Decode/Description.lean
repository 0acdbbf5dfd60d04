import TaggedRpc.Decode.Decoder

/-!
# Descriptions of decoders

A decoder in words: its place, its limits, and why synchronisation was lost.
-/

namespace TaggedRpc

/-- Limits in words. -/
def Limits.description (limits : Limits) : String :=
  "DecoderConfig \x7b max_depth: " ++ toString limits.maxDepth ++
    ", max_collection_len: " ++ toString limits.maxCollectionSize ++
    ", max_total_elements: " ++ toString limits.maxElements ++
    ", resync_placeholders: " ++ toString limits.skipUnbuilt ++
    ", max_skip_depth: " ++ toString limits.maxSkipDepth ++ " \x7d"

/-- A decoder in words. -/
def Decoder.description {buf : ByteArray} (limits : Limits) (s : Decoder buf) : String :=
  let desync :=
    match s.desyncReason with
    | none => "None"
    | some reason => "Some(" ++ Text.quote reason ++ ")"
  "Decoder \x7b position: " ++ toString s.pos ++ ", len: " ++ toString buf.size ++
    ", config: " ++ limits.description ++ ", desync: " ++ desync ++ ", .. \x7d"

end TaggedRpc
