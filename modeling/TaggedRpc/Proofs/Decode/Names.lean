import TaggedRpc.Proofs.Decode.InStep
import TaggedRpc.Proofs.Schema.Keys

/-!
# Names make no difference

What a registry says about the names of fields changes the keys of a message and nothing else
(`decode_names`). Names that do not tell all fields apart may hide a field behind another one, but
even then as many bytes are read, with the same outcome.
-/

namespace TaggedRpc

variable {limits : Limits} {registry registry' : Option Registry} {buf : ByteArray}

private theorem Cursor.continues_self (c : Cursor buf) : c.Continues 0 [] c :=
  ⟨rfl, (List.append_nil _).symm⟩

private theorem Labels.hidesShift_zero (labels : Labels) : labels.HidesShift 0 :=
  fun desync => by rw [Desync.moved_zero]

/-- Two messages that are the same but for the keys of their fields and the origin of these. The
keys may be exchanged for others that are made from the numbers, if all fields have different keys
in both messages. -/
structure Message.Renamed (names names' : FieldNames) (message message' : Message) : Prop where
  envelope : message'.envelope = message.envelope
  protocol : message'.protocol = message.protocol
  bytesConsumed : message'.bytesConsumed = message.bytesConsumed
  totalBytes : message'.totalBytes = message.totalBytes
  incomplete : message'.fields.incomplete = message.fields.incomplete
  fields : Function.Injective names.keyFor → Function.Injective names'.keyFor →
    ∀ key, message.fields.rekeyed key = message'.fields.rekeyed key

namespace Decoder

/-- Behind the same envelope a message is the same under two registries, but for its keys. -/
theorem renamed (limits : Limits) (registry registry' : Option Registry) (envelope : Envelope)
    (c : Cursor buf) :
    (messageBehind limits registry envelope c).Renamed (namesOf registry envelope)
      (namesOf registry' envelope) (messageBehind limits registry' envelope c) := by
  have paired (key : Int16 → String) := paired_body (Labels.ofNumbers key).hidesShift_zero limits
    registry registry' envelope envelope c.continues_self
  constructor
  · rfl
  · rfl
  · cases paired FieldNames.genericKey with
    | ok _ near => exact near.place.pos
  · rfl
  · cases paired FieldNames.genericKey with
    | ok same _ =>
      have texts := same.1
      rwa [Labels.ofNumbers, Option.map_id, id, id] at texts
  · intro injective injective' key
    cases paired key with
    | ok same _ => exact same.2 (Labels.hides_of_injective injective injective' key)

end Decoder

/-- Names are cosmetic. Under any two registries a message is not decoded for the same reason, or it
is decoded to the same envelope and protocol, with as many bytes and complete alike. If all fields
have different keys under both registries, the two trees are the same when every key is exchanged
for one that is made from the number of its field. -/
theorem decode_names (limits : Limits) (registry registry' : Option Registry) (buf : ByteArray) :
    (∀ error, decode limits registry buf = .error error ↔
      decode limits registry' buf = .error error) ∧
    ∀ message message', decode limits registry buf = .ok message →
      decode limits registry' buf = .ok message' →
        message.Renamed (Decoder.namesOf registry message.envelope)
          (Decoder.namesOf registry' message.envelope) message' := by
  constructor
  · exact fun error => decode_eq_error_iff.trans decode_eq_error_iff.symm
  · intro message message' decoded decoded'
    obtain ⟨envelope, c, header, rfl⟩ := decode_eq_ok_iff.mp decoded
    obtain ⟨envelope', c', header', rfl⟩ := decode_eq_ok_iff.mp decoded'
    -- Names are looked up once the envelope is read, so there is one envelope for both.
    rw [header] at header'
    cases header'
    exact Decoder.renamed limits registry registry' envelope c

/-- A call of a known method with one field, which is a struct with a field of the same number. -/
def closeSessionCall : ByteArray :=
  ⟨#[0x80, 1, 0, 1, 0, 0, 0, 12, 67, 108, 111, 115, 101, 83, 101, 115, 115, 105, 111, 110,
    0, 0, 0, 7, 12, 0, 1, 6, 0, 1, 0, 5, 0, 0]⟩

/-- A registry that has a name for one field of one struct. -/
def closeSessionNames : Registry :=
  .ofList [("TCloseSessionReq", [⟨1, Tag.struct.toByte, "sessionHandle"⟩])]

private theorem get?_closeSessionNames (id : Int16) :
    (Decoder.namesOf (some closeSessionNames) ⟨"CloseSession", .call, 7, .strict⟩).get? id =
      if 1 = id then some "sessionHandle" else none := by
  have found : closeSessionNames.bodyDescriptors? "CloseSession" .call =
      some ("TCloseSessionReq", [⟨1, Tag.struct.toByte, "sessionHandle"⟩]) := by
    decide +kernel
  rw [Decoder.namesOf, FieldNames.resolve]
  dsimp only
  rw [found]
  exact (FieldNames.get?_ofDescriptors_concat [] _ id).trans
    (congrArg (ite (1 = id) (some "sessionHandle")) (FieldNames.get?_empty id))

private theorem keyFor_closeSessionNames_injective :
    Function.Injective
      (Decoder.namesOf (some closeSessionNames) ⟨"CloseSession", .call, 7, .strict⟩).keyFor := by
  apply FieldNames.keyFor_injective
  · intro i j name named named'
    rw [get?_closeSessionNames, Option.ite_none_right_eq_some] at named named'
    exact named.1.symm.trans named'.1
  · intro i name named j same
    rw [get?_closeSessionNames, Option.ite_none_right_eq_some] at named
    have first := FieldNames.head?_genericKey j
    rw [← same, ← Option.some.inj named.2] at first
    cases first

/-- The call without names and with the name of one field. -/
theorem decode_closeSessionCall :
    ∃ message message', decode {} none closeSessionCall = .ok message ∧
      decode {} (some closeSessionNames) closeSessionCall = .ok message' ∧
      message.fields.keys = ["field_1"] ∧ message'.fields.keys = ["sessionHandle"] ∧
      ∀ key, message.fields.rekeyed key = message'.fields.rekeyed key := by
  have run : (decode {} none closeSessionCall).toOption.map
      (fun message => (message.envelope, message.fields.keys)) =
        some (⟨"CloseSession", .call, 7, .strict⟩, ["field_1"]) := by
    decide +kernel
  have run' : (decode {} (some closeSessionNames) closeSessionCall).toOption.map
      (fun message => message.fields.keys) = some ["sessionHandle"] := by
    decide +kernel
  obtain ⟨-, same⟩ := decode_names {} none (some closeSessionNames) closeSessionCall
  obtain ⟨message, decoded, seen⟩ := decode_of_seen run
  obtain ⟨message', decoded', keys⟩ := decode_of_seen run'
  have envelope : message.envelope = ⟨"CloseSession", .call, 7, .strict⟩ := congrArg Prod.fst seen
  have renamed := same message message' decoded decoded'
  rw [envelope] at renamed
  exact ⟨message, message', decoded, decoded', congrArg Prod.snd seen, keys,
    renamed.fields FieldNames.keyFor_empty_injective keyFor_closeSessionNames_injective⟩

end TaggedRpc
