/-!
# Envelopes

What a message says about itself before its body: the method, the kind of message, the number that
its sender chose, and which of the two header layouts it uses. Kinds and their bytes determine one
another, except that an unknown kind may be given the byte of a known one (`ofByte_toByte_iff`).
-/

namespace TaggedRpc

/-- The kinds of message. -/
inductive Kind where
  /-- A request. -/
  | call
  /-- An answer. -/
  | reply
  /-- An answer that reports a failure. -/
  | exception
  /-- A request that has no answer. -/
  | oneWay
  /-- Any other byte. -/
  | unknown (byte : UInt8)
  deriving DecidableEq, Repr

namespace Kind

/-- The kind of a byte. -/
def ofByte (b : UInt8) : Kind :=
  match b.toNat with
  | 1 => call
  | 2 => reply
  | 3 => exception
  | 4 => oneWay
  | _ => unknown b

/-- The byte of a kind. -/
def toByte : Kind → UInt8
  | call => 1
  | reply => 2
  | exception => 3
  | oneWay => 4
  | unknown b => b

/-- The name of a kind in reports. -/
def label : Kind → String
  | call => "CALL"
  | reply => "REPLY"
  | exception => "EXCEPTION"
  | oneWay => "ONEWAY"
  | unknown b => s!"UNKNOWN({b.toNat})"

/-- Every byte is the byte of its kind. -/
@[simp] theorem toByte_ofByte (b : UInt8) : (ofByte b).toByte = b := by
  unfold ofByte
  split <;> simp_all [toByte, ← UInt8.toNat_inj]

/-- A kind is read back from its byte exactly when it is the kind of some byte. -/
theorem ofByte_toByte_iff (kind : Kind) : ofByte kind.toByte = kind ↔ ∃ b, ofByte b = kind :=
  ⟨fun same => ⟨_, same⟩, fun ⟨b, same⟩ => by rw [← same, toByte_ofByte]⟩

end Kind

/-- The two header layouts. -/
inductive Framing where
  /-- A version and the kind come first. -/
  | strict
  /-- The length of the method comes first. -/
  | legacy
  deriving DecidableEq, Repr

/-- What a message says about itself before its body. -/
structure Envelope where
  /-- The method that is called or answered. -/
  method : String
  /-- The kind of message. -/
  kind : Kind
  /-- The number by which the sender tells answers apart. -/
  sequenceId : Int32
  /-- The header layout. -/
  framing : Framing
  deriving DecidableEq, Repr

end TaggedRpc
