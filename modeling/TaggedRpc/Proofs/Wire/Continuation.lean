import TaggedRpc.Envelope.Read
import TaggedRpc.Proofs.Wire.Machine

/-!
# Reads with more bytes behind

The same read at two places in two buffers, where the bytes behind the second place are those behind
the first one and then some more (`Cursor.Continues`). What is read at the first place is read at
the second one as well, and a fault that is not a truncation stays (`Read.Lasting`). If a read is
cut short at the first place, then at the second one it either fails or uses up some of the bytes
that come behind. Without such bytes the two reads are the same, except that a truncation says
another offset if the second place has more bytes before it.
-/

namespace TaggedRpc

variable {buf buf' : ByteArray} {shift : Nat} {more : List UInt8} {α β : Type}

namespace Fault

/-- The same fault in a buffer with some more bytes in front. -/
def moved (shift : Nat) : Fault → Fault
  | truncated offset needed available => truncated (offset + shift) needed available
  | fault => fault

/-- No more bytes in front make no difference. -/
@[simp] theorem moved_zero (fault : Fault) : fault.moved 0 = fault := by cases fault <;> rfl

/-- Bytes in front make no difference to a fault that is not a truncation. -/
theorem moved_of_firm {fault : Fault} (firm : fault.isTruncation = false) :
    fault.moved shift = fault := by
  cases fault with
  | truncated => cases firm
  | _ => rfl

end Fault

namespace Cursor

/-- Two places, of which the second has `shift` more bytes before it, and behind it the bytes behind
the first one and then `more`. -/
structure Continues (shift : Nat) (more : List UInt8) (c : Cursor buf) (d : Cursor buf') :
    Prop where
  pos : d.pos = c.pos + shift
  rest : d.rest = c.rest ++ more

/-- The second place has more bytes behind it by the number of those that follow. -/
theorem Continues.remaining {c : Cursor buf} {d : Cursor buf'} (place : c.Continues shift more d) :
    d.remaining = c.remaining + more.length := by
  rw [← length_rest, ← length_rest, place.rest, List.length_append]

/-- Passing the same bytes at both places leads to two such places. -/
theorem Continues.forward {c : Cursor buf} {d : Cursor buf'} (place : c.Continues shift more d)
    {count : Nat} (enough : count ≤ c.remaining) (enough' : count ≤ d.remaining) :
    (c.forward count enough).Continues shift more (d.forward count enough') := by
  constructor
  · rw [pos_forward, pos_forward, place.pos]
    omega
  · rw [rest_forward, rest_forward, place.rest, List.drop_append_of_le_length]
    rw [length_rest]
    exact enough

/-- The bytes in front of a place spell what is extracted there. -/
theorem toList_extract (c : Cursor buf) (count : Nat) :
    (buf.extract c.pos (c.pos + count)).data.toList = c.rest.take count := by
  rw [ByteArray.data_extract, Array.toList_extract, List.extract_eq_take_drop,
    Nat.add_sub_cancel_left]
  rfl

/-- What is extracted at two such places is the same, as far as the first buffer goes. -/
theorem Continues.extract {c : Cursor buf} {d : Cursor buf'} (place : c.Continues shift more d)
    {count : Nat} (enough : count ≤ c.remaining) :
    buf'.extract d.pos (d.pos + count) = buf.extract c.pos (c.pos + count) := by
  apply ByteArray.ext
  apply Array.ext'
  rw [toList_extract, toList_extract, place.rest, List.take_append_of_le_length]
  rw [length_rest]
  exact enough

/-- The same place with more bytes behind the buffer. -/
def extend (c : Cursor buf) (suffix : ByteArray) : Cursor (buf ++ suffix) :=
  ⟨c.pos, by
    rw [ByteArray.size_append]
    exact Nat.le_trans c.pos_le_size (Nat.le_add_right _ _)⟩

/-- With more bytes behind the buffer they follow at the same place. -/
theorem extend_continues (c : Cursor buf) (suffix : ByteArray) :
    c.Continues 0 suffix.data.toList (c.extend suffix) where
  pos := rfl
  rest := by
    change (buf ++ suffix).data.toList.drop c.pos = buf.data.toList.drop c.pos ++ _
    rw [ByteArray.data_append, Array.toList_append, List.drop_append_of_le_length]
    rw [Array.length_toList, ByteArray.size_data]
    exact c.pos_le_size

/-- No other place in the longer buffer has as many bytes before it. -/
theorem Continues.eq_extend {c : Cursor buf} {suffix : ByteArray} {d : Cursor (buf ++ suffix)}
    (place : c.Continues 0 more d) : d = c.extend suffix := ext place.pos

end Cursor

namespace Read

/-- An outcome that, if it is a success, has used up some of the bytes that come behind. -/
def UsesUp (more : List UInt8) (outcome : EStateM.Result Fault (Cursor buf) α) : Prop :=
  ∀ a d, outcome = .ok a d → d.remaining < more.length

/-- The outcome of a read, and its outcome where more bytes follow. -/
inductive Continued (shift : Nat) (more : List UInt8) :
    EStateM.Result Fault (Cursor buf) α → EStateM.Result Fault (Cursor buf') α → Prop where
  /-- What is read stays. -/
  | ok {a : α} {c : Cursor buf} {d : Cursor buf'} (place : c.Continues shift more d) :
    Continued shift more (.ok a c) (.ok a d)
  /-- A fault stays. -/
  | error {fault : Fault} {c : Cursor buf} {d : Cursor buf'} (place : c.Continues shift more d) :
    Continued shift more (.error fault c) (.error (fault.moved shift) d)
  /-- A truncation may be cured by the bytes that follow. -/
  | cut {fault : Fault} {c : Cursor buf} {outcome : EStateM.Result Fault (Cursor buf') α}
    (short : fault.isTruncation) (follow : more ≠ []) (uses : UsesUp more outcome) :
    Continued shift more (.error fault c) outcome

/-- Two reads in a row continue if the first ones do, and the second ones from where these end.
Where the first read is cut short, the second one only uses up more. -/
theorem Continued.bind {read : Read buf α} {read' : Read buf' α} {c : Cursor buf} {d : Cursor buf'}
    (first : Continued shift more (read c) (read' d)) {next : α → Read buf β}
    {next' : α → Read buf' β}
    (second : ∀ a c₁ d₁, read c = .ok a c₁ → c₁.Continues shift more d₁ →
      Continued shift more (next a c₁) (next' a d₁))
    (forth : ∀ a c b d, next' a c = .ok b d → c.pos ≤ d.pos) :
    Continued shift more ((read >>= next) c) ((read' >>= next') d) := by
  generalize left : read c = outcome at first
  generalize right : read' d = outcome' at first
  cases first with
  | ok place =>
    rw [bind_of_ok left, bind_of_ok right]
    exact second _ _ _ left place
  | error place =>
    rw [bind_of_error left, bind_of_error right]
    exact .error place
  | cut short follow uses =>
    rw [bind_of_error left]
    refine .cut short follow fun b e done => ?_
    obtain ⟨a, d₁, passed, rest⟩ := bind_eq_ok_iff.mp done
    have used := uses a d₁ (right.symm.trans passed)
    have moved := forth _ _ _ _ rest
    have before := d₁.pos_add_remaining
    have after := e.pos_add_remaining
    omega

/-- What is read with more bytes behind, and does not use them up, is read without them. -/
theorem Continued.of_within {outcome : EStateM.Result Fault (Cursor buf) α} {a : α}
    {d : Cursor buf'} (continued : Continued shift more outcome (.ok a d))
    (within : more.length ≤ d.remaining) : ∃ c, outcome = .ok a c ∧ c.Continues shift more d := by
  cases continued with
  | ok place => exact ⟨_, rfl, place⟩
  | cut short follow uses => exact absurd (uses _ _ rfl) (Nat.not_lt_of_le within)

/-- A read at the first place and one at the second, which do the same as far as the first buffer
goes. The second one does not move back. -/
structure Lasting (shift : Nat) (more : List UInt8) (read : Read buf α) (read' : Read buf' α) :
    Prop where
  outcome : ∀ {c d}, c.Continues shift more d → Continued shift more (read c) (read' d)
  forth : ∀ {c a d}, read' c = .ok a d → c.pos ≤ d.pos

namespace Lasting

variable {read : Read buf α} {read' : Read buf' α}

/-- A result without an action lasts. -/
theorem pure (a : α) :
    Lasting shift more (Pure.pure a : Read buf α) (Pure.pure a : Read buf' α) where
  outcome place := .ok place
  forth same := by
    obtain ⟨-, rfl⟩ := pure_eq_ok_iff.mp same
    exact Nat.le_refl _

/-- A failure lasts, if it is not a truncation. -/
theorem throw {fault : Fault} (firm : fault.isTruncation = false) :
    Lasting shift more (MonadExcept.throw fault : Read buf α)
      (MonadExcept.throw fault : Read buf' α) where
  outcome place := by
    change Continued shift more (.error fault _) (.error fault _)
    have failed : Continued shift more (.error fault _ : EStateM.Result _ _ α)
        (.error (fault.moved shift) _) := .error place
    rwa [Fault.moved_of_firm firm] at failed
  forth same := absurd same throw_ne_ok

/-- Where the first of two lasting reads fails, the second one uses up more, if it succeeds. -/
theorem usesUp_of_error (lasting : Lasting shift more read read') {fault : Fault}
    {c c₁ : Cursor buf} {d : Cursor buf'} (place : c.Continues shift more d)
    (failed : read c = .error fault c₁) : UsesUp more (read' d) := by
  have here := lasting.outcome place
  rw [failed] at here
  generalize read' d = outcome at here
  cases here with
  | error => exact nofun
  | cut short follow uses => exact uses

/-- Two lasting reads in a row last. -/
theorem bind (first : Lasting shift more read read') {next : α → Read buf β}
    {next' : α → Read buf' β} (second : ∀ a, Lasting shift more (next a) (next' a)) :
    Lasting shift more (read >>= next) (read' >>= next') where
  outcome place := (first.outcome place).bind (fun a _ _ _ place => (second a).outcome place)
    fun a _ _ _ => (second a).forth
  forth {c b e} done := by
    obtain ⟨a, d, passed, rest⟩ := bind_eq_ok_iff.mp done
    exact Nat.le_trans (first.forth passed) ((second a).forth rest)

/-- A function of what is read lasts. -/
theorem map (lasting : Lasting shift more read read') (f : α → β) :
    Lasting shift more (f <$> read) (f <$> read') := by
  rw [map_eq_pure_bind, map_eq_pure_bind]
  exact lasting.bind fun a => .pure (f a)

/-- An undone read lasts if the read does. -/
theorem atomically (lasting : Lasting shift more read read') :
    Lasting shift more (atomically read) (atomically read') where
  outcome {c d} place := by
    have here := lasting.outcome place
    unfold Read.atomically
    cases left : read c with
    | ok a c₁ =>
      rw [left] at here
      generalize read' d = outcome at here ⊢
      cases here with
      | ok place₁ => exact .ok place₁
    | error fault c₁ =>
      rw [left] at here
      generalize read' d = outcome at here ⊢
      cases here with
      | error => exact .error place
      | cut short follow uses =>
        refine .cut short follow fun a e done => ?_
        cases outcome with
        | ok b d₁ =>
          cases done
          exact uses a e rfl
        | error => cases done
  forth done := lasting.forth (atomically_eq_ok_iff.mp done)

end Lasting

/-! ## Bytes and numbers -/

/-- A read of as many bytes as it says lasts, if what it makes of them is the same. Where the bytes
do not suffice, nothing may follow, and then they do not suffice at the second place either. -/
private theorem lasting_of_span {read : Read buf α} {read' : Read buf' α} {count : Nat}
    {value : Cursor buf → α} {value' : Cursor buf' → α}
    (reads : ∀ c, read c = if enough : count ≤ c.remaining then
      .ok (value c) (c.forward count enough) else .error (shortage c count) c)
    (reads' : ∀ d, read' d = if enough : count ≤ d.remaining then
      .ok (value' d) (d.forward count enough) else .error (shortage d count) d)
    (same : ∀ {c d}, c.Continues shift more d → count ≤ c.remaining → value' d = value c) :
    Lasting shift more read read' where
  outcome {c d} place := by
    have size := place.remaining
    rw [reads, reads']
    by_cases enough : count ≤ c.remaining
    · rw [dif_pos enough, dif_pos (by omega), same place enough]
      exact .ok (place.forward enough _)
    · rw [dif_neg enough]
      -- A shortage is the same fault on both sides if nothing follows, and may be cured if not.
      by_cases follow : more = []
      · rw [follow, List.length_nil, Nat.add_zero] at size
        rw [dif_neg (by omega), shortage, shortage, size, place.pos]
        change Continued shift more _
          (.error ((Fault.truncated c.pos count c.remaining).moved shift) d)
        exact .error place
      · refine .cut rfl follow fun a e done => ?_
        split at done <;> cases done
        have before := d.pos_add_remaining
        have after := (d.forward count ‹_›).pos_add_remaining
        rw [Cursor.pos_forward] at after
        omega
  forth {c a d} done := by
    rw [reads'] at done
    split at done <;> cases done
    exact Nat.le_add_right c.pos count

/-- Passing bytes lasts. -/
theorem lasting_advance (count : Nat) :
    Lasting shift more (advance count : Read buf Unit) (advance count : Read buf' Unit) :=
  lasting_of_span (fun _ => rfl) (fun _ => rfl) fun _ _ => rfl

/-- Reading bytes lasts. -/
theorem lasting_bytes (count : Nat) :
    Lasting shift more (bytes count : Read buf ByteArray) (bytes count : Read buf' ByteArray) :=
  lasting_of_span (fun _ => rfl) (fun _ => rfl) fun place enough => place.extract enough

/-- Reading a number lasts. -/
theorem lasting_natural (width : Nat) :
    Lasting shift more (natural width : Read buf Nat) (natural width : Read buf' Nat) :=
  (lasting_bytes width).bind fun _ => .pure _

/-- Reading an unsigned byte lasts. -/
theorem lasting_uint8 : Lasting shift more (uint8 : Read buf UInt8) (uint8 : Read buf' UInt8) :=
  (lasting_natural 1).map _

/-- Reading a signed byte lasts. -/
theorem lasting_int8 : Lasting shift more (int8 : Read buf Int8) (int8 : Read buf' Int8) :=
  (lasting_natural 1).map _

/-- Reading a short integer lasts. -/
theorem lasting_int16 : Lasting shift more (int16 : Read buf Int16) (int16 : Read buf' Int16) :=
  (lasting_natural 2).map _

/-- Reading an integer lasts. -/
theorem lasting_int32 : Lasting shift more (int32 : Read buf Int32) (int32 : Read buf' Int32) :=
  (lasting_natural 4).map _

/-- Reading a long integer lasts. -/
theorem lasting_int64 : Lasting shift more (int64 : Read buf Int64) (int64 : Read buf' Int64) :=
  (lasting_natural 8).map _

/-- Reading a double lasts. -/
theorem lasting_double :
    Lasting shift more (double : Read buf Binary64) (double : Read buf' Binary64) :=
  (lasting_natural 8).map _

/-! ## Lengths and text -/

/-- Reading a length lasts. -/
theorem lasting_length : Lasting shift more (length : Read buf Nat) (length : Read buf' Nat) := by
  refine (lasting_int32.bind fun n => ?_).atomically
  split
  · exact .throw rfl
  · exact .pure _

/-- Reading a length under a ceiling lasts. -/
theorem lasting_lengthUpTo (ceiling : Nat) :
    Lasting shift more (lengthUpTo ceiling : Read buf Nat)
      (lengthUpTo ceiling : Read buf' Nat) := by
  refine (lasting_length.bind fun n => ?_).atomically
  split
  · exact .throw rfl
  · exact .pure _

/-- Reading a string lasts. -/
theorem lasting_string :
    Lasting shift more (string : Read buf String) (string : Read buf' String) :=
  ((lasting_lengthUpTo _).bind fun n => (lasting_bytes n).bind fun _ => .pure _).atomically

/-- Passing a string lasts. -/
theorem lasting_skipString :
    Lasting shift more (skipString : Read buf Unit) (skipString : Read buf' Unit) :=
  (lasting_length.bind fun n => lasting_advance n).atomically

end Read

/-! ## Skipping -/

namespace Skipper

open Read (Lasting)

private theorem lasting_enter (limit : Nat) (frame : Frame) (s : Skipper) :
    Lasting shift more (enter limit frame s : Read buf Skipper)
      (enter limit frame s : Read buf' Skipper) := by
  unfold enter
  split
  · exact .throw rfl
  · exact .pure _

private theorem lasting_passItems (limit : Nat) (first second : UInt8) (count : Nat) (s : Skipper) :
    Lasting shift more (passItems limit first second count s : Read buf Skipper)
      (passItems limit first second count s : Read buf' Skipper) := by
  unfold passItems
  split
  · exact .pure _
  · split
    · exact (Read.lasting_advance _).bind fun _ => .pure _
    · exact lasting_enter _ _ _

private theorem lasting_passValue (limit : Nat) (tag : UInt8) (s : Skipper) :
    Lasting shift more (passValue limit tag s : Read buf Skipper)
      (passValue limit tag s : Read buf' Skipper) := by
  unfold passValue
  split
  · exact (Read.lasting_advance _).bind fun _ => .pure _
  · split
    · exact Read.lasting_skipString.bind fun _ => .pure _
    · exact lasting_enter _ _ _
    · refine Read.lasting_uint8.bind fun key => Read.lasting_uint8.bind fun value => ?_
      exact Read.lasting_int32.bind fun count => lasting_passItems _ _ _ _ _
    · refine Read.lasting_uint8.bind fun item => ?_
      exact Read.lasting_int32.bind fun count => lasting_passItems _ _ _ _ _
    · refine Read.lasting_uint8.bind fun item => ?_
      exact Read.lasting_int32.bind fun count => lasting_passItems _ _ _ _ _
    · exact .throw rfl

/-- A step lasts. -/
theorem lasting_step (limit : Nat) (s : Skipper) :
    Lasting shift more (step limit s : Read buf Skipper) (step limit s : Read buf' Skipper) := by
  obtain ⟨frames, room⟩ := s
  rcases frames with _ | ⟨_ | ⟨first, second, _ | left⟩, outer⟩
  · exact .pure _
  · refine Read.lasting_uint8.bind fun tag => ?_
    split
    · exact .pure _
    · exact Read.lasting_int16.bind fun _ => lasting_passValue _ _ _
  · exact .pure _
  · exact lasting_passValue _ _ _

/-- A run lasts. Its steps are the same as long as they succeed at the first place. -/
theorem lasting_run (limit : Nat) (s : Skipper) :
    Lasting shift more (run limit s : Read buf Unit) (run limit s : Read buf' Unit) where
  outcome {c d} place := by
    induction size : s.potential c using Nat.strongRecOn generalizing s c d with
    | ind size ih =>
      obtain ⟨frames, room⟩ := s
      cases frames with
      | nil =>
        rw [run_nil, run_nil]
        exact .ok place
      | cons frame outer =>
        rw [run_cons, run_cons]
        apply ((lasting_step limit _).outcome place).bind
        · intro t c₁ d₁ moved place₁
          have lower := potential_lt_of_step (List.cons_ne_nil _ _) moved
          exact ih _ (size ▸ lower) t place₁ rfl
        · exact fun t _ _ _ done => pos_le_of_drain done
  forth done := pos_le_of_drain done

end Skipper

namespace Read

/-- Skipping a value lasts. -/
theorem lasting_skipValue (limit : Nat) (tag : UInt8) :
    Lasting shift more (skipValue limit tag : Read buf Unit)
      (skipValue limit tag : Read buf' Unit) :=
  ((Skipper.lasting_passValue limit tag _).bind fun s => Skipper.lasting_run limit s).atomically

/-- Skipping items lasts. -/
theorem lasting_skipItems (limit : Nat) (first second : UInt8) (count : Nat) :
    Lasting shift more (skipItems limit first second count : Read buf Unit)
      (skipItems limit first second count : Read buf' Unit) :=
  ((Skipper.lasting_passItems limit first second count _).bind fun s =>
    Skipper.lasting_run limit s).atomically

end Read

/-! ## Headers -/

/-- Reading the header of a field lasts. -/
theorem Decoder.lasting_readHeader :
    Read.Lasting shift more (readHeader : Read buf (Option (UInt8 × Int16)))
      (readHeader : Read buf' (Option (UInt8 × Int16))) := by
  refine Read.lasting_uint8.bind fun tag => ?_
  split
  · exact .pure _
  · exact Read.lasting_int16.bind fun _ => .pure _

namespace Envelope

open Read (Lasting)

private theorem lasting_readStrict (word : UInt32) :
    Lasting shift more (readStrict word : Read buf Envelope)
      (readStrict word : Read buf' Envelope) := by
  have rest : Lasting shift more
      (do return ⟨← Read.string, kindOfWord word, ← Read.int32, .strict⟩ : Read buf Envelope)
      (do return ⟨← Read.string, kindOfWord word, ← Read.int32, .strict⟩ : Read buf' Envelope) :=
    Read.lasting_string.bind fun _ => Read.lasting_int32.bind fun _ => .pure _
  unfold readStrict
  dsimp only
  split
  · exact (Lasting.throw rfl).bind fun _ => rest
  · exact rest

private theorem lasting_readLegacy (length : Nat) :
    Lasting shift more (readLegacy length : Read buf Envelope)
      (readLegacy length : Read buf' Envelope) := by
  have rest : Lasting shift more
      (do
        let method ← Read.bytes length
        return ⟨Text.ofBytes method, .ofByte (← Read.uint8), ← Read.int32, .legacy⟩ :
          Read buf Envelope)
      (do
        let method ← Read.bytes length
        return ⟨Text.ofBytes method, .ofByte (← Read.uint8), ← Read.int32, .legacy⟩ :
          Read buf' Envelope) :=
    (Read.lasting_bytes length).bind fun _ => Read.lasting_uint8.bind fun _ =>
      Read.lasting_int32.bind fun _ => .pure _
  unfold readLegacy
  dsimp only
  split
  · exact (Lasting.throw rfl).bind fun _ => rest
  · exact rest

/-- Reading the header of a message lasts. -/
theorem lasting_read :
    Lasting shift more (read : Read buf Envelope) (read : Read buf' Envelope) := by
  refine Read.lasting_int32.bind fun word => ?_
  split
  · exact lasting_readStrict _
  · exact lasting_readLegacy _

end Envelope

end TaggedRpc
