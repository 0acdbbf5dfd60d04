import TaggedRpc.Wire.Read

/-!
# Progress of reads

Every read moves its cursor on by at least the size of what it read, and no read, not even one that
fails, moves it back (`Advances`). Loops over a buffer end because of this.
-/

namespace TaggedRpc

variable {ε σ α β : Type}

/-- An action on a state with a place: if it succeeds it moves the place on by at least `count`, and
if it fails it does not move it back. -/
def Advances (place : σ → Nat) (count : Nat) (act : EStateM ε σ α) : Prop :=
  ∀ s, match act s with
    | .ok _ t => place s + count ≤ place t
    | .error _ t => place s ≤ place t

/-- Two actions in a row succeed exactly when both do, one after the other. -/
theorem bind_eq_ok_iff {act : EStateM ε σ α} {next : α → EStateM ε σ β} {s u : σ} {b : β} :
    (act >>= next) s = .ok b u ↔ ∃ a t, act s = .ok a t ∧ next a t = .ok b u := by
  change EStateM.bind act next s = .ok b u ↔ _
  unfold EStateM.bind
  cases act s with
  | error e t => simp
  | ok a t =>
    constructor
    · exact fun outcome => ⟨a, t, rfl, outcome⟩
    · rintro ⟨_, _, ⟨⟩, outcome⟩
      exact outcome

/-- A result without an action succeeds with itself. -/
theorem pure_eq_ok_iff {a b : α} {s t : σ} :
    (pure a : EStateM ε σ α) s = .ok b t ↔ a = b ∧ s = t := by
  change EStateM.Result.ok a s = .ok b t ↔ _
  rw [EStateM.Result.ok.injEq]

/-- A failure does not succeed. -/
theorem throw_ne_ok {e : ε} {a : α} {s t : σ} :
    (throw e : EStateM ε σ α) s ≠ .ok a t := by
  intro outcome
  change EStateM.Result.error e s = .ok a t at outcome
  cases outcome

namespace Advances

variable {place : σ → Nat} {m n : Nat} {act : EStateM ε σ α}

/-- A result without an action moves nothing. -/
theorem pure (a : α) : Advances place 0 (Pure.pure a : EStateM ε σ α) := fun _ => Nat.le_refl _

/-- A failure moves nothing, so it may promise any progress. -/
theorem throw (e : ε) : Advances place n (MonadExcept.throw e : EStateM ε σ α) :=
  fun _ => Nat.le_refl _

/-- Less progress may be promised. -/
theorem weaken (advances : Advances place n act) (less : m ≤ n) : Advances place m act := by
  intro s
  have step := advances s
  split <;> rename_i outcome <;> rw [outcome] at step <;> dsimp only at step <;> omega

/-- Two actions in a row add up their progress. -/
theorem bind {next : α → EStateM ε σ β} (first : Advances place m act)
    (second : ∀ a, Advances place n (next a)) : Advances place (m + n) (act >>= next) := by
  intro s
  have step := first s
  change match EStateM.bind act next s with
    | .ok _ t => place s + (m + n) ≤ place t
    | .error _ t => place s ≤ place t
  unfold EStateM.bind
  cases outcome : act s with
  | error e t => rw [outcome] at step; exact step
  | ok a t =>
    rw [outcome] at step
    have after := second a t
    dsimp only at step ⊢
    split <;> rename_i result <;> rw [result] at after <;> dsimp only at after <;> omega

/-- A function of the result does not change the progress. -/
theorem map (f : α → β) (advances : Advances place n act) : Advances place n (f <$> act) := by
  intro s
  have step := advances s
  change match EStateM.map f act s with
    | .ok _ t => place s + n ≤ place t
    | .error _ t => place s ≤ place t
  unfold EStateM.map
  cases outcome : act s <;> rw [outcome] at step <;> exact step

/-- An action that succeeds has moved on. -/
theorem le_of_ok {s t : σ} {a : α} (advances : Advances place n act) (outcome : act s = .ok a t) :
    place s + n ≤ place t := by
  have step := advances s
  rw [outcome] at step
  exact step

/-- An action that fails has not moved back. -/
theorem le_of_error {s t : σ} {e : ε} (advances : Advances place n act)
    (outcome : act s = .error e t) : place s ≤ place t := by
  have step := advances s
  rw [outcome] at step
  exact step

end Advances

namespace Read

variable {buf : ByteArray} {n : Nat}

/-- A read that is undone by failure keeps the progress of success. -/
theorem advances_atomically {read : Read buf α} (advances : Advances Cursor.pos n read) :
    Advances Cursor.pos n (atomically read) := by
  intro c
  have step := advances c
  unfold atomically
  cases outcome : read c with
  | ok a d =>
    rw [outcome] at step
    exact step
  | error fault d => exact Nat.le_refl _

/-- Reading bytes moves on by their number. -/
theorem advances_bytes (count : Nat) :
    Advances Cursor.pos count (bytes count : Read buf ByteArray) := by
  intro c
  unfold bytes
  split <;> rename_i outcome <;> split at outcome <;> cases outcome
  · exact Nat.le_refl _
  · exact Nat.le_refl _

/-- Passing bytes moves on by their number. -/
theorem advances_advance (count : Nat) :
    Advances Cursor.pos count (advance count : Read buf Unit) := by
  intro c
  unfold advance
  split <;> rename_i outcome <;> split at outcome <;> cases outcome
  · exact Nat.le_refl _
  · exact Nat.le_refl _

/-- Reading a number moves on by its width. -/
theorem advances_natural (width : Nat) :
    Advances Cursor.pos width (natural width : Read buf Nat) :=
  (advances_bytes width).bind fun _ => Advances.pure _

/-- Reading an unsigned byte moves on by one byte. -/
theorem advances_uint8 : Advances Cursor.pos 1 (uint8 : Read buf UInt8) :=
  (advances_natural 1).map _

/-- Reading a signed byte moves on by one byte. -/
theorem advances_int8 : Advances Cursor.pos 1 (int8 : Read buf Int8) :=
  (advances_natural 1).map _

/-- Reading a short integer moves on by two bytes. -/
theorem advances_int16 : Advances Cursor.pos 2 (int16 : Read buf Int16) :=
  (advances_natural 2).map _

/-- Reading an integer moves on by four bytes. -/
theorem advances_int32 : Advances Cursor.pos 4 (int32 : Read buf Int32) :=
  (advances_natural 4).map _

/-- Reading a long integer moves on by eight bytes. -/
theorem advances_int64 : Advances Cursor.pos 8 (int64 : Read buf Int64) :=
  (advances_natural 8).map _

/-- Reading a double moves on by eight bytes. -/
theorem advances_double : Advances Cursor.pos 8 (double : Read buf Binary64) :=
  (advances_natural 8).map _

/-- Reading a length moves on by four bytes. -/
theorem advances_length : Advances Cursor.pos 4 (length : Read buf Nat) := by
  refine advances_atomically (advances_int32.bind (n := 0) fun n => ?_)
  split
  · exact Advances.throw _
  · exact Advances.pure _

/-- Reading a length under a ceiling moves on by four bytes. -/
theorem advances_lengthUpTo (ceiling : Nat) :
    Advances Cursor.pos 4 (lengthUpTo ceiling : Read buf Nat) := by
  refine advances_atomically (advances_length.bind (n := 0) fun n => ?_)
  split
  · exact Advances.throw _
  · exact Advances.pure _

/-- Reading a string moves on by its length word at least. -/
theorem advances_string : Advances Cursor.pos 4 (string : Read buf String) :=
  advances_atomically <| (advances_lengthUpTo _).bind (n := 0) fun n =>
    ((advances_bytes n).weaken (Nat.zero_le n)).bind fun _ => Advances.pure _

/-- Passing a string moves on by its length word at least. -/
theorem advances_skipString : Advances Cursor.pos 4 (skipString : Read buf Unit) :=
  advances_atomically <| advances_length.bind (n := 0) fun n =>
    (advances_advance n).weaken (Nat.zero_le n)

end Read

end TaggedRpc
