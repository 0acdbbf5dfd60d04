import TaggedRpc.Wire.Progress

/-!
# Outcomes of actions

How actions in a row succeed and fail, and when two actions count as having the same outcome: both
succeed with the same result at the same place, or both fail alike. Two faults are alike if they are
the same, or if both say that the buffer ended early.
-/

namespace TaggedRpc

variable {ε σ α β : Type}

/-- After an action that succeeds, the next one decides. -/
theorem bind_of_ok {act : EStateM ε σ α} {next : α → EStateM ε σ β} {s t : σ} {a : α}
    (outcome : act s = .ok a t) : (act >>= next) s = next a t := by
  change EStateM.bind act next s = _
  rw [EStateM.bind, outcome]

/-- After an action that fails, nothing else happens. -/
theorem bind_of_error {act : EStateM ε σ α} {next : α → EStateM ε σ β} {s t : σ} {e : ε}
    (outcome : act s = .error e t) : (act >>= next) s = .error e t := by
  change EStateM.bind act next s = _
  rw [EStateM.bind, outcome]

/-- A function of the result succeeds exactly when the action does. -/
theorem map_eq_ok_iff {f : α → β} {act : EStateM ε σ α} {s t : σ} {b : β} :
    (f <$> act) s = .ok b t ↔ ∃ a, act s = .ok a t ∧ f a = b := by
  change EStateM.map f act s = .ok b t ↔ _
  unfold EStateM.map
  cases act s with
  | error e u => simp
  | ok a u =>
    constructor
    · intro outcome
      cases outcome
      exact ⟨a, rfl, rfl⟩
    · rintro ⟨_, ⟨⟩, rfl⟩
      rfl

/-- A function of the result fails exactly when the action does. -/
theorem map_eq_error_iff {f : α → β} {act : EStateM ε σ α} {s t : σ} {e : ε} :
    (f <$> act) s = .error e t ↔ act s = .error e t := by
  change EStateM.map f act s = .error e t ↔ _
  unfold EStateM.map
  cases act s <;> simp

namespace Fault

/-- Two faults that say the same, except for where and by how much a buffer is too short. -/
def Alike (f g : Fault) : Prop := f = g ∨ f.isTruncation ∧ g.isTruncation

/-- Every fault is like itself. -/
theorem Alike.refl (f : Fault) : f.Alike f := .inl rfl

/-- Faults that are like the same fault are alike. -/
theorem Alike.trans {f g h : Fault} (first : f.Alike g) (second : g.Alike h) : f.Alike h := by
  rcases first with rfl | ⟨short, middle⟩
  · exact second
  · rcases second with rfl | ⟨-, last⟩
    · exact .inr ⟨short, middle⟩
    · exact .inr ⟨short, last⟩

end Fault

/-- Two outcomes that agree: both are the same success, or both are alike failures. -/
inductive SameOutcome : EStateM.Result Fault σ α → EStateM.Result Fault σ α → Prop where
  | ok (a : α) (s : σ) : SameOutcome (.ok a s) (.ok a s)
  | error {f g : Fault} {s t : σ} (alike : f.Alike g) : SameOutcome (.error f s) (.error g t)

namespace SameOutcome

variable {r₁ r₂ r₃ : EStateM.Result Fault σ α}

/-- Every outcome agrees with itself. -/
theorem refl (r : EStateM.Result Fault σ α) : SameOutcome r r := by
  cases r with
  | ok a s => exact .ok a s
  | error f s => exact .error (Fault.Alike.refl f)

/-- Outcomes that agree with the same outcome agree. -/
theorem trans (first : SameOutcome r₁ r₂) (second : SameOutcome r₂ r₃) : SameOutcome r₁ r₃ := by
  cases first with
  | ok a s => exact second
  | error alike =>
    cases second with
    | error alike' => exact .error (alike.trans alike')

/-- Outcomes that agree are the same successes. -/
theorem eq_ok_iff (same : SameOutcome r₁ r₂) {a : α} {s : σ} : r₁ = .ok a s ↔ r₂ = .ok a s := by
  cases same with
  | ok b t => exact Iff.rfl
  | error alike => simp

/-- Actions in a row agree if the first ones do, and the second ones from where these end. -/
theorem bind {m n : EStateM Fault σ α} {k l : α → EStateM Fault σ β} {s : σ}
    (first : SameOutcome (m s) (n s))
    (second : ∀ a t, m s = .ok a t → SameOutcome (k a t) (l a t)) :
    SameOutcome ((m >>= k) s) ((n >>= l) s) := by
  cases left : m s with
  | ok a t =>
    rw [bind_of_ok left, bind_of_ok (first.eq_ok_iff.mp left)]
    exact second a t left
  | error f t =>
    cases right : n s with
    | ok a u =>
      rw [left, right] at first
      cases first
    | error g u =>
      rw [left, right] at first
      rw [bind_of_error left, bind_of_error right]
      cases first with
      | error alike => exact .error alike

end SameOutcome

/-- Two actions that have the same outcome from every state. -/
def Interchangeable (m n : EStateM Fault σ α) : Prop := ∀ s, SameOutcome (m s) (n s)

namespace Interchangeable

variable {m n : EStateM Fault σ α} {k l : α → EStateM Fault σ β}

/-- Every action is interchangeable with itself. -/
theorem refl (m : EStateM Fault σ α) : Interchangeable m m := fun s => .refl (m s)

/-- Actions in a row may be interchanged one by one. -/
theorem bind (first : Interchangeable m n) (second : ∀ a, Interchangeable (k a) (l a)) :
    Interchangeable (m >>= k) (n >>= l) :=
  fun s => (first s).bind fun a t _ => second a t

end Interchangeable

/-- Undoing a failure does not change what a read is interchangeable with. -/
theorem interchangeable_atomically {buf : ByteArray} (read : Read buf α) :
    Interchangeable (Read.atomically read) read := by
  intro c
  unfold Read.atomically
  cases read c with
  | ok a d => exact .ok a d
  | error f d => exact .error (Fault.Alike.refl f)

end TaggedRpc
