import TaggedRpc.Wire.Skipper.Potential

/-!
# Skipping values

Passing a whole value by its tag, whatever it holds. Skipping needs the bytes of the value to be
there and its tags to be assigned, but sets no ceiling on its strings. A value that cannot be
skipped leaves the cursor where it was.
-/

namespace TaggedRpc

namespace Skipper

variable {buf : ByteArray}

/-- Go on until every container is left. -/
def drain (limit : Nat) (s : Skipper) (c : Cursor buf) : EStateM.Result Fault (Cursor buf) Unit :=
  if _ : s.frames = [] then .ok () c
  else
    match _ : step limit s c with
    | .error fault d => .error fault d
    | .ok t d => drain limit t d
termination_by s.potential c
decreasing_by apply potential_lt_of_step <;> assumption

/-- A step that succeeds does not move back. -/
theorem pos_le_of_step {limit : Nat} {s t : Skipper} {c d : Cursor buf}
    (outcome : step limit s c = .ok t d) : c.pos ≤ d.pos := by
  obtain ⟨frames, room⟩ := s
  rcases frames with _ | ⟨_ | ⟨first, second, _ | left⟩, outer⟩ <;> simp only [step] at outcome
  · obtain ⟨rfl, rfl⟩ := pure_eq_ok_iff.mp outcome
    exact Nat.le_refl _
  · obtain ⟨tag, c₁, tagRead, outcome⟩ := bind_eq_ok_iff.mp outcome
    have := Read.advances_uint8.le_of_ok tagRead
    split at outcome
    · obtain ⟨rfl, rfl⟩ := pure_eq_ok_iff.mp outcome
      omega
    · obtain ⟨id, c₂, idRead, outcome⟩ := bind_eq_ok_iff.mp outcome
      have := Read.advances_int16.le_of_ok idRead
      have := (frames_of_passValue outcome).1
      omega
  · obtain ⟨rfl, rfl⟩ := pure_eq_ok_iff.mp outcome
    exact Nat.le_refl _
  · exact (frames_of_passValue outcome).1

/-- Going on to the end does not move back. -/
theorem pos_le_of_drain {limit : Nat} {s : Skipper} {c d : Cursor buf}
    (outcome : drain limit s c = .ok () d) : c.pos ≤ d.pos := by
  fun_induction drain limit s c with
  | case1 s c closed =>
    cases outcome
    exact Nat.le_refl _
  | case2 => cases outcome
  | case3 s c isOpen t e moved ih => exact Nat.le_trans (pos_le_of_step moved) (ih outcome)

end Skipper

namespace Read

variable {buf : ByteArray}

/-- Skip a value with a tag, with at most `limit` containers open at a time. -/
def skipValue (limit : Nat) (tag : UInt8) : Read buf Unit := atomically do
  Skipper.drain limit (← Skipper.passValue limit tag (Skipper.idle limit))

/-- Skip a number of items that take turns between two tags. -/
def skipItems (limit : Nat) (first second : UInt8) (count : Nat) : Read buf Unit := atomically do
  Skipper.drain limit (← Skipper.passItems limit first second count (Skipper.idle limit))

/-- A read that is undone by failure does not move back if its success does not. -/
theorem advances_atomically_of_ok {α : Type} {read : Read buf α}
    (forth : ∀ c a d, read c = .ok a d → c.pos ≤ d.pos) :
    Advances Cursor.pos 0 (atomically read) := by
  intro c
  unfold atomically
  cases outcome : read c with
  | ok a d => exact forth c a d outcome
  | error fault d => exact Nat.le_refl _

/-- Skipping a value does not move back. -/
theorem advances_skipValue (limit : Nat) (tag : UInt8) :
    Advances Cursor.pos 0 (skipValue limit tag : Read buf Unit) := by
  refine advances_atomically_of_ok fun c _ d outcome => ?_
  obtain ⟨s, e, passed, drained⟩ := bind_eq_ok_iff.mp outcome
  exact Nat.le_trans (Skipper.frames_of_passValue passed).1 (Skipper.pos_le_of_drain drained)

/-- Skipping items does not move back. -/
theorem advances_skipItems (limit : Nat) (first second : UInt8) (count : Nat) :
    Advances Cursor.pos 0 (skipItems limit first second count : Read buf Unit) := by
  refine advances_atomically_of_ok fun c _ d outcome => ?_
  obtain ⟨s, e, passed, drained⟩ := bind_eq_ok_iff.mp outcome
  exact Nat.le_trans (Skipper.frames_of_passItems passed).1 (Skipper.pos_le_of_drain drained)

end Read

end TaggedRpc
