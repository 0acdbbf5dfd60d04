import TaggedRpc.Wire.Skip

/-!
# Number of steps over a value

How long skipping takes is set by the bytes and not by the counts that they declare. The loop over
the open containers is run with a number of steps at hand (`Skipper.drainWithin`), which suffices
once it is greater than the potential. A skip that starts has opened one container at most, so its
potential is three for each byte left and four for that container (`Skipper.drain_linear`).
-/

namespace TaggedRpc

namespace Skipper

variable {buf : ByteArray} {limit : Nat} {s t : Skipper} {c d : Cursor buf}

/-- Go on until every container is left, by a number of steps at most. Without an outcome the steps
did not suffice. A step that fails counts as well. -/
def drainWithin (limit : Nat) (steps : Nat) (s : Skipper) (c : Cursor buf) :
    Option (EStateM.Result Fault (Cursor buf) Unit) :=
  if s.frames = [] then some (.ok () c)
  else
    match steps with
    | 0 => none
    | left + 1 =>
      match step limit s c with
      | .error fault d => some (.error fault d)
      | .ok t d => drainWithin limit left t d

private theorem drain_of_error {fault : Fault} (isOpen : s.frames ≠ [])
    (failed : step limit s c = .error fault d) : drain limit s c = .error fault d := by
  rw [drain, dif_neg isOpen]
  split
  · next failed' =>
    rw [failed'] at failed
    cases failed
    rfl
  · next moved =>
    rw [moved] at failed
    cases failed

private theorem drain_of_ok (isOpen : s.frames ≠ []) (moved : step limit s c = .ok t d) :
    drain limit s c = drain limit t d := by
  rw [drain, dif_neg isOpen]
  split
  · next failed =>
    rw [failed] at moved
    cases moved
  · next moved' =>
    rw [moved'] at moved
    cases moved
    rfl

/-- More steps than the potential suffice, and they have the outcome of going on to the end. -/
theorem drainWithin_of_potential_lt {steps : Nat} (enough : s.potential c < steps) :
    drainWithin limit steps s c = some (drain limit s c) := by
  induction steps generalizing s c with
  | zero => exact absurd enough (Nat.not_lt_zero _)
  | succ left ih =>
    rw [drainWithin]
    by_cases closed : s.frames = []
    · rw [if_pos closed, drain, dif_pos closed]
    · rw [if_neg closed]
      cases stepped : step limit s c with
      | error fault d => rw [drain_of_error closed stepped]
      | ok t d =>
        rw [drain_of_ok closed stepped]
        have lower := potential_lt_of_step closed stepped
        exact ih (Nat.lt_of_lt_of_le lower (Nat.le_of_lt_succ enough))

/-- If the steps suffice, their outcome is that of going on to the end. -/
theorem drain_eq_of_drainWithin {steps : Nat} {outcome : EStateM.Result Fault (Cursor buf) Unit}
    (stopped : drainWithin limit steps s c = some outcome) : drain limit s c = outcome := by
  fun_induction drainWithin limit steps s c with
  | case1 steps s c closed =>
    rw [drain, dif_pos closed]
    exact Option.some.inj stopped
  | case2 => cases stopped
  | case3 s c isOpen left fault d failed =>
    rw [drain_of_error isOpen failed]
    exact Option.some.inj stopped
  | case4 s c isOpen left t d moved ih =>
    rw [drain_of_ok isOpen moved]
    exact ih stopped

private theorem potential_le_of_frames
    (frames : t.frames = [] ∨ t.frames = [.fields] ∨ ∃ first second count,
      widths? first second = none ∧ t.frames = [.items first second count]) :
    t.potential d ≤ 3 * d.remaining + 4 := by
  unfold potential
  rcases frames with same | same | ⟨first, second, count, mixed, same⟩
  · rw [same]
    exact Nat.le_add_right _ _
  · rw [same]
    exact Nat.le_add_right _ _
  · have few := allowance_items_le mixed count
    rw [same, totalAllowance_cons, innermostAllowance_items, totalAllowance]
    omega

private theorem potential_le_of_passValue {tag : UInt8}
    (passed : passValue limit tag (idle limit) c = .ok t d) :
    t.potential d ≤ 3 * d.remaining + 4 := by
  apply potential_le_of_frames
  obtain ⟨-, ⟨-, same⟩ | ⟨-, opened | ⟨-, same | opened⟩⟩⟩ := frames_of_passValue passed
  · exact .inl same
  · exact .inr (.inl opened)
  · exact .inl same
  · exact .inr (.inr opened)

private theorem potential_le_of_passItems {first second : UInt8} {count : Nat}
    (passed : passItems limit first second count (idle limit) c = .ok t d) :
    t.potential d ≤ 3 * d.remaining + 4 := by
  apply potential_le_of_frames
  obtain ⟨-, same | opened⟩ := frames_of_passItems passed
  · exact .inl same
  · exact .inr (.inr ⟨_, _, _, opened⟩)

/-- As many steps as three for each byte of the buffer and five more suffice from a potential that a
skip can start with. -/
theorem drainWithin_bytes (potential : s.potential c ≤ 3 * c.remaining + 4) :
    drainWithin limit (3 * buf.size + 5) s c = some (drain limit s c) := by
  have total := c.pos_add_remaining
  apply drainWithin_of_potential_lt
  omega

/-- Skipping takes a number of steps that is linear in the bytes, whatever is declared in them.
Wherever a value with any tag or any number of items with any two tags are skipped, and however many
containers may be open, the loop over the open containers stops after three steps for each byte of
the buffer and five more. -/
theorem drain_linear (limit : Nat) (c : Cursor buf) :
    (∀ (tag : UInt8) (s : Skipper) (d : Cursor buf),
      passValue limit tag (idle limit) c = .ok s d →
        drainWithin limit (3 * buf.size + 5) s d = some (drain limit s d)) ∧
    (∀ (first second : UInt8) (count : Nat) (s : Skipper) (d : Cursor buf),
      passItems limit first second count (idle limit) c = .ok s d →
        drainWithin limit (3 * buf.size + 5) s d = some (drain limit s d)) := by
  constructor
  · intro tag s d passed
    exact drainWithin_bytes (potential_le_of_passValue passed)
  · intro first second count s d passed
    exact drainWithin_bytes (potential_le_of_passItems passed)

/-- A map that declares as many entries as it can, from nothing to strings, and has two strings. -/
def vastMap : ByteArray :=
  ⟨#[1, 11, 127, 255, 255, 255, 0, 0, 0, 1, 120, 0, 0, 0, 0]⟩

/-- The map declares 4294967294 items, and the loop over them stops, as it fails
where the third string is missing. -/
theorem drain_vastMap :
    ∃ s d e, passValue 64 Tag.map.toByte (idle 64) (Cursor.start vastMap) = .ok s d ∧
      s.frames = [.items 1 11 4294967294] ∧
      drainWithin 64 50 s d = some (drain 64 s d) ∧
      drain 64 s d = .error (.truncated 15 4 0) e := by
  have opened : passValue 64 Tag.map.toByte (idle 64) (Cursor.start vastMap) =
      .ok ⟨[.items 1 11 4294967294], 63⟩ ⟨6, by decide⟩ := by
    rfl
  have stopped := (drain_linear 64 (Cursor.start vastMap)).1 _ _ _ opened
  have run : drainWithin 64 50 ⟨[.items 1 11 4294967294], 63⟩ (⟨6, by decide⟩ : Cursor vastMap) =
      some (.error (.truncated 15 4 0) ⟨15, by decide⟩) := by
    rfl
  exact ⟨_, _, _, opened, rfl, stopped, drain_eq_of_drainWithin run⟩

end Skipper

end TaggedRpc
