import TaggedRpc.Wire.Progress
import TaggedRpc.Wire.Skipper.Basic

/-!
# Potential of steps over values

A declared count may be far greater than the buffer, and values without bytes exist, so neither the
bytes left nor the items left bound the number of steps over a value. The potential of the open
containers and the bytes left does: every step lowers it (`potential_lt_of_step`), and it is three
for each byte left and at most four for each frame that a value opens.
-/

namespace TaggedRpc

namespace Skipper

variable {buf : ByteArray}

/-- How many steps a frame may take without the help of bytes. Items of fixed width all may, and so
may the end. Otherwise items with and without a fixed width take turns, so two steps in a row
suffice to meet an item that brings bytes or opens a container. -/
def allowance : Frame → Nat
  | .fields => 0
  | .items first second left =>
    if (widths? first second).isSome then left + 1
    else if (Tag.widthOfByte? (itemTag first second left)).isSome then 2
    else 1

/-- The allowances of the open frames together. -/
def totalAllowance : List Frame → Nat
  | [] => 0
  | frame :: outer => allowance frame + totalAllowance outer

/-- One more frame adds its allowance. -/
theorem totalAllowance_cons (frame : Frame) (outer : List Frame) :
    totalAllowance (frame :: outer) = allowance frame + totalAllowance outer := rfl

/-- How many steps the innermost frame may take on top of its own because it is the innermost. -/
def innermostAllowance : List Frame → Nat
  | .items .. :: _ => 2
  | _ => 0

/-- A number that every step lowers: three for each byte left, and the allowances of the frames. -/
def potential (s : Skipper) (c : Cursor buf) : Nat :=
  3 * c.remaining + totalAllowance s.frames + innermostAllowance s.frames

/-- Opening a container adds its frame and moves nothing. -/
theorem frames_of_enter {limit : Nat} {frame : Frame} {s t : Skipper} {c d : Cursor buf}
    (outcome : enter limit frame s c = .ok t d) : t.frames = frame :: s.frames ∧ d = c := by
  cases left : s.room <;> simp only [enter, left] at outcome
  · exact absurd outcome throw_ne_ok
  · obtain ⟨rfl, rfl⟩ := pure_eq_ok_iff.mp outcome
    exact ⟨rfl, rfl⟩

/-- Passing items leaves the frames or adds one of items that are not all of fixed width. -/
theorem frames_of_passItems {limit : Nat} {first second : UInt8} {count : Nat} {s t : Skipper}
    {c d : Cursor buf} (outcome : passItems limit first second count s c = .ok t d) :
    c.pos ≤ d.pos ∧ (t.frames = s.frames ∨
      widths? first second = none ∧ t.frames = .items first second count :: s.frames) := by
  unfold passItems at outcome
  split at outcome
  · obtain ⟨rfl, rfl⟩ := pure_eq_ok_iff.mp outcome
    exact ⟨Nat.le_refl _, .inl rfl⟩
  · cases mixed : widths? first second with
    | some ab =>
      simp only [mixed] at outcome
      obtain ⟨_, e, moved, rest⟩ := bind_eq_ok_iff.mp outcome
      obtain ⟨rfl, rfl⟩ := pure_eq_ok_iff.mp rest
      have := (Read.advances_advance _).le_of_ok moved
      exact ⟨by omega, .inl rfl⟩
    | none =>
      simp only [mixed] at outcome
      obtain ⟨frames, rfl⟩ := frames_of_enter outcome
      exact ⟨Nat.le_refl _, .inr ⟨rfl, frames⟩⟩

/-- Passing a value of fixed width moves on and changes no frame. Passing any other value adds the
frame of a struct, or moves on by four bytes or more and at most adds a frame of items that are not
all of fixed width. -/
theorem frames_of_passValue {limit : Nat} {tag : UInt8} {s t : Skipper} {c d : Cursor buf}
    (outcome : passValue limit tag s c = .ok t d) :
    c.pos ≤ d.pos ∧
      ((Tag.widthOfByte? tag).isSome ∧ t.frames = s.frames ∨
      (Tag.widthOfByte? tag).isSome = false ∧
        (t.frames = .fields :: s.frames ∨
        c.pos + 4 ≤ d.pos ∧ (t.frames = s.frames ∨ ∃ first second count,
          widths? first second = none ∧ t.frames = .items first second count :: s.frames))) := by
  cases fixed : Tag.widthOfByte? tag with
  | some width =>
    simp only [passValue, fixed] at outcome
    obtain ⟨_, e, moved, rest⟩ := bind_eq_ok_iff.mp outcome
    obtain ⟨rfl, rfl⟩ := pure_eq_ok_iff.mp rest
    have := (Read.advances_advance _).le_of_ok moved
    exact ⟨by omega, .inl ⟨rfl, rfl⟩⟩
  | none =>
    have ofItems {e : Cursor buf} {first second : UInt8} {count : Nat} (before : c.pos + 4 ≤ e.pos)
        (outcome : passItems limit first second count s e = .ok t d) :
        c.pos + 4 ≤ d.pos ∧ (t.frames = s.frames ∨ ∃ first second count,
          widths? first second = none ∧ t.frames = .items first second count :: s.frames) := by
      obtain ⟨moved, frames⟩ := frames_of_passItems outcome
      exact ⟨by omega, frames.imp_right fun opened => ⟨_, _, _, opened⟩⟩
    suffices t.frames = .fields :: s.frames ∧ d = c ∨ c.pos + 4 ≤ d.pos ∧
        (t.frames = s.frames ∨ ∃ first second count,
          widths? first second = none ∧ t.frames = .items first second count :: s.frames) by
      rcases this with ⟨opened, rfl⟩ | passed
      · exact ⟨Nat.le_refl _, .inr ⟨rfl, .inl opened⟩⟩
      · exact ⟨by omega, .inr ⟨rfl, .inr passed⟩⟩
    rcases known : Tag.ofByte? tag with _ | assigned
    · simp only [passValue, fixed, known] at outcome
      exact absurd outcome throw_ne_ok
    cases assigned <;> simp only [passValue, fixed, known] at outcome
    case string =>
      obtain ⟨_, e, moved, rest⟩ := bind_eq_ok_iff.mp outcome
      obtain ⟨rfl, rfl⟩ := pure_eq_ok_iff.mp rest
      exact .inr ⟨Read.advances_skipString.le_of_ok moved, .inl rfl⟩
    case struct => exact .inl (frames_of_enter outcome)
    case map =>
      obtain ⟨key, c₁, keyRead, outcome⟩ := bind_eq_ok_iff.mp outcome
      obtain ⟨value, c₂, valueRead, outcome⟩ := bind_eq_ok_iff.mp outcome
      obtain ⟨count, c₃, countRead, outcome⟩ := bind_eq_ok_iff.mp outcome
      have := Read.advances_uint8.le_of_ok keyRead
      have := Read.advances_uint8.le_of_ok valueRead
      have := Read.advances_int32.le_of_ok countRead
      exact .inr (ofItems (by omega) outcome)
    case set | list =>
      obtain ⟨item, c₁, itemRead, outcome⟩ := bind_eq_ok_iff.mp outcome
      obtain ⟨count, c₂, countRead, outcome⟩ := bind_eq_ok_iff.mp outcome
      have := Read.advances_uint8.le_of_ok itemRead
      have := Read.advances_int32.le_of_ok countRead
      exact .inr (ofItems (by omega) outcome)
    all_goals exact absurd outcome throw_ne_ok

/-- A struct has no allowance of its own: each of its fields brings bytes. -/
theorem allowance_fields : allowance .fields = 0 := rfl

/-- The innermost frame adds two if it holds items. -/
theorem innermostAllowance_items {first second : UInt8} {left : Nat} {outer : List Frame} :
    innermostAllowance (.items first second left :: outer) = 2 := rfl

/-- The innermost frame adds nothing if it holds fields. -/
theorem innermostAllowance_fields {outer : List Frame} :
    innermostAllowance (.fields :: outer) = 0 := rfl

/-- The innermost frame adds at most two. -/
theorem innermostAllowance_le (frames : List Frame) : innermostAllowance frames ≤ 2 := by
  unfold innermostAllowance
  split <;> omega

/-- Items that are not all of fixed width have an allowance of one or two. -/
theorem allowance_items_le {first second : UInt8} (mixed : widths? first second = none)
    (left : Nat) : allowance (.items first second left) ≤ 2 := by
  simp only [allowance, mixed, Option.isSome_none, Bool.false_eq_true, if_false]
  split <;> omega

/-- Items have an allowance while they are open. -/
theorem one_le_allowance_items (first second : UInt8) (left : Nat) :
    1 ≤ allowance (.items first second left) := by
  simp only [allowance]
  split
  · omega
  · split <;> omega

/-- Items that have one without a fixed width next are not all of fixed width. -/
theorem widths?_eq_none_of_itemTag {first second : UInt8} {left : Nat}
    (next : (Tag.widthOfByte? (itemTag first second left)).isSome = false) :
    widths? first second = none := by
  rw [Option.isSome_eq_false_iff, Option.isNone_iff_eq_none] at next
  unfold itemTag at next
  unfold widths?
  split at next <;> simp [next]

/-- An item of fixed width uses up one of its frame's allowance. -/
theorem allowance_lt_of_fixed {first second : UInt8} {left : Nat}
    (fixed : (Tag.widthOfByte? (itemTag first second (left + 1))).isSome) :
    allowance (.items first second left) < allowance (.items first second (left + 1)) := by
  cases all : widths? first second with
  | some ab => simp [allowance, all]
  | none =>
    have other : (Tag.widthOfByte? (itemTag first second left)).isSome = false := by
      rw [← Bool.not_eq_true]
      intro other
      obtain ⟨a, fixed⟩ := Option.isSome_iff_exists.mp fixed
      obtain ⟨b, other⟩ := Option.isSome_iff_exists.mp other
      unfold itemTag at fixed other
      unfold widths? at all
      rcases Nat.mod_two_eq_zero_or_one left with even | odd
      · rw [if_neg (by omega)] at fixed
        rw [if_pos even] at other
        simp [fixed, other] at all
      · rw [if_pos (by omega)] at fixed
        rw [if_neg (by omega)] at other
        simp [fixed, other] at all
    simp [allowance, all, fixed, other]

/-- Every step lowers the potential, as long as a container is open. -/
theorem potential_lt_of_step {limit : Nat} {s t : Skipper} {c d : Cursor buf}
    (isOpen : s.frames ≠ []) (outcome : step limit s c = .ok t d) :
    t.potential d < s.potential c := by
  have total := c.pos_add_remaining
  have total' := d.pos_add_remaining
  obtain ⟨frames, room⟩ := s
  unfold potential
  rcases frames with _ | ⟨_ | ⟨first, second, _ | left⟩, outer⟩ <;> simp only [step] at outcome
  · exact absurd rfl isOpen
  · have := innermostAllowance_le outer
    obtain ⟨tag, c₁, tagRead, outcome⟩ := bind_eq_ok_iff.mp outcome
    have := Read.advances_uint8.le_of_ok tagRead
    split at outcome
    · obtain ⟨rfl, rfl⟩ := pure_eq_ok_iff.mp outcome
      simp only [totalAllowance_cons, allowance, innermostAllowance_fields]
      omega
    · obtain ⟨id, c₂, idRead, outcome⟩ := bind_eq_ok_iff.mp outcome
      have := Read.advances_int16.le_of_ok idRead
      obtain ⟨moved, ⟨-, same⟩ | ⟨-, opened | ⟨four, same | ⟨_, _, count, mixed, opened⟩⟩⟩⟩ :=
        frames_of_passValue outcome
      · simp only [same, totalAllowance_cons, allowance, innermostAllowance_fields]
        omega
      · simp only [opened, totalAllowance_cons, allowance, innermostAllowance_fields]
        omega
      · simp only [same, totalAllowance_cons, allowance, innermostAllowance_fields]
        omega
      · have := allowance_items_le mixed count
        rw [opened, totalAllowance_cons, totalAllowance_cons]
        simp only [allowance_fields, innermostAllowance_items, innermostAllowance_fields]
        omega
  · have := one_le_allowance_items first second 0
    have := innermostAllowance_le outer
    obtain ⟨rfl, rfl⟩ := pure_eq_ok_iff.mp outcome
    rw [totalAllowance_cons]
    simp only [innermostAllowance_items]
    omega
  · have := one_le_allowance_items first second (left + 1)
    obtain ⟨moved, ⟨fixed, same⟩ | ⟨free, opened | ⟨four, same | ⟨_, _, count, mixed, opened⟩⟩⟩⟩ :=
      frames_of_passValue outcome
    · have := allowance_lt_of_fixed fixed
      rw [same, totalAllowance_cons, totalAllowance_cons]
      simp only [innermostAllowance_items]
      omega
    all_goals
      have := allowance_items_le (widths?_eq_none_of_itemTag free) left
    · simp only [opened, totalAllowance_cons]
      simp only [allowance_fields, innermostAllowance_items, innermostAllowance_fields]
      omega
    · rw [same, totalAllowance_cons, totalAllowance_cons]
      simp only [innermostAllowance_items]
      omega
    · have := allowance_items_le mixed count
      simp only [opened, totalAllowance_cons]
      simp only [innermostAllowance_items]
      omega

end Skipper

end TaggedRpc
