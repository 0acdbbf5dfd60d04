import TaggedRpc.Proofs.Wire.Walk

/-!
# The stack machine walks

Skipping with an explicit stack has the same outcome as the walk by plain recursion
(`interchangeable_skipValue`). The machine passes one frame as the walk passes what the frame stands
for (`interchangeable_run`), by recursion on the room that the frame leaves. Only where the machine
passes a run of items of fixed width in one move, and the run is cut short, do the numbers in the
fault differ.
-/

namespace TaggedRpc

namespace Walker

variable {buf : ByteArray}

/-- Pass what is left in an open container. -/
def frame (walker : Walker buf) : Frame → Read buf Unit
  | .fields => walker.fields
  | .items first second left => walker.items first second left

/-! ## Runs of items of fixed width -/

/-- The bytes of items of fixed width, one by one. -/
def flatSize (first second : UInt8) : Nat → Nat
  | 0 => 0
  | left + 1 =>
    (Tag.widthOfByte? (Skipper.itemTag first second (left + 1))).getD 0 + flatSize first second left

private theorem widths?_eq_some_iff {first second : UInt8} {a b : Nat} :
    Skipper.widths? first second = some (a, b) ↔
      Tag.widthOfByte? first = some a ∧ Tag.widthOfByte? second = some b := by
  unfold Skipper.widths?
  split
  · next x y left right =>
    rw [left, right, Option.some.injEq, Prod.mk.injEq, Option.some.injEq, Option.some.injEq]
  · next mixed =>
    constructor
    · intro impossible
      cases impossible
    · rintro ⟨left, right⟩
      exact absurd right (mixed a b left)

private theorem flatSize_eq {first second : UInt8} {a b : Nat}
    (fixed : Skipper.widths? first second = some (a, b)) (count : Nat) :
    flatSize first second count = count / 2 * (a + b) + count % 2 * b := by
  obtain ⟨left, right⟩ := widths?_eq_some_iff.mp fixed
  induction count with
  | zero => rw [flatSize, Nat.zero_div, Nat.zero_mul, Nat.zero_mod, Nat.zero_mul]
  | succ count ih =>
    rw [flatSize, ih]
    unfold Skipper.itemTag
    rcases Nat.mod_two_eq_zero_or_one count with even | odd
    · have half : (count + 1) / 2 = count / 2 := by omega
      have rest : (count + 1) % 2 = 1 := by omega
      rw [half, rest, even, if_neg (by omega), right, Option.getD_some, Nat.zero_mul]
      omega
    · have half : (count + 1) / 2 = count / 2 + 1 := by omega
      have rest : (count + 1) % 2 = 0 := by omega
      rw [half, rest, odd, if_pos rfl, left, Option.getD_some, Nat.succ_mul (count / 2)]
      omega

private theorem sameOutcome_advance_add (m n : Nat) (c : Cursor buf) :
    SameOutcome (Read.advance (m + n) c)
      ((do Read.advance m; Read.advance n : Read buf Unit) c) := by
  have total := c.pos_add_remaining
  by_cases first : m ≤ c.remaining
  · have moved : Read.advance m c = .ok () (c.forward m first) := dif_pos first
    have left := (c.forward m first).pos_add_remaining
    rw [Cursor.pos_forward] at left
    rw [bind_of_ok moved]
    unfold Read.advance
    by_cases second : m + n ≤ c.remaining
    · rw [dif_pos second, dif_pos (by omega)]
      have same : c.forward (m + n) second = (c.forward m first).forward n (by omega) := by
        apply Cursor.ext
        rw [Cursor.pos_forward, Cursor.pos_forward, Cursor.pos_forward, Nat.add_assoc]
      rw [same]
      exact .ok _ _
    · rw [dif_neg second, dif_neg (by omega)]
      exact .error (.inr ⟨rfl, rfl⟩)
  · have failed : Read.advance m c = .error (Read.shortage c m) c := dif_neg first
    rw [bind_of_error failed]
    unfold Read.advance
    rw [dif_neg (by omega)]
    exact .error (.inr ⟨rfl, rfl⟩)

private theorem interchangeable_flat (first second : UInt8) (count : Nat) :
    Interchangeable (Read.advance (flatSize first second count) : Read buf Unit)
      (flat.items first second count) := by
  induction count with
  | zero =>
    intro c
    have nothing : Read.advance 0 c = .ok () c := dif_pos (Nat.zero_le _)
    rw [flatSize, nothing]
    exact .ok _ _
  | succ count ih =>
    intro c
    exact (sameOutcome_advance_add _ _ c).trans ((Interchangeable.refl _).bind (fun _ => ih) c)

/-- Items that a value declares either come in pairs or have all the same tag. Then the machine's
one move covers their bytes. -/
private theorem bulk_eq_flatSize {first second : UInt8} {a b count : Nat}
    (fixed : Skipper.widths? first second = some (a, b))
    (paired : count % 2 = 0 ∨ first = second) :
    count / 2 * (a + b) + count % 2 * a = flatSize first second count := by
  rw [flatSize_eq fixed]
  rcases paired with even | rfl
  · rw [even, Nat.zero_mul, Nat.zero_mul]
  · obtain ⟨left, right⟩ := widths?_eq_some_iff.mp fixed
    rw [left] at right
    cases right
    rfl

end Walker

namespace Skipper

variable {buf : ByteArray}

open Walker (ofRoom inside)

/-! ## One frame -/

/-- Go on until every container is left, as a read. -/
def run (limit : Nat) (s : Skipper) : Read buf Unit := drain limit s

/-- With no container open the machine is done. -/
theorem run_nil (limit room : Nat) : (run limit ⟨[], room⟩ : Read buf Unit) = pure () := by
  funext c
  rw [run, drain, dif_pos rfl]
  rfl

/-- With a container open the machine takes a step and goes on. -/
theorem run_cons (limit : Nat) (frame : Frame) (outer : List Frame) (room : Nat) :
    (run limit ⟨frame :: outer, room⟩ : Read buf Unit) =
      step limit ⟨frame :: outer, room⟩ >>= run limit := by
  funext c
  rw [run, drain, dif_neg (List.cons_ne_nil _ _)]
  split
  · next failed => rw [bind_of_error failed]
  · next moved => rw [bind_of_ok moved, run]

/-- The machine passes the frames that may be opened inside a state as the walk does. -/
def Walks (buf : ByteArray) (limit : Nat) (s : Skipper) : Prop :=
  ∀ (frame : Frame) (room : Nat), s.room = room + 1 →
    Interchangeable (run limit ⟨frame :: s.frames, room⟩ : Read buf Unit) (do
      (ofRoom limit room).frame frame
      run limit ⟨s.frames, room + 1⟩)

variable {limit : Nat} {s : Skipper}

private theorem interchangeable_enter (walks : Walks buf limit s) (frame : Frame) :
    Interchangeable (enter limit frame s >>= run limit : Read buf Unit) (do
      Walker.within limit (inside limit s.room) (·.frame frame)
      run limit s) := by
  obtain ⟨frames, room⟩ := s
  cases room with
  | zero => exact fun c => .error (Fault.Alike.refl _)
  | succ room => exact walks frame room rfl

private theorem interchangeable_passItems (walks : Walks buf limit s) {first second : UInt8}
    {count : Nat} (paired : count % 2 = 0 ∨ first = second) :
    Interchangeable (passItems limit first second count s >>= run limit : Read buf Unit) (do
      Walker.collection limit (inside limit s.room) first second count
      run limit s) := by
  unfold passItems Walker.collection
  by_cases empty : count = 0
  · rw [if_pos empty, if_pos empty]
    exact .refl _
  · rw [if_neg empty, if_neg empty]
    cases widths : widths? first second with
    | none => exact interchangeable_enter walks (.items first second count)
    | some ab =>
      obtain ⟨a, b⟩ := ab
      dsimp only
      rw [Walker.bulk_eq_flatSize widths paired, Option.isSome_some, if_pos rfl, bind_assoc]
      exact (Walker.interchangeable_flat first second count).bind fun _ => .refl _

private theorem interchangeable_passValue (walks : Walks buf limit s) (tag : UInt8) :
    Interchangeable (passValue limit tag s >>= run limit : Read buf Unit) (do
      (ofRoom limit s.room).pass tag
      run limit s) := by
  rw [Walker.pass_ofRoom]
  unfold passValue Walker.value
  cases Tag.widthOfByte? tag with
  | some width =>
    simp only [bind_assoc, pure_bind]
    exact .refl _
  | none =>
    have sequence : Interchangeable
        (do
          let item ← Read.uint8
          let count ← Read.int32
          passItems limit item item count.toNatClampNeg s >>= run limit : Read buf Unit)
        (do
          let item ← Read.uint8
          let count ← Read.int32
          Walker.collection limit (inside limit s.room) item item count.toNatClampNeg
          run limit s) :=
      (Interchangeable.refl _).bind fun item => (Interchangeable.refl _).bind fun count =>
        interchangeable_passItems walks (.inr rfl)
    rcases Tag.ofByte? tag with _ | assigned
    · exact .refl _
    cases assigned <;> simp only [bind_assoc]
    case string => exact .refl _
    case struct => exact interchangeable_enter walks .fields
    case map =>
      refine (Interchangeable.refl _).bind fun key => (Interchangeable.refl _).bind fun value => ?_
      refine (Interchangeable.refl _).bind fun count => ?_
      exact interchangeable_passItems walks (.inl (Nat.mul_mod_right 2 _))
    case set | list => exact sequence
    all_goals exact fun c => .error (Fault.Alike.refl _)

/-! ## All frames -/

variable {room : Nat}

private theorem step_fields (limit room : Nat) (outer : List Frame) :
    (step limit ⟨.fields :: outer, room⟩ : Read buf Skipper) = (do
      match ← Decoder.readHeader with
      | none => return ⟨outer, room + 1⟩
      | some (tag, _) => passValue limit tag ⟨.fields :: outer, room⟩) := by
  unfold step Decoder.readHeader
  rw [bind_assoc]
  refine bind_congr fun tag => ?_
  by_cases stop : tag = Tag.stop.toByte
  · rw [if_pos stop, if_pos stop, pure_bind]
  · rw [if_neg stop, if_neg stop, bind_assoc]
    simp only [pure_bind]

private theorem interchangeable_items (walks : ∀ frames, Walks buf limit ⟨frames, room⟩)
    (first second : UInt8) (left : Nat) (outer : List Frame) :
    Interchangeable (run limit ⟨.items first second left :: outer, room⟩ : Read buf Unit) (do
      (ofRoom limit room).items first second left
      run limit ⟨outer, room + 1⟩) := by
  induction left with
  | zero =>
    rw [run_cons]
    exact .refl _
  | succ left ih =>
    rw [run_cons, Walker.items, bind_assoc]
    intro c
    apply (interchangeable_passValue (walks _) (itemTag first second (left + 1)) c).trans
    exact ((Interchangeable.refl _).bind fun _ => ih) c

/-- Fields are passed one by one. Each brings bytes, so the induction is on the bytes left. -/
private theorem sameOutcome_fields (walks : ∀ frames, Walks buf limit ⟨frames, room⟩)
    (outer : List Frame) (c : Cursor buf) :
    SameOutcome (run limit ⟨.fields :: outer, room⟩ c)
      ((do (ofRoom limit room).fields; run limit ⟨outer, room + 1⟩ : Read buf Unit) c) := by
  induction size : c.remaining using Nat.strongRecOn generalizing c with
  | ind size ih =>
    rw [run_cons, step_fields, Walker.fields_eq, bind_assoc, bind_assoc]
    refine (SameOutcome.refl _).bind fun header d headerRead => ?_
    rcases header with _ | ⟨tag, id⟩
    · exact .refl _
    · dsimp only
      rw [bind_assoc]
      apply (interchangeable_passValue (walks _) tag d).trans
      refine (SameOutcome.refl _).bind fun _ e passed => ?_
      have moved := Decoder.advances_readHeader.le_of_ok headerRead
      have kept := ((ofRoom limit room).forth tag).le_of_ok passed
      have before := c.pos_add_remaining
      have after := e.pos_add_remaining
      exact ih e.remaining (by omega) e rfl

/-- An open container is passed, whatever it is, if the frames inside it are. -/
theorem interchangeable_frame (walks : ∀ frames, Walks buf limit ⟨frames, room⟩) (frame : Frame)
    (outer : List Frame) :
    Interchangeable (run limit ⟨frame :: outer, room⟩ : Read buf Unit) (do
      (ofRoom limit room).frame frame
      run limit ⟨outer, room + 1⟩) := by
  cases frame with
  | fields => exact sameOutcome_fields walks outer
  | items first second left => exact interchangeable_items walks first second left outer

/-- The machine passes an open container as the walk does, and goes on. -/
theorem interchangeable_run (limit room : Nat) (frame : Frame) (outer : List Frame) :
    Interchangeable (run limit ⟨frame :: outer, room⟩ : Read buf Unit) (do
      (ofRoom limit room).frame frame
      run limit ⟨outer, room + 1⟩) := by
  induction room generalizing frame outer with
  | zero =>
    have walks (frames : List Frame) : Walks buf limit ⟨frames, 0⟩ := by
      intro _ room impossible
      exact absurd impossible (Nat.succ_ne_zero room).symm
    exact interchangeable_frame walks frame outer
  | succ room ih =>
    have walks (frames : List Frame) : Walks buf limit ⟨frames, room + 1⟩ := by
      intro frame inner same
      cases same
      exact ih frame frames
    exact interchangeable_frame walks frame outer

/-- The machine walks whatever the state. -/
theorem walks (limit : Nat) (s : Skipper) : Walks buf limit s :=
  fun frame room _ => interchangeable_run limit room frame s.frames

end Skipper

namespace Read

variable {buf : ByteArray}

/-- Skipping a value has the outcome of walking over it. -/
theorem interchangeable_skipValue (limit : Nat) (tag : UInt8) :
    Interchangeable (skipValue limit tag : Read buf Unit)
      ((Walker.ofRoom limit limit).pass tag) := by
  intro c
  apply (interchangeable_atomically _ c).trans
  change SameOutcome ((Skipper.passValue limit tag (Skipper.idle limit) >>= Skipper.run limit) c) _
  apply (Skipper.interchangeable_passValue (Skipper.walks limit _) tag c).trans
  rw [Skipper.idle, Skipper.run_nil, bind_pure]
  exact .refl _

private theorem interchangeable_skipItems (limit : Nat) {first second : UInt8} {count : Nat}
    (paired : count % 2 = 0 ∨ first = second) :
    Interchangeable (skipItems limit first second count : Read buf Unit)
      (Walker.collection limit (Walker.inside limit limit) first second count) := by
  intro c
  apply (interchangeable_atomically _ c).trans
  change SameOutcome
    ((Skipper.passItems limit first second count (Skipper.idle limit) >>= Skipper.run limit) c) _
  apply (Skipper.interchangeable_passItems (Skipper.walks limit _) paired c).trans
  rw [Skipper.idle, Skipper.run_nil, bind_pure]
  exact .refl _

/-- Skipping a value succeeds exactly where the walk over it does. -/
theorem skipValue_eq_ok_iff {limit : Nat} {tag : UInt8} {c d : Cursor buf} :
    skipValue limit tag c = .ok () d ↔ (Walker.ofRoom limit limit).pass tag c = .ok () d :=
  (interchangeable_skipValue limit tag c).eq_ok_iff

/-- Skipping a value that fails leaves the place where it was. -/
theorem eq_of_skipValue_error {limit : Nat} {tag : UInt8} {fault : Fault} {c d : Cursor buf}
    (failed : skipValue limit tag c = .error fault d) : d = c := by
  unfold skipValue atomically at failed
  split at failed
  · cases failed
  · cases failed
    rfl

/-- Skipping items succeeds exactly where the walk over them does. -/
theorem skipItems_eq_ok_iff {limit : Nat} {first second : UInt8} {count : Nat} {c d : Cursor buf}
    (paired : count % 2 = 0 ∨ first = second) :
    skipItems limit first second count c = .ok () d ↔
      Walker.collection limit (Walker.inside limit limit) first second count c = .ok () d :=
  (interchangeable_skipItems limit paired c).eq_ok_iff

end Read

end TaggedRpc
