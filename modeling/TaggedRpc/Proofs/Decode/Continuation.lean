import TaggedRpc.Proofs.Decode.Boundaries
import TaggedRpc.Proofs.Wire.Continuation

/-!
# Decoding with more bytes behind

Two runs of which the second finds more bytes behind those of the first one (`Decoder.Lasting`).
What the first run decodes with synchronisation kept the second one decodes as well, to the same
values with the same faults in them. If the first run loses synchronisation or is cut short, the
second one does as badly, or uses up some of the bytes that come behind. This is shown for the parts
of a value and then for all values, by recursion on the levels of nesting that are left.

A truncation never stands in a tree of the first run that keeps synchronisation, since a value that
is cut short cannot be skipped either. This is where decoding and skipping have to agree on the
boundaries of values, so values that are not built have to be skipped.
-/

namespace TaggedRpc

namespace Decoder

variable {buf buf' : ByteArray} {shift : Nat} {more : List UInt8} {α β γ ε : Type}

/-- Two decoders that keep synchronisation, the second one with more bytes behind its place. -/
structure Continues (shift : Nat) (more : List UInt8) (s : Decoder buf) (t : Decoder buf') :
    Prop where
  place : s.cursor.Continues shift more t.cursor
  elements : t.elements = s.elements
  kept : s.desync = none
  kept' : t.desync = none

/-- An outcome that, if it is a success with synchronisation kept, has used up some of the bytes
that come behind. -/
def UsesUp (more : List UInt8) (outcome : EStateM.Result Fault (Decoder buf) α) : Prop :=
  ∀ a t, outcome = .ok a t → t.desync = none → t.cursor.remaining < more.length

/-- The outcome of an action, and its outcome where more bytes follow. -/
inductive Continued (shift : Nat) (more : List UInt8) :
    EStateM.Result Fault (Decoder buf) α → EStateM.Result Fault (Decoder buf') α → Prop where
  /-- What is decoded with synchronisation kept stays. -/
  | ok {a : α} {s : Decoder buf} {t : Decoder buf'} (near : s.Continues shift more t) :
    Continued shift more (.ok a s) (.ok a t)
  /-- A fault that is not a truncation stays. -/
  | error {fault : Fault} {s : Decoder buf} {t : Decoder buf'} (firm : fault.isTruncation = false)
    (near : s.Continues shift more t) : Continued shift more (.error fault s) (.error fault t)
  /-- A loss of synchronisation may be cured by the bytes that follow. -/
  | lost {a : α} {s : Decoder buf} {outcome : EStateM.Result Fault (Decoder buf') α}
    (lost : s.desync.isSome) (uses : UsesUp more outcome) : Continued shift more (.ok a s) outcome
  /-- So may a truncation. -/
  | cut {fault : Fault} {s : Decoder buf} {outcome : EStateM.Result Fault (Decoder buf') α}
    (short : fault.isTruncation) (uses : UsesUp more outcome) :
    Continued shift more (.error fault s) outcome

/-- Two actions that do the same wherever the first one keeps synchronisation and is not cut short.
The second one does not move back. -/
structure Lasting (shift : Nat) (more : List UInt8) (act : Decode buf α) (act' : Decode buf' α) :
    Prop where
  outcome : ∀ {s t}, s.Continues shift more t → Continued shift more (act s) (act' t)
  forth : ∀ {t a u}, act' t = .ok a u → t.pos ≤ u.pos

/-- The same two decoders at two other places. -/
theorem Continues.moveTo {s : Decoder buf} {t : Decoder buf'} (near : s.Continues shift more t)
    {c : Cursor buf} {d : Cursor buf'} (place : c.Continues shift more d) :
    Continues shift more { s with cursor := c } { t with cursor := d } :=
  ⟨place, near.elements, near.kept, near.kept'⟩

private theorem usesUp_error {fault : Fault} {s : Decoder buf} :
    UsesUp more (.error fault s : EStateM.Result Fault (Decoder buf) α) := nofun

private theorem usesUp_of_lost {a : α} {s : Decoder buf} (lost : s.desync.isSome) :
    UsesUp more (.ok a s : EStateM.Result Fault (Decoder buf) α) := by
  intro b t same kept
  cases same
  rw [kept] at lost
  cases lost

/-- A decoder that has not moved back has no more bytes behind it. -/
theorem remaining_le {s t : Decoder buf} (forth : s.pos ≤ t.pos) :
    t.cursor.remaining ≤ s.cursor.remaining := by
  have before := s.cursor.pos_add_remaining
  have after := t.cursor.pos_add_remaining
  have place : s.cursor.pos ≤ t.cursor.pos := forth
  omega

/-- What is decoded with synchronisation kept is decoded with more bytes behind. -/
theorem Continued.of_kept {a : α} {s : Decoder buf}
    {outcome : EStateM.Result Fault (Decoder buf') α}
    (continued : Continued shift more (.ok a s) outcome) (kept : s.desync = none) :
    ∃ t, outcome = .ok a t ∧ s.Continues shift more t := by
  cases continued with
  | ok near => exact ⟨_, rfl, near⟩
  | lost lost =>
    rw [kept] at lost
    cases lost

/-- What is decoded with more bytes behind, and does not use them up, is decoded without them. -/
theorem Continued.of_within {outcome : EStateM.Result Fault (Decoder buf) α} {a : α}
    {t : Decoder buf'} (continued : Continued shift more outcome (.ok a t)) (kept : t.desync = none)
    (within : more.length ≤ t.cursor.remaining) :
    ∃ s, outcome = .ok a s ∧ s.Continues shift more t := by
  cases continued with
  | ok near => exact ⟨_, rfl, near⟩
  | lost lost uses => exact absurd (uses _ _ rfl kept) (Nat.not_lt_of_le within)
  | cut short uses => exact absurd (uses _ _ rfl kept) (Nat.not_lt_of_le within)

/-! ## Parts -/

section Parts

variable {act : Decode buf α} {act' : Decode buf' α}

private theorem Lasting.pure (a : α) :
    Lasting shift more (Pure.pure a : Decode buf α) (Pure.pure a : Decode buf' α) where
  outcome near := .ok near
  forth same := by
    obtain ⟨-, rfl⟩ := pure_eq_ok_iff.mp same
    exact Nat.le_refl _

private theorem Lasting.bind {read : Read buf γ} {read' : Read buf' γ}
    (reads : Read.Lasting shift more read read') {next : γ → Decode buf α}
    {next' : γ → Decode buf' α} (lasting : ∀ c, Lasting shift more (next c) (next' c)) :
    Lasting shift more (reading read >>= next) (reading read' >>= next') where
  outcome {s t} near := by
    have first := reads.outcome near.place
    generalize left : read s.cursor = outcome at first
    generalize right : read' t.cursor = outcome' at first
    cases first with
    | ok place =>
      rw [bind_of_ok (reading_of_ok left), bind_of_ok (reading_of_ok right)]
      exact (lasting _).outcome (near.moveTo place)
    | @error fault c d place =>
      rw [bind_of_error (reading_eq_error_iff.mpr ⟨c, left, rfl⟩)]
      rw [bind_of_error (reading_eq_error_iff.mpr ⟨d, right, rfl⟩)]
      cases short : fault.isTruncation with
      | true => exact .cut short usesUp_error
      | false =>
        rw [Fault.moved_of_firm short]
        exact .error short (near.moveTo place)
    | @cut fault c _ short follow uses =>
      rw [bind_of_error (reading_eq_error_iff.mpr ⟨c, left, rfl⟩)]
      refine .cut short fun a u done kept => ?_
      obtain ⟨b, v, passed, rest⟩ := bind_eq_ok_iff.mp done
      obtain ⟨d, here, rfl⟩ := reading_eq_ok_iff.mp passed
      have used := uses b d (right.symm.trans here)
      exact Nat.lt_of_le_of_lt (remaining_le ((lasting b).forth rest)) used
  forth {t a u} done := by
    obtain ⟨b, v, passed, rest⟩ := bind_eq_ok_iff.mp done
    obtain ⟨d, here, rfl⟩ := reading_eq_ok_iff.mp passed
    exact Nat.le_trans (reads.forth here) ((lasting b).forth rest)

private theorem Lasting.turn {stop : α → β} {go : α → Decode buf β} {go' : α → Decode buf' β}
    (first : Lasting shift more act act') (goes : ∀ a, Lasting shift more (go a) (go' a)) :
    Lasting shift more (turn act stop go) (turn act' stop go') where
  outcome {s t} near := by
    have continued := first.outcome near
    -- What uses up more bytes first does so if it goes on.
    have uses (used : UsesUp more (act' t)) : UsesUp more (Decoder.turn act' stop go' t) := by
      intro b u done kept
      obtain ⟨a, v, passed, going, rest⟩ := turn_kept done kept
      exact Nat.lt_of_le_of_lt (remaining_le ((goes a).forth rest)) (used a v passed going)
    generalize left : act s = outcome at continued
    generalize right : act' t = outcome' at continued uses
    cases continued with
    | ok near' =>
      rw [turn_of_kept left near'.kept, turn_of_kept right near'.kept']
      exact (goes _).outcome near'
    | error firm near' =>
      rw [turn_of_error left, turn_of_error right]
      exact .error firm near'
    | lost lost used =>
      rw [turn_of_lost left lost]
      exact .lost lost (uses used)
    | cut short used =>
      rw [turn_of_error left]
      exact .cut short (uses used)
  forth {t b u} done := by
    obtain ⟨a, v, passed, ⟨-, rfl, rfl⟩ | ⟨-, rest⟩⟩ := turn_eq_ok done
    · exact first.forth passed
    · exact Nat.le_trans (first.forth passed) ((goes a).forth rest)

private theorem Lasting.map (lasting : Lasting shift more act act') (f : α → β) :
    Lasting shift more (f <$> act) (f <$> act') := by
  rw [map_eq_turn, map_eq_turn]
  exact lasting.turn fun a => .pure (f a)

private theorem lasting_reading {read : Read buf γ} {read' : Read buf' γ}
    (reads : Read.Lasting shift more read read') (build : γ → α) :
    Lasting shift more (build <$> reading read) (build <$> reading read') := by
  rw [map_eq_pure_bind, map_eq_pure_bind]
  exact Lasting.bind reads fun c => .pure (build c)

/-- A skip that lasts keeps synchronisation on both sides. One that is cut short loses it. -/
private theorem continued_skipOrLose {skip : Read buf Unit} {skip' : Read buf' Unit}
    (skips : Read.Lasting shift more skip skip') (reason : Fault → Desync) (a : α) {s : Decoder buf}
    {t : Decoder buf'} (near : s.Continues shift more t) :
    Continued shift more (.ok a (skipOrLose skip reason s))
      (.ok a (skipOrLose skip' reason t)) := by
  have first := skips.outcome near.place
  unfold skipOrLose
  generalize skip s.cursor = outcome at first
  generalize skip' t.cursor = outcome' at first
  cases first with
  | ok place => exact .ok (near.moveTo place)
  | error place => exact .lost rfl (usesUp_of_lost rfl)
  | cut short follow uses =>
    refine .lost rfl ?_
    cases outcome' with
    | ok b d =>
      intro c u same _
      cases same
      exact uses b d rfl
    | error => exact usesUp_of_lost rfl

private theorem forth_giving {act : Decoder buf → α × Decoder buf}
    (forth : ∀ s, s.pos ≤ (act s).2.pos) {s t : Decoder buf} {a : α}
    (outcome : giving act s = .ok a t) : s.pos ≤ t.pos :=
  (advances_giving forth).le_of_ok outcome

variable {limits : Limits} (skips : limits.skipUnbuilt)

include skips

private theorem lasting_tooDeep (tag : UInt8) :
    Lasting shift more (giving (tooDeep limits tag) : Decode buf Value)
      (giving (tooDeep limits tag) : Decode buf' Value) where
  outcome near := by
    rw [tooDeep_of_skips skips, tooDeep_of_skips skips]
    exact continued_skipOrLose (Read.lasting_skipValue _ _) _ _ near
  forth := forth_giving (pos_le_tooDeep limits tag)

private theorem lasting_withinLimits {kind : CollectionKind} {first second : UInt8} {count : Int32}
    {build : Nat → Decode buf Value} {build' : Nat → Decode buf' Value}
    (builds : ∀ n, Lasting shift more (build n) (build' n)) :
    Lasting shift more (withinLimits limits kind first second count build)
      (withinLimits limits kind first second count build') where
  outcome {s t} near := by
    cases refused : limits.refusal? s.elements kind count with
    | some placeholder =>
      rw [withinLimits_of_refused refused, withinLimits_of_refused (near.elements ▸ refused)]
      rw [tooLarge_of_skips skips, tooLarge_of_skips skips]
      exact continued_skipOrLose (Read.lasting_skipItems _ _ _ _) _ _ near
    | none =>
      rw [withinLimits_of_built refused, withinLimits_of_built (near.elements ▸ refused)]
      exact (builds _).outcome ⟨near.place, by rw [near.elements], near.kept, near.kept'⟩
  forth {t value u} done := by
    cases refused : limits.refusal? t.elements kind count with
    | some placeholder =>
      rw [withinLimits_of_refused refused] at done
      exact forth_giving (pos_le_tooLarge limits kind first second count placeholder) done
    | none =>
      rw [withinLimits_of_built refused] at done
      have moved := (builds _).forth done
      exact moved

end Parts

/-! ## Collections -/

section Collections

private theorem lasting_collect {entry : Decode buf (Option ε)} {entry' : Decode buf' (Option ε)}
    (lasting : Lasting shift more entry entry') (done : List ε) (size : Nat) :
    Lasting shift more (collect entry done size) (collect entry' done size) := by
  induction size generalizing done with
  | zero => exact .pure _
  | succ left ih =>
    refine lasting.turn fun next => ?_
    cases next with
    | none => exact .pure _
    | some e => exact ih (e :: done)

variable {limits : Limits} (skips : limits.skipUnbuilt) {values : ValueReader buf}
  {values' : ValueReader buf'}

include skips in
private theorem lasting_readCollection {kind : CollectionKind}
    {header : Read buf CollectionHeader} {header' : Read buf' CollectionHeader}
    (reads : Read.Lasting shift more header header')
    {entry : UInt8 → UInt8 → Decode buf (Option ε)}
    {entry' : UInt8 → UInt8 → Decode buf' (Option ε)}
    (lasting : ∀ first second, Lasting shift more (entry first second) (entry' first second))
    (build : List ε → Value) :
    Lasting shift more (readCollection limits kind header entry build)
      (readCollection limits kind header' entry' build) := by
  refine Lasting.bind reads fun h => lasting_withinLimits skips fun size => ?_
  exact (lasting_collect (lasting h.first h.second) [] size).map build

theorem lasting_mapHeader :
    Read.Lasting shift more (mapHeader : Read buf CollectionHeader)
      (mapHeader : Read buf' CollectionHeader) :=
  Read.lasting_uint8.bind fun _ => Read.lasting_uint8.bind fun _ =>
    Read.lasting_int32.bind fun _ => .pure _

theorem lasting_sequenceHeader :
    Read.Lasting shift more (sequenceHeader : Read buf CollectionHeader)
      (sequenceHeader : Read buf' CollectionHeader) :=
  Read.lasting_uint8.bind fun _ => Read.lasting_int32.bind fun _ => .pure _

variable (lasting : ∀ tag, Lasting shift more (values.read tag) (values'.read tag))

include lasting

private theorem lasting_readPair (keyTag valueTag : UInt8) :
    Lasting shift more (readPair values keyTag valueTag) (readPair values' keyTag valueTag) :=
  (lasting keyTag).turn fun _ => (lasting valueTag).map _

end Collections

/-! ## Structs -/

section Structs

variable {limits : Limits} {names : FieldNames} {values : ValueReader buf}
  {values' : ValueReader buf'}

private theorem usesUp_readField {tag : UInt8} {t : Decoder buf'}
    (used : UsesUp more (values'.read tag t))
    (skipped : Read.UsesUp more (Read.skipValue limits.maxSkipDepth tag t.cursor)) (id : Int16) :
    UsesUp more (giving (readField limits values' tag id) t) := by
  intro field u outcome kept
  rw [giving_eq_ok_iff] at outcome
  cases read : values'.read tag t with
  | ok value v =>
    rw [readField_of_ok read] at outcome
    cases outcome
    exact used value u read kept
  | error fault v =>
    rw [readField_of_error read] at outcome
    cases outcome
    exact skipped () _ (ok_of_skipOrLose (s := { v with cursor := t.cursor }) kept)

/-- A field lasts. If its value is cut short or loses synchronisation, the value cannot be skipped
either, so synchronisation is lost. -/
theorem lasting_readField {tag : UInt8}
    (lasting : Lasting shift more (values.read tag) (values'.read tag))
    (meets : Meets (values.read tag) (Read.skipValue limits.maxSkipDepth tag)) (id : Int16) :
    Lasting shift more (giving (readField limits values tag id))
      (giving (readField limits values' tag id)) := by
  refine ⟨fun {s t} near => ?_, forth_giving (pos_le_readField limits values' tag id)⟩
  have value := lasting.outcome near
  have skip : Read.Lasting shift more (Read.skipValue limits.maxSkipDepth tag : Read buf Unit)
      (Read.skipValue limits.maxSkipDepth tag : Read buf' Unit) := Read.lasting_skipValue _ _
  generalize left : values.read tag s = outcome at value
  generalize right : values'.read tag t = outcome' at value
  cases value with
  | ok near₁ =>
    unfold giving
    rw [readField_of_ok left, readField_of_ok right]
    exact .ok near₁
  | error firm near₁ =>
    unfold giving
    rw [readField_of_error left, readField_of_error right]
    exact continued_skipOrLose skip _ _ (near₁.moveTo near.place)
  | lost lost used =>
    -- The value is there at the first place. The skip fails even so, which tells of the second one.
    obtain ⟨f, c, failed⟩ := meets.error_of_lost near.kept left lost
    have rest := usesUp_readField (right ▸ used) (skip.usesUp_of_error near.place failed) id
    rw [giving, readField_of_ok left]
    exact .lost lost rest
  | cut short used =>
    obtain ⟨f, c, failed⟩ := meets.error_of_short near.kept left short
    have rest := usesUp_readField (right ▸ used) (skip.usesUp_of_error near.place failed) id
    rw [giving, readField_of_error left, skipOrLose]
    dsimp only
    rw [failed]
    exact .lost rfl rest

private theorem pos_le_nextHeader (s : Decoder buf) : s.pos ≤ (nextHeader s).2.pos := by
  cases header : readHeader s.cursor with
  | error fault c =>
    rw [nextHeader_of_error header]
    exact advances_readHeader.le_of_error header
  | ok content c =>
    rw [nextHeader_of_ok header]
    exact Nat.le_of_succ_le (advances_readHeader.le_of_ok header)

/-- The header of a field lasts. If it is cut short, synchronisation is lost. -/
private theorem lasting_nextHeader :
    Lasting shift more (giving nextHeader : Decode buf (Option (UInt8 × Int16)))
      (giving nextHeader : Decode buf' (Option (UInt8 × Int16))) where
  outcome {s t} near := by
    have first := Decoder.lasting_readHeader.outcome near.place
    generalize left : readHeader s.cursor = outcome at first
    generalize right : readHeader t.cursor = outcome' at first
    cases first with
    | ok place =>
      rw [giving_eq_ok_iff.mpr (nextHeader_of_ok left),
        giving_eq_ok_iff.mpr (nextHeader_of_ok right)]
      exact .ok (near.moveTo place)
    | error place =>
      rw [giving_eq_ok_iff.mpr (nextHeader_of_error left),
        giving_eq_ok_iff.mpr (nextHeader_of_error right)]
      exact .lost rfl (usesUp_of_lost rfl)
    | cut short follow uses =>
      rw [giving_eq_ok_iff.mpr (nextHeader_of_error left)]
      refine .lost rfl ?_
      cases outcome' with
      | error =>
        rw [giving_eq_ok_iff.mpr (nextHeader_of_error right)]
        exact usesUp_of_lost rfl
      | ok header d =>
        rw [giving_eq_ok_iff.mpr (nextHeader_of_ok right)]
        rintro _ _ ⟨⟩ -
        exact uses header d rfl
  forth := forth_giving pos_le_nextHeader

variable (lasting : ∀ tag, Lasting shift more (values.read tag) (values'.read tag))
  (meets : ∀ tag, Meets (values.read tag) (Read.skipValue limits.maxSkipDepth tag))

include lasting meets

private theorem lasting_collectFields (done : List (String × Field)) (size : Nat) :
    Lasting shift more (collectFields limits names values done size)
      (collectFields limits names values' done size) := by
  refine Lasting.turn (.pure ()) fun _ => lasting_collect ?_ done size
  refine lasting_nextHeader.turn fun next => ?_
  rcases next with _ | ⟨tag, id⟩
  · exact .pure _
  · exact (lasting_readField (lasting tag) (meets tag) id).map _

/-- Fields last. -/
theorem lasting_readEntries (done : List (String × Field)) :
    Lasting shift more (giving (readEntries limits names values done))
      (giving (readEntries limits names values' done)) := by
  have enough : buf.size < buf.size + buf'.size + 1 := by omega
  have enough' : buf'.size < buf.size + buf'.size + 1 := by omega
  rw [giving_readEntries_eq enough, giving_readEntries_eq enough']
  exact (lasting_collectFields lasting meets done _).map _

/-- The fields of a struct last. -/
theorem lasting_readFields :
    Lasting shift more (giving (readFields limits names values))
      (giving (readFields limits names values')) := by
  have forth (t : Decoder buf') : t.pos ≤ (readFields limits names values' t).2.pos :=
    pos_le_readEntries limits names values' [] t
  refine ⟨fun {s t} near => ?_, forth_giving forth⟩
  obtain ⟨all, u, left⟩ : ∃ all u, giving (readEntries limits names values []) s = .ok all u :=
    ⟨_, _, rfl⟩
  obtain ⟨all', v, right⟩ : ∃ all v, giving (readEntries limits names values' []) t = .ok all v :=
    ⟨_, _, rfl⟩
  have continued : Continued shift more (.ok all u) (.ok all' v) := by
    rw [← left, ← right]
    exact (lasting_readEntries lasting meets []).outcome near
  rw [giving_readFields_of_entries left, giving_readFields_of_entries right, desyncReason,
    desyncReason]
  cases continued with
  | ok near =>
    rw [near.kept, near.kept']
    exact .ok near
  | lost lost used =>
    refine .lost lost ?_
    rintro _ _ ⟨⟩ kept
    exact used _ _ rfl kept

end Structs

/-! ## Values -/

section Values

variable {limits : Limits} (skips : limits.skipUnbuilt) (names : FieldNames)

include skips

/-- Decoding arrives where a value of a field can be skipped. -/
theorem meets_skipValue (depth : Nat) (tag : UInt8) :
    Meets ((values limits names depth : ValueReader buf).read tag)
      (Read.skipValue limits.maxSkipDepth tag) :=
  fun _ _ kept skipped => arrives_of_skipValue skips (Nat.le_refl _) kept skipped

/-- Values last, whatever levels of nesting are left. -/
theorem lasting_values (depth : Nat) (tag : UInt8) :
    Lasting shift more ((values limits names depth : ValueReader buf).read tag)
      ((values limits names depth : ValueReader buf').read tag) := by
  apply values_induction (motive := fun depth tag act =>
    Lasting shift more act ((values limits names depth : ValueReader buf').read tag))
  case tooDeep =>
    intro depth tag deep
    rw [read_of_noLevel deep]
    exact lasting_tooDeep skips tag
  case unknown =>
    intro depth tag unknown
    rw [read_of_unknown unknown]
    exact ⟨fun _ => .lost rfl (usesUp_of_lost rfl), forth_giving fun _ => Nat.le_refl _⟩
  case fixed =>
    intro depth tag width fixed
    rw [read_of_fixed fixed]
    exact lasting_reading (Read.lasting_natural width) _
  case string =>
    intro depth tag known
    rw [read_of_string known]
    exact lasting_reading Read.lasting_string _
  case struct =>
    intro depth tag known left lasting
    rw [read_of_struct known left]
    exact (lasting_readFields lasting (meets_skipValue skips names depth)).map _
  case map =>
    intro depth tag known lasting
    rw [read_of_map known]
    exact lasting_readCollection skips lasting_mapHeader (lasting_readPair lasting) _
  case sequence =>
    intro depth tag kind build sequence lasting
    rw [read_of_sequence sequence]
    exact lasting_readCollection skips lasting_sequenceHeader
      (fun tag _ => (lasting tag).map some) _

end Values

end Decoder

end TaggedRpc
