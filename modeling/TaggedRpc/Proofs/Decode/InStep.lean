import TaggedRpc.Proofs.Decode.Continuation
import TaggedRpc.Proofs.Decode.Message
import TaggedRpc.Proofs.Tree.Labels

/-!
# Decoding in step

Two runs over the same bytes, which may have other bytes before them and other names for the fields.
Whatever the bytes and the limits are, the runs stay in step (`Alongside`): they read the same
number of bytes, count the same entries, fail and lose synchronisation together, and what they
decode is the same under labels that hide the differences. The difference of the names is hidden
only if both tables tell the same fields apart. The rest does not depend on names at all.
-/

namespace TaggedRpc

/-- The same loss of synchronisation in a buffer with some more bytes in front. -/
def Desync.moved (shift : Nat) : Desync → Desync
  | header fault => header (fault.moved shift)
  | field id fault => field id (fault.moved shift)
  | entries kind count fault => entries kind count (fault.moved shift)
  | deepValue fault => deepValue (fault.moved shift)
  | unknownTag tag => unknownTag tag

/-- No more bytes in front make no difference. -/
@[simp] theorem Desync.moved_zero (desync : Desync) : desync.moved 0 = desync := by
  cases desync <;> simp [moved]

/-- Labels that hide the number of bytes in front. -/
def Labels.HidesShift (labels : Labels) (shift : Nat) : Prop :=
  ∀ desync : Desync, labels.text (desync.moved shift).message = labels.text desync.message

namespace Decoder

variable {buf buf' : ByteArray} {shift : Nat} {α β γ δ ε : Type}

/-- Two decoders with the same bytes behind their places, which have lost synchronisation alike if
they have. -/
structure InStep (shift : Nat) (s : Decoder buf) (t : Decoder buf') : Prop where
  place : s.cursor.Continues shift [] t.cursor
  elements : t.elements = s.elements
  desync : t.desync = s.desync.map (Desync.moved shift)

namespace InStep

variable {s : Decoder buf} {t : Decoder buf'}

/-- The same two decoders at two other places. -/
theorem moveTo (near : s.InStep shift t) {c : Cursor buf} {d : Cursor buf'}
    (place : c.Continues shift [] d) :
    InStep shift { s with cursor := c } { t with cursor := d } :=
  ⟨place, near.elements, near.desync⟩

/-- The same two decoders with a loss of synchronisation. -/
theorem lose (near : s.InStep shift t) (reason : Desync) :
    InStep shift (s.lose reason) (t.lose (reason.moved shift)) :=
  ⟨near.place, near.elements, rfl⟩

private theorem isSome_desync (near : s.InStep shift t) : t.desync.isSome = s.desync.isSome := by
  rw [near.desync, Option.isSome_map]

/-- If one decoder keeps synchronisation, the other one does. -/
theorem kept (near : s.InStep shift t) (kept : s.desync = none) : t.desync = none := by
  rw [near.desync, kept, Option.map_none]

end InStep

/-- Two outcomes in step: two results that are related, or the same fault. -/
inductive Paired (shift : Nat) (related : α → β → Prop) :
    EStateM.Result Fault (Decoder buf) α → EStateM.Result Fault (Decoder buf') β → Prop where
  | ok {a : α} {b : β} {s : Decoder buf} {t : Decoder buf'} (same : related a b)
    (near : s.InStep shift t) : Paired shift related (.ok a s) (.ok b t)
  | error {fault : Fault} {s : Decoder buf} {t : Decoder buf'} (near : s.InStep shift t) :
    Paired shift related (.error fault s) (.error (fault.moved shift) t)

/-- Two actions that stay in step. -/
def Alongside (shift : Nat) (related : α → β → Prop) (act : Decode buf α) (act' : Decode buf' β) :
    Prop :=
  ∀ ⦃s : Decoder buf⦄ ⦃t : Decoder buf'⦄, s.InStep shift t → Paired shift related (act s) (act' t)

/-! ## Parts -/

section Parts

variable {related : α → β → Prop} {related' : γ → δ → Prop} {act : Decode buf α}
  {act' : Decode buf' β}

private theorem Alongside.pure {a : α} {b : β} (same : related a b) :
    Alongside shift related (Pure.pure a : Decode buf α) (Pure.pure b : Decode buf' β) :=
  fun _ _ near => .ok same near

private theorem Alongside.bind {read : Read buf ε} {read' : Read buf' ε}
    (reads : Read.Lasting shift [] read read') {next : ε → Decode buf α} {next' : ε → Decode buf' β}
    (alongside : ∀ c, Alongside shift related (next c) (next' c)) :
    Alongside shift related (reading read >>= next) (reading read' >>= next') := by
  intro s t near
  have paired := reads.outcome near.place
  generalize left : read s.cursor = outcome at paired
  generalize right : read' t.cursor = outcome' at paired
  cases paired with
  | ok place =>
    rw [bind_of_ok (reading_of_ok left), bind_of_ok (reading_of_ok right)]
    exact alongside _ (near.moveTo place)
  | @error fault c d place =>
    rw [bind_of_error (reading_eq_error_iff.mpr ⟨c, left, rfl⟩),
      bind_of_error (reading_eq_error_iff.mpr ⟨d, right, rfl⟩)]
    exact .error (near.moveTo place)
  | cut _ follow => exact absurd rfl follow

private theorem Alongside.turn {stop : α → γ} {go : α → Decode buf γ} {stop' : β → δ}
    {go' : β → Decode buf' δ} (first : Alongside shift related act act')
    (stops : ∀ a b, related a b → related' (stop a) (stop' b))
    (goes : ∀ a b, related a b → Alongside shift related' (go a) (go' b)) :
    Alongside shift related' (turn act stop go) (turn act' stop' go') := by
  intro s t near
  have paired := first near
  generalize left : act s = outcome at paired
  generalize right : act' t = outcome' at paired
  cases paired with
  | error near₁ =>
    rw [turn_of_error left, turn_of_error right]
    exact .error near₁
  | @ok a b s₁ t₁ same near₁ =>
    by_cases kept : s₁.desync = none
    · rw [turn_of_kept left kept, turn_of_kept right (near₁.kept kept)]
      exact goes a b same near₁
    · have lost := Option.isSome_iff_ne_none.mpr kept
      rw [turn_of_lost left lost, turn_of_lost right (near₁.isSome_desync.trans lost)]
      exact .ok (stops a b same) near₁

private theorem Alongside.map (alongside : Alongside shift related act act') {f : α → γ} {g : β → δ}
    (keeps : ∀ a b, related a b → related' (f a) (g b)) :
    Alongside shift related' (f <$> act) (g <$> act') := by
  rw [map_eq_turn, map_eq_turn]
  exact alongside.turn keeps fun a b same => .pure (keeps a b same)

private theorem inStep_skipOrLose {skip : Read buf Unit} {skip' : Read buf' Unit}
    (skips : Read.Lasting shift [] skip skip') {reason : Fault → Desync}
    (moves : ∀ fault, reason (fault.moved shift) = (reason fault).moved shift) {s : Decoder buf}
    {t : Decoder buf'} (near : s.InStep shift t) :
    InStep shift (skipOrLose skip reason s) (skipOrLose skip' reason t) := by
  have paired := skips.outcome near.place
  unfold skipOrLose
  generalize skip s.cursor = outcome at paired
  generalize skip' t.cursor = outcome' at paired
  cases paired with
  | ok place => exact near.moveTo place
  | error place =>
    dsimp only
    rw [moves]
    exact (near.moveTo place).lose _
  | cut _ follow => exact absurd rfl follow

private theorem alongside_nextHeader :
    Alongside shift Eq (giving nextHeader : Decode buf (Option (UInt8 × Int16)))
      (giving nextHeader : Decode buf' (Option (UInt8 × Int16))) := by
  intro s t near
  have paired := Decoder.lasting_readHeader.outcome near.place
  generalize left : readHeader s.cursor = outcome at paired
  generalize right : readHeader t.cursor = outcome' at paired
  cases paired with
  | ok place =>
    rw [giving_eq_ok_iff.mpr (nextHeader_of_ok left), giving_eq_ok_iff.mpr (nextHeader_of_ok right)]
    exact .ok rfl (near.moveTo place)
  | @error fault c d place =>
    rw [giving_eq_ok_iff.mpr (nextHeader_of_error left),
      giving_eq_ok_iff.mpr (nextHeader_of_error right)]
    exact .ok rfl ((near.moveTo place).lose (.header fault))
  | cut _ follow => exact absurd rfl follow

private theorem alongside_collect {entry : Decode buf (Option α)} {entry' : Decode buf' (Option β)}
    (alongside : Alongside shift (Option.Rel related) entry entry') {done : List α}
    {done' : List β} (before : List.Forall₂ related done done') (size : Nat) :
    Alongside shift (List.Forall₂ related) (collect entry done size)
      (collect entry' done' size) := by
  induction size generalizing done done' with
  | zero => exact .pure (List.rel_reverse before)
  | succ left ih =>
    refine alongside.turn (fun next next' same => ?_) fun next next' same => ?_
    · cases same with
      | none => exact List.rel_reverse before
      | some same => exact List.rel_reverse (.cons same before)
    · cases same with
      | none => exact .pure (List.rel_reverse before)
      | some same => exact ih (.cons same before)

end Parts

/-! ## Values -/

section Values

variable (labels : Labels) (names names' : FieldNames)

/-- Whether two things cannot be told apart in a view, if labels hide the difference of the
names. -/
def Same (view : α → γ) (a b : α) : Prop := labels.Hides names names' → view a = view b

variable {labels names names'} {limits : Limits}

private theorem same_map {view : ε → γ} {all all' : List ε}
    (each : List.Forall₂ (Same labels names names' view) all all') :
    Same labels names names' (List.map view) all all' := by
  intro hides
  rw [← List.forall₂_eq_eq_eq, List.forall₂_map_left_iff, List.forall₂_map_right_iff]
  exact each.imp fun _ _ same => same hides

private theorem alongside_leaf {read : Read buf γ} {read' : Read buf' γ}
    (reads : Read.Lasting shift [] read read') (build : γ → Value) :
    Alongside shift (Same labels names names' (Value.relabel labels)) (build <$> reading read)
      (build <$> reading read') := by
  rw [map_eq_pure_bind, map_eq_pure_bind]
  exact Alongside.bind reads fun c => .pure fun _ => rfl

private theorem alongside_tooDeep (tag : UInt8) :
    Alongside shift (Same labels names names' (Value.relabel labels))
      (giving (tooDeep limits tag) : Decode buf Value)
      (giving (tooDeep limits tag) : Decode buf' Value) := by
  intro s t near
  refine .ok (fun _ => rfl) ?_
  split
  · exact inStep_skipOrLose (Read.lasting_skipValue _ _) (fun _ => rfl) near
  · exact near

private theorem alongside_tooLarge (kind : CollectionKind) (first second : UInt8) (count : Int32)
    (placeholder : Placeholder) :
    Alongside shift (Same labels names names' (Value.relabel labels))
      (giving (tooLarge limits kind first second count placeholder) : Decode buf Value)
      (giving (tooLarge limits kind first second count placeholder) : Decode buf' Value) := by
  intro s t near
  refine .ok (fun _ => rfl) ?_
  split
  · exact inStep_skipOrLose (Read.lasting_skipItems _ _ _ _) (fun _ => rfl) near
  · exact near

private theorem alongside_withinLimits {kind : CollectionKind} {first second : UInt8}
    {count : Int32} {build : Nat → Decode buf Value} {build' : Nat → Decode buf' Value}
    (builds : ∀ n,
      Alongside shift (Same labels names names' (Value.relabel labels)) (build n) (build' n)) :
    Alongside shift (Same labels names names' (Value.relabel labels))
      (withinLimits limits kind first second count build)
      (withinLimits limits kind first second count build') := by
  intro s t near
  cases refused : limits.refusal? s.elements kind count with
  | some placeholder =>
    rw [withinLimits_of_refused refused, withinLimits_of_refused (near.elements ▸ refused)]
    exact alongside_tooLarge kind first second count placeholder near
  | none =>
    rw [withinLimits_of_built refused, withinLimits_of_built (near.elements ▸ refused)]
    exact builds _ ⟨near.place, by rw [near.elements], near.desync⟩

private theorem alongside_readCollection {kind : CollectionKind}
    {header : Read buf CollectionHeader} {header' : Read buf' CollectionHeader}
    (reads : Read.Lasting shift [] header header') {view : ε → ε}
    {entry : UInt8 → UInt8 → Decode buf (Option ε)}
    {entry' : UInt8 → UInt8 → Decode buf' (Option ε)}
    (alongside : ∀ first second, Alongside shift (Option.Rel (Same labels names names' view))
      (entry first second) (entry' first second)) {build : List ε → Value}
    (builds : ∀ all, (build all).relabel labels = build (all.map view)) :
    Alongside shift (Same labels names names' (Value.relabel labels))
      (readCollection limits kind header entry build)
      (readCollection limits kind header' entry' build) := by
  refine Alongside.bind reads fun h => alongside_withinLimits fun size => ?_
  apply (alongside_collect (alongside h.first h.second) .nil size).map
  intro all all' each hides
  rw [builds, builds, same_map each hides]

section Inner

variable {values : ValueReader buf} {values' : ValueReader buf'}
  (alongside : ∀ tag, Alongside shift (Same labels names names' (Value.relabel labels))
    (values.read tag) (values'.read tag))

include alongside

private theorem alongside_readItem (tag : UInt8) :
    Alongside shift (Option.Rel (Same labels names names' (Value.relabel labels)))
      (readItem values tag) (readItem values' tag) :=
  (alongside tag).map fun _ _ => .some

private theorem alongside_readPair (keyTag valueTag : UInt8) :
    Alongside shift
      (Option.Rel
        (Same labels names names' (Prod.map (Value.relabel labels) (Value.relabel labels))))
      (readPair values keyTag valueTag) (readPair values' keyTag valueTag) := by
  refine (alongside keyTag).turn (fun _ _ _ => .none) fun key key' sameKey => ?_
  refine (alongside valueTag).map fun value value' sameValue => .some fun hides => ?_
  rw [Prod.map, Prod.map, sameKey hides, sameValue hides]

variable (hidden : labels.HidesShift shift)

include hidden

/-- A field stays in step. Its number is the one that was read. -/
private theorem alongside_readField (tag : UInt8) (id : Int16) :
    Alongside shift (fun field field' => (field.id = id ∧ field'.id = id) ∧
        Same labels names names' (Field.relabel labels) field field')
      (giving (readField limits values tag id)) (giving (readField limits values' tag id)) := by
  intro s t near
  have paired := alongside tag near
  unfold giving
  generalize left : values.read tag s = outcome at paired
  generalize right : values'.read tag t = outcome' at paired
  cases paired with
  | ok same near₁ =>
    rw [readField_of_ok left, readField_of_ok right]
    refine .ok ⟨⟨rfl, rfl⟩, fun hides => ?_⟩ near₁
    rw [Field.decoded, Field.decoded, Field.relabel, Field.relabel, same hides]
  | @error fault s₁ t₁ near₁ =>
    rw [readField_of_error left, readField_of_error right]
    refine .ok ⟨⟨rfl, rfl⟩, fun _ => ?_⟩
      (inStep_skipOrLose (Read.lasting_skipValue _ _) (fun _ => rfl) (near₁.moveTo near.place))
    have text : labels.text (fault.moved shift).message = labels.text fault.message :=
      hidden (.header fault)
    rw [Field.failed, Field.failed, Field.relabel, Field.relabel, Option.map_some, Option.map_some,
      text]

/-- Fields stay in step. The names may differ, so the fields are the same only if the labels hide
the difference. -/
private theorem alongside_collectFields (size : Nat) :
    Alongside shift (List.Forall₂ fun entry entry' =>
        labels.Hides names names' → Fields.SameEntry labels names names' entry entry')
      (collectFields limits names values [] size)
      (collectFields limits names' values' [] size) := by
  have start : Alongside shift Eq (Pure.pure () : Decode buf Unit)
      (Pure.pure () : Decode buf' Unit) := .pure rfl
  refine start.turn (fun _ _ _ => .nil) fun _ _ _ => alongside_collect ?_ .nil size
  refine alongside_nextHeader.turn (fun _ _ _ => .none) ?_
  rintro (_ | ⟨tag, id⟩) _ rfl
  · exact .pure .none
  · refine (alongside_readField alongside hidden tag id).map fun field field' same => ?_
    exact .some fun hides => ⟨by rw [same.1.1], by rw [same.1.2], same.2 hides⟩

/-- The fields of a struct stay in step. -/
theorem alongside_readFields :
    Alongside shift (fun fields fields' =>
        fields'.incomplete.map labels.text = fields.incomplete.map labels.text ∧
          Same labels names names' (Fields.relabel labels) fields fields')
      (giving (readFields limits names values)) (giving (readFields limits names' values')) := by
  intro s t near
  have enough : buf.size < buf.size + buf'.size + 1 := by omega
  have enough' : buf'.size < buf.size + buf'.size + 1 := by omega
  obtain ⟨all, s₁, collected, read⟩ := exists_collected limits names values enough s
  obtain ⟨all', t₁, collected', read'⟩ := exists_collected limits names' values' enough' t
  have entries : Paired shift _ (collectFields limits names values [] _ s)
      (collectFields limits names' values' [] _ t) :=
    alongside_collectFields alongside hidden (buf.size + buf'.size + 1) near
  rw [collected, collected'] at entries
  rw [read, read']
  cases entries with
  | ok each near₁ =>
    have text : t₁.desyncReason.map labels.text = s₁.desyncReason.map labels.text := by
      rw [desyncReason, desyncReason, near₁.desync]
      cases s₁.desync with
      | none => rfl
      | some desync => exact congrArg some (hidden desync)
    refine .ok ⟨text, fun hides => ?_⟩ near₁
    have same := Fields.relabel_ofList hides (each.imp fun _ _ same => same hides)
    rw [Fields.relabel, Fields.relabel, text, same]

end Inner

/-- Values stay in step, whatever levels of nesting are left. -/
theorem alongside_values (hidden : labels.HidesShift shift) (depth : Nat) (tag : UInt8) :
    Alongside shift (Same labels names names' (Value.relabel labels))
      ((values limits names depth : ValueReader buf).read tag)
      ((values limits names' depth : ValueReader buf').read tag) := by
  apply values_induction (motive := fun depth tag act =>
    Alongside shift (Same labels names names' (Value.relabel labels)) act
      ((values limits names' depth : ValueReader buf').read tag))
  case tooDeep =>
    intro depth tag deep
    rw [read_of_noLevel deep]
    exact alongside_tooDeep tag
  case unknown =>
    intro depth tag unknown
    rw [read_of_unknown unknown]
    exact fun _ _ near => .ok (fun _ => rfl) (near.lose (.unknownTag tag))
  case fixed =>
    intro depth tag width fixed
    rw [read_of_fixed fixed]
    exact alongside_leaf (Read.lasting_natural width) _
  case string =>
    intro depth tag known
    rw [read_of_string known]
    exact alongside_leaf Read.lasting_string _
  case struct =>
    intro depth tag known left alongside
    rw [read_of_struct known left]
    apply (alongside_readFields alongside hidden).map
    intro fields fields' same hides
    rw [Value.relabel, Value.relabel, same.2 hides]
  case map =>
    intro depth tag known alongside
    rw [read_of_map known]
    refine alongside_readCollection lasting_mapHeader (alongside_readPair alongside) fun all => ?_
    rw [Value.relabel, Value.relabelPairs_eq]
  case sequence =>
    intro depth tag kind build sequence alongside
    rw [read_of_sequence sequence]
    refine alongside_readCollection lasting_sequenceHeader
      (fun tag _ => alongside_readItem alongside tag) fun all => ?_
    cases sequence <;> rw [Value.relabel, Value.relabelItems_eq]

end Values

/-! ## Bodies -/

/-- The bodies of two messages stay in step if the same bytes are behind their envelopes. -/
theorem paired_body {labels : Labels} (hidden : labels.HidesShift shift) (limits : Limits)
    (registry registry' : Option Registry) (envelope envelope' : Envelope) {c : Cursor buf}
    {d : Cursor buf'} (place : c.Continues shift [] d) :
    Paired shift (fun fields fields' =>
        fields'.incomplete.map labels.text = fields.incomplete.map labels.text ∧
          Same labels (namesOf registry envelope) (namesOf registry' envelope')
            (Fields.relabel labels) fields fields')
      (.ok (body limits registry envelope c).1 (body limits registry envelope c).2)
      (.ok (body limits registry' envelope' d).1 (body limits registry' envelope' d).2) :=
  alongside_readFields (alongside_values hidden _) hidden ⟨place, rfl, rfl⟩

end Decoder

end TaggedRpc
