import TaggedRpc.Proofs.Decode.Boundaries
import TaggedRpc.Proofs.Decode.Message
import TaggedRpc.Proofs.Tree.Agreement

/-!
# Limits only hide values

Two runs over the same bytes, under different limits. Where both keep synchronisation they end at
the same place, because the same walk follows both, and their results agree (`Parallel`). The runs
may take different branches at a value: one may build it, the other may stand in for it or keep a
fault. Whatever they do they meet again behind it.
-/

namespace TaggedRpc

namespace Decoder

variable {buf : ByteArray} {α β γ δ ε : Type}

/-- Two actions whose results are related wherever both keep synchronisation from the same place. -/
def Parallel (related : α → β → Prop) (act : Decode buf α) (act' : Decode buf β) : Prop :=
  ∀ ⦃s u : Decoder buf⦄ ⦃a : α⦄ ⦃b : β⦄ ⦃t v : Decoder buf⦄, s.cursor = u.cursor →
    s.desync = none → u.desync = none → act s = .ok a t → act' u = .ok b v →
      t.desync = none → v.desync = none → related a b

private theorem cursor_eq_of_follows {walk : Read buf Unit} {act : Decode buf α}
    {act' : Decode buf β} (follows : Follows walk act) (follows' : Follows walk act')
    {s u t v : Decoder buf} {a : α} {b : β} (same : s.cursor = u.cursor)
    (kept : s.desync = none) (kept' : u.desync = none)
    (outcome : act s = .ok a t) (outcome' : act' u = .ok b v) (final : t.desync = none)
    (final' : v.desync = none) : t.cursor = v.cursor := by
  have passed := follows kept outcome final
  have passed' := follows' kept' outcome' final'
  rw [same, passed'] at passed
  injection passed with _ place
  exact place.symm

/-! ## Parts -/

section Parts

variable {related : α → β → Prop} {related' : γ → δ → Prop} {act : Decode buf α}
  {act' : Decode buf β}

private theorem Parallel.pure {a : α} {b : β} (holds : related a b) :
    Parallel related (Pure.pure a : Decode buf α) (Pure.pure b) := by
  intro s u _ _ t v _ _ _ outcome outcome' _ _
  obtain ⟨rfl, -⟩ := pure_eq_ok_iff.mp outcome
  obtain ⟨rfl, -⟩ := pure_eq_ok_iff.mp outcome'
  exact holds

private theorem Parallel.map {f : α → γ} {g : β → δ} (parallel : Parallel related act act')
    (keeps : ∀ a b, related a b → related' (f a) (g b)) :
    Parallel related' (f <$> act) (g <$> act') := by
  intro s s' c d t t' same kept kept' outcome outcome' final final'
  obtain ⟨a, first, rfl⟩ := map_eq_ok_iff.mp outcome
  obtain ⟨b, second, rfl⟩ := map_eq_ok_iff.mp outcome'
  exact keeps a b (parallel same kept kept' first second final final')

private theorem Parallel.bind {read : Read buf ε} {next : ε → Decode buf α}
    {next' : ε → Decode buf β} (parallel : ∀ c, Parallel related (next c) (next' c)) :
    Parallel related (reading read >>= next) (reading read >>= next') := by
  intro s s' a b t t' same kept kept' outcome outcome' final final'
  obtain ⟨c, u, first, rest⟩ := bind_eq_ok_iff.mp outcome
  obtain ⟨d, u', first', rest'⟩ := bind_eq_ok_iff.mp outcome'
  obtain ⟨place, passed, rfl⟩ := reading_eq_ok_iff.mp first
  obtain ⟨place', passed', rfl⟩ := reading_eq_ok_iff.mp first'
  rw [same, passed'] at passed
  cases passed
  exact parallel c (s := { s with cursor := place }) (u := { s' with cursor := place }) rfl kept
    kept' rest rest' final final'

private theorem Parallel.turn {walk : Read buf Unit} {stop : α → γ} {go : α → Decode buf γ}
    {stop' : β → δ} {go' : β → Decode buf δ} (first : Parallel related act act')
    (follows : Follows walk act) (follows' : Follows walk act')
    (goes : ∀ a b, related a b → Parallel related' (go a) (go' b)) :
    Parallel related' (turn act stop go) (turn act' stop' go') := by
  intro s s' c d t t' same kept kept' outcome outcome' final final'
  obtain ⟨a, u, done, going, rest⟩ := turn_kept outcome final
  obtain ⟨b, u', done', going', rest'⟩ := turn_kept outcome' final'
  have place := cursor_eq_of_follows follows follows' same kept kept' done done' going going'
  exact goes a b (first same kept kept' done done' going going') place going going' rest rest'
    final final'

private theorem parallel_reading (read : Read buf ε) (build : ε → Value) :
    Parallel Value.Agrees (build <$> reading read) (build <$> reading read) := by
  rw [map_eq_pure_bind]
  exact Parallel.bind fun c => .pure (.refl _)

private theorem isHidden_of_refusal? {limits : Limits} {elements : Nat} {kind : CollectionKind}
    {count : Int32} {placeholder : Placeholder}
    (refused : limits.refusal? elements kind count = some placeholder) :
    placeholder.isHidden := by
  rcases eq_of_refusal? refused with ⟨rfl, -⟩ | ⟨rfl, -⟩ <;> rfl

variable {limits limits' : Limits} {kind : CollectionKind}

private theorem parallel_withinLimits {first second : UInt8} {count : Int32}
    {build build' : Nat → Decode buf Value}
    (builds : ∀ n, Parallel Value.Agrees (build n) (build' n)) :
    Parallel Value.Agrees (withinLimits limits kind first second count build)
      (withinLimits limits' kind first second count build') := by
  intro s s' a b t t' same kept kept' outcome outcome' final final'
  cases refused : limits.refusal? s.elements kind count with
  | some placeholder =>
    rw [withinLimits_of_refused refused, giving_eq_ok_iff] at outcome
    cases outcome
    exact .hidden (.inl (isHidden_of_refusal? refused))
  | none =>
    rw [withinLimits_of_built refused] at outcome
    cases refused' : limits'.refusal? s'.elements kind count with
    | some placeholder =>
      rw [withinLimits_of_refused refused', giving_eq_ok_iff] at outcome'
      cases outcome'
      exact .hidden (.inr (isHidden_of_refusal? refused'))
    | none =>
      rw [withinLimits_of_built refused'] at outcome'
      exact builds _ (s := { s with elements := s.elements + count.toNatClampNeg })
        (u := { s' with elements := s'.elements + count.toNatClampNeg }) same kept kept' outcome
        outcome' final final'

private theorem parallel_tooDeep (tag : UInt8) (act : Decode buf Value) :
    Parallel Value.Agrees (giving (tooDeep limits tag)) act := by
  intro s s' value value' t t' _ _ _ outcome _ _ _
  rw [giving_eq_ok_iff] at outcome
  cases outcome
  exact .hidden (.inl rfl)

private theorem parallel_tooDeep' (tag : UInt8) (act : Decode buf Value) :
    Parallel Value.Agrees act (giving (tooDeep limits tag)) := by
  intro s s' value value' t t' _ _ _ _ outcome _ _
  rw [giving_eq_ok_iff] at outcome
  cases outcome
  exact .hidden (.inr rfl)

private theorem parallel_unknownType (tag : UInt8) (act : Decode buf Value) :
    Parallel Value.Agrees (giving (unknownType tag)) act := by
  intro s s' value value' t t' _ _ _ outcome _ final _
  rw [giving_eq_ok_iff] at outcome
  cases outcome
  cases final

end Parts

/-! ## Collections -/

section Collections

variable {related : ε → ε → Prop} {limits limits' : Limits} {kind : CollectionKind}

private theorem parallel_collect {walk : Read buf Unit} {entry entry' : Decode buf (Option ε)}
    (follows : Follows walk entry) (follows' : Follows walk entry')
    (parallel : Parallel (Option.Rel related) entry entry') {done done' : List ε}
    (before : List.Forall₂ related done done') (size : Nat) :
    Parallel (List.Forall₂ related) (collect entry done size) (collect entry' done' size) := by
  induction size generalizing done done' with
  | zero => exact .pure (List.rel_reverse before)
  | succ left ih =>
    refine parallel.turn follows follows' fun next next' holds => ?_
    cases holds with
    | some holds => exact ih (.cons holds before)
    | none => exact .pure (List.rel_reverse before)

private theorem parallel_readCollection {header : Read buf CollectionHeader}
    {walk : UInt8 → UInt8 → Read buf Unit} {entry entry' : UInt8 → UInt8 → Decode buf (Option ε)}
    {build : List ε → Value}
    (follows : ∀ first second, Follows (walk first second) (entry first second))
    (follows' : ∀ first second, Follows (walk first second) (entry' first second))
    (parallel : ∀ first second,
      Parallel (Option.Rel related) (entry first second) (entry' first second))
    (keeps : ∀ {all all'}, List.Forall₂ related all all' → (build all).Agrees (build all')) :
    Parallel Value.Agrees (readCollection limits kind header entry build)
      (readCollection limits' kind header entry' build) := by
  apply Parallel.bind
  intro h
  apply parallel_withinLimits
  intro size
  have entries := parallel_collect (follows h.first h.second) (follows' h.first h.second)
    (parallel h.first h.second) .nil size
  exact entries.map fun _ _ => keeps

variable {walker : Walker buf} {values values' : ValueReader buf}
  (follows : ∀ tag, Follows (walker.pass tag) (values.read tag))
  (follows' : ∀ tag, Follows (walker.pass tag) (values'.read tag))
  (parallel : ∀ tag, Parallel Value.Agrees (values.read tag) (values'.read tag))

include follows follows' parallel

private theorem parallel_readMap :
    Parallel Value.Agrees (readCollection limits .map mapHeader (readPair values) .map)
      (readCollection limits' .map mapHeader (readPair values') .map) := by
  refine parallel_readCollection (follows_readPair follows) (follows_readPair follows') ?_ .map
  intro keyTag valueTag
  refine (parallel keyTag).turn (follows keyTag) (follows' keyTag) fun key key' keys => ?_
  exact (parallel valueTag).map fun value value' agree => .some (.mk keys agree)

private theorem parallel_readSequence {tag : UInt8} {kind : CollectionKind}
    {build : List Value → Value} (sequence : Sequence tag kind build) :
    Parallel Value.Agrees
      (readCollection limits kind sequenceHeader (fun tag _ => readItem values tag) build)
      (readCollection limits' kind sequenceHeader (fun tag _ => readItem values' tag) build) := by
  apply parallel_readCollection (fun tag _ => (follows tag).map some)
    (fun tag _ => (follows' tag).map some) fun tag _ => (parallel tag).map fun _ _ => .some
  cases sequence with
  | set => exact .set
  | list => exact .list

end Collections

/-! ## Structs -/

section Structs

variable {limits limits' : Limits} {names : FieldNames} {walker : Walker buf}
  {values values' : ValueReader buf} (extend : walker.Extends (recovery limits))
  (extend' : walker.Extends (recovery limits'))
  (follows : ∀ tag, Follows (walker.pass tag) (values.read tag))
  (follows' : ∀ tag, Follows (walker.pass tag) (values'.read tag))
  (parallel : ∀ tag, Parallel Value.Agrees (values.read tag) (values'.read tag))

private theorem follows_nextHeader :
    Follows (do let _ ← readHeader; return : Read buf Unit) (giving nextHeader) := by
  intro s header t _ outcome final
  obtain ⟨c, read, rfl⟩ := readHeader_of_kept outcome final
  rw [bind_of_ok read]
  rfl

private theorem parallel_nextHeader :
    Parallel Eq (giving nextHeader : Decode buf (Option (UInt8 × Int16))) (giving nextHeader) := by
  intro s s' header header' t t' same _ _ outcome outcome' final final'
  obtain ⟨c, read, rfl⟩ := readHeader_of_kept outcome final
  obtain ⟨c', read', rfl⟩ := readHeader_of_kept outcome' final'
  rw [same, read'] at read
  cases read
  rfl

include extend follows in
private theorem follows_readEntry :
    Follows (do
      match ← readHeader with
      | none => return
      | some (tag, _) => walker.pass tag) (readEntry limits names values) := by
  intro s next t kept outcome final
  obtain ⟨header, u, first, going, rest⟩ := turn_kept outcome final
  obtain ⟨c, read, rfl⟩ := readHeader_of_kept first going
  rw [bind_of_ok read]
  rcases header with _ | ⟨tag, id⟩
  · obtain ⟨-, rfl⟩ := pure_eq_ok_iff.mp rest
    rfl
  · exact ((follows_readField extend (follows tag) id).map _) going rest final

private theorem parallel_readField {tag : UInt8}
    (parallel : Parallel Value.Agrees (values.read tag) (values'.read tag)) (id : Int16) :
    Parallel Field.Agrees (giving (readField limits values tag id))
      (giving (readField limits' values' tag id)) := by
  intro s s' field field' t t' same kept kept' outcome outcome' final final'
  rw [giving_eq_ok_iff] at outcome outcome'
  cases read : values.read tag s with
  | error fault u =>
    rw [readField_of_error read] at outcome
    cases outcome
    cases read' : values'.read tag s' with
    | error fault' u' =>
      rw [readField_of_error read'] at outcome'
      cases outcome'
      exact .failed rfl rfl (.inl rfl)
    | ok value' u' =>
      rw [readField_of_ok read'] at outcome'
      cases outcome'
      exact .failed rfl rfl (.inl rfl)
  | ok value u =>
    rw [readField_of_ok read] at outcome
    cases outcome
    cases read' : values'.read tag s' with
    | error fault' u' =>
      rw [readField_of_error read'] at outcome'
      cases outcome'
      exact .failed rfl rfl (.inr rfl)
    | ok value' u' =>
      rw [readField_of_ok read'] at outcome'
      cases outcome'
      exact .decoded (parallel same kept kept' read read' final final')

include parallel in
/-- Fields agree. Both runs read the same headers, as they meet again behind every value. -/
private theorem parallel_readEntry :
    Parallel (Option.Rel Fields.EntryAgrees) (readEntry limits names values)
      (readEntry limits' names values') := by
  refine parallel_nextHeader.turn follows_nextHeader follows_nextHeader ?_
  rintro (_ | ⟨tag, id⟩) _ rfl
  · exact .pure .none
  · exact (parallel_readField (parallel tag) id).map fun _ _ agree => .some (.mk agree)

include extend extend' follows follows' parallel in
private theorem parallel_readFields :
    Parallel Fields.Agrees (giving (readFields limits names values))
      (giving (readFields limits' names values')) := by
  intro s s' fields fields' t t' same kept kept' outcome outcome' final final'
  have enough := Nat.lt_succ_self buf.size
  obtain ⟨all, u, collected, read⟩ := exists_collected limits names values enough s
  obtain ⟨all', u', collected', read'⟩ := exists_collected limits' names values' enough s'
  cases read.symm.trans outcome
  cases read'.symm.trans outcome'
  rw [collectFields_of_kept kept] at collected
  rw [collectFields_of_kept kept'] at collected'
  have entries := parallel_collect (follows_readEntry extend follows)
    (follows_readEntry extend' follows')
    (parallel_readEntry parallel) .nil _ same kept kept' collected collected' final final'
  have nothing : t.desyncReason = t'.desyncReason :=
    congrArg (Option.map Desync.message) (final.trans final'.symm)
  dsimp only
  rw [nothing]
  exact .mk (Fields.ofList_agrees entries)

end Structs

/-! ## Values -/

section Values

variable {limits limits' : Limits} (skips : limits.skipUnbuilt) (skips' : limits'.skipUnbuilt)
  (names : FieldNames)

include skips skips'

/-- One walk follows both readers: it has room for the levels of nesting on either side. -/
private theorem exists_walker (depth depth' : Nat) :
    ∃ walker : Walker buf, walker.Extends (recovery limits) ∧ walker.Extends (recovery limits') ∧
      (∀ tag, Follows (walker.pass tag) ((values limits names depth).read tag)) ∧
        ∀ tag, Follows (walker.pass tag) ((values limits' names depth').read tag) := by
  refine ⟨.ofRoom 0 (depth + limits.maxSkipDepth + (depth' + limits'.maxSkipDepth)), ?_, ?_, ?_, ?_⟩
  · exact Walker.extends_of_le (by omega)
  · exact Walker.extends_of_le (by omega)
  · exact follows_values skips 0 (Nat.le_add_right _ _)
  · exact follows_values skips' 0 (Nat.le_add_left _ _)

omit skips skips' in
private theorem parallel_of_level {tag : UInt8} {act : Decode buf Value}
    (level : ∀ depth', Parallel Value.Agrees act ((values limits' names (depth' + 1)).read tag))
    (depth' : Nat) : Parallel Value.Agrees act ((values limits' names depth').read tag) := by
  cases depth' with
  | zero => exact parallel_tooDeep' tag _
  | succ depth' => exact level depth'

/-- Values agree, whatever levels of nesting are left on either side. -/
theorem parallel_values (depth depth' : Nat) (tag : UInt8) :
    Parallel Value.Agrees ((values limits names depth : ValueReader buf).read tag)
      ((values limits' names depth').read tag) := by
  revert depth'
  apply values_induction (motive := fun _ tag act => ∀ depth',
    Parallel Value.Agrees act ((values limits' names depth').read tag))
  case tooDeep => exact fun _ _ => parallel_tooDeep _ _
  case unknown => exact fun _ _ => parallel_unknownType _ _
  case fixed =>
    intro depth tag width fixed
    refine parallel_of_level names fun depth' => ?_
    rw [read_of_fixed fixed]
    exact parallel_reading _ _
  case string =>
    intro depth tag known
    refine parallel_of_level names fun depth' => ?_
    rw [read_of_string known]
    exact parallel_reading _ _
  case struct =>
    intro depth tag known _ parallel
    refine parallel_of_level names fun depth' => ?_
    by_cases left : depth' = 0
    · rw [read_of_noLevel (.inr ⟨by rw [left], known⟩)]
      exact parallel_tooDeep' tag _
    · obtain ⟨walker, extend, extend', follows, follows'⟩ :=
        exists_walker skips skips' names depth depth'
      rw [read_of_struct known left]
      exact (parallel_readFields extend extend' follows follows' fun tag =>
        parallel tag depth').map fun _ _ => .struct
  case map =>
    intro depth tag known parallel
    refine parallel_of_level names fun depth' => ?_
    obtain ⟨walker, -, -, follows, follows'⟩ := exists_walker skips skips' names depth depth'
    rw [read_of_map known]
    exact parallel_readMap follows follows' fun tag => parallel tag depth'
  case sequence =>
    intro depth tag kind build sequence parallel
    refine parallel_of_level names fun depth' => ?_
    obtain ⟨walker, -, -, follows, follows'⟩ := exists_walker skips skips' names depth depth'
    rw [read_of_sequence sequence]
    exact parallel_readSequence follows follows' (fun tag => parallel tag depth') sequence

/-- The fields of a struct are read under other limits where they are read under some, if skipping
has room for all that the first limits build and skip. They end at the same place and agree. -/
theorem readFields_of_limits (depth depth' : Nat)
    (room : depth + limits.maxSkipDepth ≤ limits'.maxSkipDepth) {s : Decoder buf}
    (kept : s.desync = none)
    (final : (readFields limits names (values limits names depth) s).2.desync = none) :
    let read := readFields limits names (values limits names depth) s
    let read' := readFields limits' names (values limits' names depth') s
    read'.2.desync = none ∧ read'.2.cursor = read.2.cursor ∧ read.1.Agrees read'.1 := by
  intro read read'
  have passed : (recovery limits').fields s.cursor = .ok () read.2.cursor :=
    follows_readFields names (Walker.extends_of_le (by omega))
      (fun tag => follows_values skips _ room tag) kept rfl final
  have arrives : Arrives read.2.cursor (.ok read'.1 read'.2) :=
    meets_readFields names (Walker.extends_of_le (Nat.le_refl _))
      (fun tag => meets_values skips' (Nat.le_refl _) depth' tag) kept passed
  cases arrives with
  | ok place final' =>
    obtain ⟨walker, extend, extend', follows, follows'⟩ :=
      exists_walker skips skips' names depth depth'
    refine ⟨final', place, ?_⟩
    exact parallel_readFields extend extend' follows follows'
      (fun tag => parallel_values skips skips' names depth depth' tag) rfl kept kept rfl rfl final
      final'

/-- Limits that hide nothing and let no field fail make no difference to the fields of a struct. -/
theorem readFields_eq_of_isShown (depth depth' : Nat)
    (room : depth + limits.maxSkipDepth ≤ limits'.maxSkipDepth) {s : Decoder buf}
    (kept : s.desync = none)
    (final : (readFields limits names (values limits names depth) s).2.desync = none)
    (shown : (Value.struct (readFields limits names (values limits names depth) s).1).IsShown)
    (shown' : (Value.struct
      (readFields limits' names (values limits' names depth') s).1).IsShown) :
    (readFields limits names (values limits names depth) s).1 =
      (readFields limits' names (values limits' names depth') s).1 := by
  have agree := (readFields_of_limits skips skips' names depth depth' room kept final).2.2
  exact agree.eq_of_isShown shown shown'

end Values

end Decoder

/-- Limits only hide values. A message whose fields are complete under some limits is decoded under
any other limits, if skipping has room for all that the first limits build and skip: its fields are
complete, as many bytes are read, and the two trees are the same except where a limit hides a value
or a field has failed. -/
theorem decode_agrees (limits limits' : Limits) (registry : Option Registry) (buf : ByteArray)
    (skips : limits.skipUnbuilt) (skips' : limits'.skipUnbuilt)
    (room : limits.maxDepth + limits.maxSkipDepth ≤ limits'.maxSkipDepth) {message : Message}
    (decoded : decode limits registry buf = .ok message)
    (complete : message.fields.incomplete = none) :
    ∃ message', decode limits' registry buf = .ok message' ∧
      message'.fields.incomplete = none ∧ message'.bytesConsumed = message.bytesConsumed ∧
        message'.envelope = message.envelope ∧ message.fields.Agrees message'.fields := by
  obtain ⟨envelope, c, header, rfl⟩ := decode_eq_ok_iff.mp decoded
  obtain ⟨final, place, agree⟩ := Decoder.readFields_of_limits skips skips'
    (Decoder.namesOf registry envelope) limits.maxDepth limits'.maxDepth room
    (s := { Decoder.start buf with cursor := c }) rfl (Option.map_eq_none_iff.mp complete)
  refine ⟨_, decode_eq_ok_iff.mpr ⟨envelope, c, header, rfl⟩, ?_⟩
  exact ⟨congrArg (Option.map Desync.message) final, congrArg Cursor.pos place, rfl, agree⟩

/-- A call with one field, which is a list of one short integer, and one byte behind it. -/
def listCall : ByteArray :=
  ⟨#[0x80, 1, 0, 1, 0, 0, 0, 1, 102, 0, 0, 0, 7, 15, 0, 1, 6, 0, 0, 0, 1, 0, 7, 0, 9]⟩

/-- Hiding the items of a list leaves the end of the message where it is. -/
theorem decode_listCall :
    ∃ message, decode { maxDepth := 1, maxSkipDepth := 288 } none listCall = .ok message ∧
      message.fields.incomplete = none ∧ message.bytesConsumed = 24 := by
  have run : (decode {} none listCall).toOption.map
      (fun message => (message.fields.incomplete, message.bytesConsumed)) = some (none, 24) := by
    decide +kernel
  cases decoded : decode {} none listCall with
  | error error =>
    rw [decoded] at run
    cases run
  | ok message =>
    rw [decoded] at run
    have seen := Option.some.inj run
    obtain ⟨message', decoded', complete, consumed, -⟩ :=
      decode_agrees {} { maxDepth := 1, maxSkipDepth := 288 } none listCall rfl rfl (by decide)
        decoded (congrArg Prod.fst seen)
    exact ⟨message', decoded', complete, consumed.trans (congrArg Prod.snd seen)⟩

end TaggedRpc
