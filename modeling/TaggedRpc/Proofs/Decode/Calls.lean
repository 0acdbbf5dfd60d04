import TaggedRpc.Proofs.Decode.Counted

/-!
# Calls on one decoder

A decoder may be asked for fields and values and to skip values in any order, with any tags, levels
of nesting and limits, and also after it has failed or lost synchronisation. Whatever the calls are,
it moves in one direction only (`Onward`): it does not move back, does not count down, and does not
forget that it has lost synchronisation (`afterCalls_invariants`).

A loss may be found out in the middle of a value. Nothing is read after it, so a call that fails has
not lost synchronisation (`Counted`).
-/

namespace TaggedRpc

namespace Decoder

variable {buf : ByteArray} {α β : Type}

/-! ## Calls -/

/-- What a decoder may be asked for. -/
inductive Call where
  /-- The fields of a struct, whose values may have a number of levels of nesting. -/
  | fields (depth : Nat)
  /-- A value with a tag byte, which may have a number of levels of nesting. -/
  | value (tag : UInt8) (depth : Nat)
  /-- To skip a value with a tag byte, with at most a number of containers open at a time. -/
  | skip (tag : UInt8) (limit : Nat)
  deriving DecidableEq, Repr

/-- What a call gives if it does not fail. -/
inductive Answer where
  | fields (fields : Fields)
  | value (value : Value)
  | skipped

/-- The decoder that an outcome leaves, whether it is a success or not. -/
def leaves : EStateM.Result Fault (Decoder buf) α → Decoder buf
  | .ok _ t => t
  | .error _ t => t

section Calls

variable (limits : Limits) (names : FieldNames)

/-- Do what a decoder is asked for. -/
def Call.run : Call → Decode buf Answer
  | .fields depth => .fields <$> giving (readFields limits names (values limits names depth))
  | .value tag depth => .value <$> (values limits names depth).read tag
  | .skip tag limit => (fun _ => .skipped) <$> reading (Read.skipValue limit tag)

/-- The decoder after a call. -/
def Call.after (call : Call) (s : Decoder buf) : Decoder buf := leaves (call.run limits names s)

/-- The decoder after calls one after another. -/
def afterCalls (calls : List Call) (s : Decoder buf) : Decoder buf :=
  calls.foldl (fun s call => call.after limits names s) s

variable {limits names} {s t u : Decoder buf}

/-- Two decoders, of which the second may come after the first one. -/
structure Onward (s t : Decoder buf) : Prop where
  pos : s.pos ≤ t.pos
  elements : s.elements ≤ t.elements
  lost : s.desync.isSome → t.desync.isSome

/-- A decoder may come after itself. -/
theorem Onward.refl (s : Decoder buf) : s.Onward s := ⟨Nat.le_refl _, Nat.le_refl _, id⟩

/-- A decoder may come after all that those before it come after. -/
theorem Onward.trans (first : s.Onward t) (second : t.Onward u) : s.Onward u where
  pos := Nat.le_trans first.pos second.pos
  elements := Nat.le_trans first.elements second.elements
  lost := second.lost ∘ first.lost

private theorem readFields_of_lost {values : ValueReader buf} (lost : s.desync.isSome) :
    readFields limits names values s = (⟨[], s.desyncReason⟩, s) :=
  giving_eq_ok_iff.mp (giving_readFields_of_entries (giving_readEntries_of_lost lost))

private theorem onward_leaves {outcome : EStateM.Result Fault (Decoder buf) α} {weight : α → Nat}
    (pos : s.pos ≤ (leaves outcome).pos) (counted : Counted limits s 0 weight outcome) :
    s.Onward (leaves outcome) ∧ (leaves outcome).elements ≤ limits.maxElements := by
  cases counted with
  | ok counts within lost =>
    exact ⟨⟨pos, Nat.le_trans (Nat.le_add_right _ _) counts, lost⟩, within⟩
  | error counts within same =>
    exact ⟨⟨pos, counts, fun lost => by rwa [leaves, same]⟩, within⟩

private theorem pos_le_leaves {act : Decode buf α} (forth : Advances pos 0 act) (s : Decoder buf) :
    s.pos ≤ (leaves (act s)).pos := by
  have moved := forth s
  cases outcome : act s <;> rw [outcome] at moved <;> exact moved

private theorem leaves_map (f : α → β) (act : Decode buf α) (s : Decoder buf) :
    leaves ((f <$> act) s) = leaves (act s) := by
  change leaves (EStateM.map f act s) = _
  unfold EStateM.map
  cases act s <;> rfl

/-- Every call leaves a decoder that may come after, and that has not counted too much. -/
theorem onward_after (call : Call) (within : s.elements ≤ limits.maxElements) :
    s.Onward (call.after limits names s) ∧
      (call.after limits names s).elements ≤ limits.maxElements := by
  unfold Call.after Call.run
  cases call with
  | fields depth =>
    rw [leaves_map]
    exact onward_leaves (pos_le_readEntries limits names _ [] s)
      (counts_readFields (counts_values limits names depth) names within)
  | value tag depth =>
    rw [leaves_map]
    exact onward_leaves (pos_le_leaves ((values limits names depth).forth tag) s)
      (counts_values limits names depth tag within)
  | skip tag limit =>
    have moved := pos_le_leaves (advances_reading (Read.advances_skipValue limit tag)) s
    rw [leaves_map]
    unfold reading at moved ⊢
    cases outcome : Read.skipValue limit tag s.cursor <;> rw [outcome] at moved <;>
      exact ⟨⟨moved, Nat.le_refl _, id⟩, within⟩

/-- Calls one after another leave a decoder that may come after, and that has not counted too
much. -/
theorem onward_afterCalls (calls : List Call) (within : s.elements ≤ limits.maxElements) :
    s.Onward (afterCalls limits names calls s) ∧
      (afterCalls limits names calls s).elements ≤ limits.maxElements := by
  induction calls generalizing s with
  | nil => exact ⟨.refl s, within⟩
  | cons call rest ih =>
    obtain ⟨first, within'⟩ := onward_after call within
    obtain ⟨second, within''⟩ := ih within'
    exact ⟨first.trans second, within''⟩

private theorem run_skip_of_error {tag : UInt8} {limit : Nat} {fault : Fault}
    (failed : (Call.skip tag limit).run limits names s = .error fault t) : t = s := by
  obtain ⟨c, skipped, rfl⟩ := reading_eq_error_iff.mp (map_eq_error_iff.mp failed)
  unfold Read.skipValue Read.atomically at skipped
  split at skipped <;> cases skipped
  rfl

private theorem run_value_of_error {tag : UInt8} {depth : Nat} {fault : Fault}
    (within : s.elements ≤ limits.maxElements)
    (failed : (Call.value tag depth).run limits names s = .error fault t) :
    t.desync = s.desync := by
  have counted := counts_values limits names depth tag within
  rw [map_eq_error_iff.mp failed] at counted
  cases counted with
  | error _ _ same => exact same

private theorem after_skip (tag : UInt8) (limit : Nat) (s : Decoder buf) :
    ((Call.skip tag limit).after limits names s).elements = s.elements ∧
      ((Call.skip tag limit).after limits names s).desync = s.desync := by
  rw [Call.after, Call.run, leaves_map, reading]
  cases Read.skipValue limit tag s.cursor <;> exact ⟨rfl, rfl⟩

end Calls

/-- What holds of a decoder after any calls. Its place is in the buffer, and it has counted no more
entries than a message may have. Whatever it is asked for then, it does not move back, does not
count down and does not forget that synchronisation is lost. Skipping changes its place only, and
not even that if it fails. A value that fails leaves the loss of synchronisation as it was. Where
synchronisation is lost no fields are read, nothing is consumed, and the reason of the loss is
given. -/
theorem afterCalls_invariants (limits : Limits) (names : FieldNames) (buf : ByteArray)
    (calls : List Call) :
    let s : Decoder buf := afterCalls limits names calls (start buf)
    (s.pos ≤ buf.size ∧ s.elements ≤ limits.maxElements) ∧
    (∀ later, s.Onward (afterCalls limits names later s)) ∧
    (∀ tag limit,
      ((Call.skip tag limit).after limits names s).elements = s.elements ∧
      ((Call.skip tag limit).after limits names s).desync = s.desync ∧
      ∀ fault t, (Call.skip tag limit).run limits names s = .error fault t → t = s) ∧
    (∀ tag depth fault t,
      (Call.value tag depth).run limits names s = .error fault t → t.desync = s.desync) ∧
    ∀ depth, s.desync.isSome →
      (Call.fields depth).run limits names s = .ok (.fields ⟨[], s.desyncReason⟩) s := by
  intro s
  have within : s.elements ≤ limits.maxElements :=
    (onward_afterCalls calls (Nat.zero_le _)).2
  refine ⟨⟨s.cursor.pos_le_size, within⟩, ?_, ?_, ?_, ?_⟩
  · exact fun later => (onward_afterCalls later within).1
  · intro tag limit
    obtain ⟨elements, desync⟩ := after_skip tag limit s
    exact ⟨elements, desync, fun _ _ => run_skip_of_error⟩
  · exact fun _ _ _ _ => run_value_of_error within
  · intro depth lost
    exact map_eq_ok_iff.mpr ⟨_, giving_eq_ok_iff.mpr (readFields_of_lost lost), rfl⟩

/-- A list of two items with an unknown tag, and a boolean behind it. -/
def unknownItems : ByteArray := ⟨#[5, 0, 0, 0, 2, 7, 1]⟩

/-- After the list no fields are read, and the unknown tag is the reason. The place is still behind
the header of the list. -/
theorem run_fields_unknownItems :
    let s : Decoder unknownItems :=
      afterCalls {} .empty [.value Tag.list.toByte 2, .skip Tag.string.toByte 0]
        (start unknownItems)
    s.pos = 5 ∧
      (Call.fields 2).run {} .empty s = .ok (.fields ⟨[], some "unknown type tag 5"⟩) s := by
  intro s
  have reason : s.desyncReason = some "unknown type tag 5" := by decide +kernel
  have lost : s.desync.isSome := by decide +kernel
  refine ⟨by decide +kernel, ?_⟩
  rw [← reason]
  exact (afterCalls_invariants {} .empty unknownItems
    [.value Tag.list.toByte 2, .skip Tag.string.toByte 0]).2.2.2.2 2 lost

end Decoder

end TaggedRpc
