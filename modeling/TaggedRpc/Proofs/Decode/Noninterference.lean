import TaggedRpc.Proofs.Decode.Budget
import TaggedRpc.Proofs.Decode.Framing
import TaggedRpc.Proofs.Tree.Insertions

/-!
# Fields do not interfere

Two messages that differ in the value of one field of the body only. Decoding comes to the value in
the same way in both, as nothing behind it has been read so far. It ends behind the value in both,
whatever is in it, if the value can be skipped. Then the bytes that follow are the same, but not the
place and the number of entries that were counted. Neither makes a difference if there are entries
to spare, so all other fields are the same (`decode_of_field_changed`).
-/

namespace TaggedRpc

variable {buf buf' : ByteArray} {shift : Nat} {more : List UInt8}

/-- A value with a tag byte can be skipped from one offset of a buffer exactly up to another one. -/
def Read.SkipsTo (limit : Nat) (tag : UInt8) (buf : ByteArray) (first last : Nat) : Prop :=
  ∃ c d : Cursor buf, c.pos = first ∧ d.pos = last ∧ Read.skipValue limit tag c = .ok () d

private theorem Read.skipsTo_of_seen {limit : Nat} {tag : UInt8} {c : Cursor buf} {last : Nat}
    (run : (match Read.skipValue limit tag c with
      | .ok () d => some d.pos
      | .error _ _ => none) = some last) : Read.SkipsTo limit tag buf c.pos last := by
  split at run
  · next d outcome =>
    cases run
    exact ⟨c, d, rfl, rfl, outcome⟩
  · cases run

/-- Behind all but the last of some bytes the last ones follow. -/
theorem Cursor.rest_of_pos {front value rest : ByteArray} {c : Cursor (front ++ (value ++ rest))}
    (place : c.pos = front.size + value.size) : c.rest = rest.data.toList := by
  rw [Cursor.rest, place, ByteArray.data_append, ByteArray.data_append, Array.toList_append,
    Array.toList_append, ← List.append_assoc]
  apply List.drop_left'
  simp [ByteArray.size_data]

/-- Where the last of some bytes follow, all but the last ones were passed. -/
theorem Cursor.pos_of_rest {front value rest : ByteArray} {c : Cursor (front ++ (value ++ rest))}
    (behind : c.rest = rest.data.toList) : c.pos = front.size + value.size := by
  have total := c.pos_add_remaining
  rw [← c.length_rest, behind, Array.length_toList, ByteArray.size_data, ByteArray.size_append,
    ByteArray.size_append] at total
  omega

namespace Decoder

variable {limits : Limits} {registry : Option Registry} {names : FieldNames} {depth : Nat}

/-! ## Before the value -/

section Before

variable {done before : List (String × Field)} {tag : UInt8} {id : Int16} {s u : Decoder buf}
  {t v : Decoder buf'}

private theorem readHeader_forward (near : s.Continues shift more t)
    {content : Option (UInt8 × Int16)} {c : Cursor buf}
    (header : readHeader s.cursor = .ok content c) :
    ∃ d, readHeader t.cursor = .ok content d ∧
      Continues shift more { s with cursor := c } { t with cursor := d } := by
  have first := lasting_readHeader.outcome near.place
  rw [header] at first
  generalize header' : readHeader t.cursor = outcome at first
  cases first with
  | ok place => exact ⟨_, rfl, near.moveTo place⟩

private theorem readHeader_back (near : s.Continues shift more t) {content : Option (UInt8 × Int16)}
    {d : Cursor buf'} (header : readHeader t.cursor = .ok content d)
    (within : more.length ≤ d.remaining) :
    ∃ c, readHeader s.cursor = .ok content c ∧
      Continues shift more { s with cursor := c } { t with cursor := d } := by
  have first := lasting_readHeader.outcome near.place
  rw [header] at first
  obtain ⟨c, header', place⟩ := first.of_within within
  exact ⟨c, header', near.moveTo place⟩

variable (skips : limits.skipUnbuilt)

include skips

/-- Reading fields reaches the same fields with more bytes behind. -/
theorem Reaches.forward
    (reaches : Reaches limits names (values limits names depth) done s before u)
    (near : s.Continues shift more t) :
    ∃ v, Reaches limits names (values limits names depth) done t before v ∧
      u.Continues shift more v := by
  induction reaches generalizing t with
  | here => exact ⟨t, .here near.kept', near⟩
  | @next done before s u c tag id kept header rest ih =>
    obtain ⟨d, header', near'⟩ := readHeader_forward near header
    have field := (lasting_readField (lasting_values skips names depth tag)
      (meets_skipValue skips names depth tag) id).outcome near'
    obtain ⟨t', read, after⟩ := Continued.of_kept field rest.kept
    rw [giving_eq_ok_iff] at read
    obtain ⟨v, reaches, behind⟩ := ih after
    exact ⟨v, .next near.kept' header' (by rwa [read]), behind⟩

/-- Reading fields reaches the same fields without the bytes behind, up to the last one that does
not use them up. -/
theorem Reaches.back
    (reaches : Reaches limits names (values limits names depth) done t before v)
    (near : s.Continues shift more t) (within : more.length ≤ v.cursor.remaining) :
    ∃ u, Reaches limits names (values limits names depth) done s before u ∧
      u.Continues shift more v := by
  induction reaches generalizing s with
  | here => exact ⟨s, .here near.kept, near⟩
  | @next done before t v d tag id kept header rest ih =>
    have behind : more.length ≤ (readField limits (values limits names depth) tag id
        { t with cursor := d }).2.cursor.remaining := Nat.le_trans within rest.remaining_le
    have after := Decoder.remaining_le
      (pos_le_readField limits (values limits names depth) tag id { t with cursor := d })
    obtain ⟨c, header', near'⟩ := readHeader_back near header (Nat.le_trans behind after)
    have field := (lasting_readField (lasting_values skips names depth tag)
      (meets_skipValue skips names depth tag) id).outcome near'
    obtain ⟨s', read, near''⟩ := Continued.of_within field rest.kept behind
    rw [giving_eq_ok_iff] at read
    obtain ⟨u, reaches, behind⟩ := ih near'' within
    exact ⟨u, .next near.kept header' (by rwa [read]), behind⟩

private theorem ComesTo.forward
    (comes : ComesTo limits names (values limits names depth) done s before tag id u)
    (near : s.Continues shift more t) :
    ∃ v, ComesTo limits names (values limits names depth) done t before tag id v ∧
      u.Continues shift more v := by
  obtain ⟨r, c, reaches, header, rfl⟩ := comesTo_iff.mp comes
  obtain ⟨r', reaches', near'⟩ := reaches.forward skips near
  obtain ⟨d, header', behind⟩ := readHeader_forward near' header
  exact ⟨_, comesTo_iff.mpr ⟨r', d, reaches', header', rfl⟩, behind⟩

private theorem ComesTo.back
    (comes : ComesTo limits names (values limits names depth) done t before tag id v)
    (near : s.Continues shift more t) (within : more.length ≤ v.cursor.remaining) :
    ∃ u, ComesTo limits names (values limits names depth) done s before tag id u ∧
      u.Continues shift more v := by
  obtain ⟨r', d, reaches', header', rfl⟩ := comesTo_iff.mp comes
  obtain ⟨r, reaches, near'⟩ :=
    reaches'.back skips near (Nat.le_trans within (remaining_le_of_header header'))
  obtain ⟨c, header, behind⟩ := readHeader_back near' header' within
  exact ⟨_, comesTo_iff.mpr ⟨r, c, reaches, header, rfl⟩, behind⟩

end Before

/-! ## The value -/

private theorem readField_of_skipsTo (skips : limits.skipUnbuilt) (names : FieldNames) (depth : Nat)
    {s : Decoder buf} (kept : s.desync = none) {tag : UInt8} {last : Nat}
    (skipped : Read.SkipsTo limits.maxSkipDepth tag buf s.pos last) (id : Int16) :
    ∃ field t, readField limits (values limits names depth) tag id s = (field, t) ∧
      t.desync = none ∧ t.pos = last := by
  obtain ⟨c, d, here, rfl, skipped⟩ := skipped
  obtain rfl : c = s.cursor := Cursor.ext here
  have meets : Meets ((values limits names depth : ValueReader buf).read tag)
      ((recovery limits).pass tag) := meets_values skips (Nat.le_refl _) depth tag
  have arrives := meets_readField (Walker.extends_of_le (Nat.le_refl _)) meets id kept
    (Read.skipValue_eq_ok_iff.mp skipped)
  generalize read : giving (readField limits (values limits names depth) tag id) s = outcome
    at arrives
  cases arrives with
  | @ok field t place kept =>
    exact ⟨field, t, giving_eq_ok_iff.mp read, kept, congrArg Cursor.pos place⟩
  | error => exact absurd read giving_ne_error

/-! ## Behind the value -/

section Behind

variable {new done done' : List (String × Field)}

variable (skips : limits.skipUnbuilt) {s u : Decoder buf} {t : Decoder buf'}
  (same : t.cursor.rest = s.cursor.rest) (kept : s.desync = none) (kept' : t.desync = none)
  (entries : EntriesFrom limits names (values limits names depth) s new u)
  (final : u.desync = none)

include skips same kept kept' entries final

/-- Where the same bytes follow and the same number of entries is counted, the same fields are read,
if they are complete in one place. -/
theorem entriesFrom_of_rest (elements : t.elements = s.elements) :
    ∃ v, EntriesFrom limits names (values limits names depth) t new v ∧ v.desync = none ∧
      v.cursor.remaining = u.cursor.remaining := by
  obtain ⟨new', v, entries'⟩ := exists_entriesFrom limits names (values limits names depth) t
  have left : giving (readEntries limits names (values limits names depth) []) s = .ok new u := by
    rw [giving_eq_ok_iff, entries, List.append_nil]
  have right : giving (readEntries limits names (values limits names depth) []) t =
      .ok new' v := by
    rw [giving_eq_ok_iff, entries', List.append_nil]
  suffices new' = new ∧ v.desync = none ∧ v.cursor.remaining = u.cursor.remaining by
    obtain ⟨rfl, final', left⟩ := this
    exact ⟨v, entries', final', left⟩
  -- The smaller buffer comes first, as it has fewer bytes before the place.
  rcases Nat.le_total buf.size buf'.size with le | le
  · have near : s.Continues (buf'.size - buf.size) [] t :=
      ⟨Cursor.continues_of_rest same (by omega), elements, kept, kept'⟩
    have continued : Continued (buf'.size - buf.size) [] (.ok new u) (.ok new' v) := by
      rw [← left, ← right]
      exact (lasting_readEntries (lasting_values skips names depth)
        (meets_skipValue skips names depth) []).outcome near
    obtain ⟨_, read, near'⟩ := continued.of_kept final
    cases read
    exact ⟨rfl, near'.kept', near'.place.remaining⟩
  · have near : t.Continues (buf.size - buf'.size) [] s :=
      ⟨Cursor.continues_of_rest same.symm (by omega), elements.symm, kept', kept⟩
    have continued : Continued (buf.size - buf'.size) [] (.ok new' v) (.ok new u) := by
      rw [← left, ← right]
      exact (lasting_readEntries (lasting_values skips names depth)
        (meets_skipValue skips names depth) []).outcome near
    obtain ⟨_, read, near'⟩ := continued.of_within final (Nat.zero_le _)
    cases read
    exact ⟨rfl, near'.kept, near'.place.remaining.symm⟩

/-- Where the same bytes follow and fewer entries are counted, the same fields are read, if they are
complete where more are counted and come to no collection there for which too few are left. -/
theorem entriesFrom_of_fewer (le : t.elements ≤ s.elements)
    (unspent : ∀ {before tag id w},
      ComesTo limits names (values limits names depth) done s before tag id w →
        ¬ RunsOut limits names depth tag w) :
    ∃ v, EntriesFrom limits names (values limits names depth) t new v ∧ v.desync = none ∧
      v.cursor.remaining = u.cursor.remaining := by
  obtain ⟨s, more, elements, rfl⟩ := exists_raise le
  obtain ⟨new', u', entries'⟩ := exists_entriesFrom limits names (values limits names depth) s
  have lowered := entries done
  rw [raise_readEntries spares_values unspent, entries', Prod.mk.injEq,
    List.append_cancel_right_eq] at lowered
  obtain ⟨rfl, rfl⟩ := lowered
  exact entriesFrom_of_rest skips (s := s) (u := u') same kept kept' entries' final elements.symm

/-- Where the same bytes follow and more entries are counted, the same fields are read, if they are
complete where fewer are counted and come to no collection for which too few are left. -/
theorem entriesFrom_of_more (le : s.elements ≤ t.elements)
    (unspent : ∀ {before tag id w},
      ComesTo limits names (values limits names depth) done' t before tag id w →
        ¬ RunsOut limits names depth tag w) :
    ∃ v, EntriesFrom limits names (values limits names depth) t new v ∧ v.desync = none ∧
      v.cursor.remaining = u.cursor.remaining := by
  obtain ⟨t, more, elements, rfl⟩ := exists_raise le
  obtain ⟨v, entries', final', left⟩ :=
    entriesFrom_of_rest skips (t := t) same kept kept' entries final elements
  have lifted : readEntries limits names (values limits names depth) done' (t.raise more) =
      (new ++ done', v.raise more) := by
    rw [raise_readEntries spares_values unspent, entries']
  exact ⟨v.raise more, .of_eq lifted, final', left⟩

end Behind

/-- If reading fields comes to the value of a field in the same way in two places, and the same
bytes follow behind the value, then the fields are complete in the second place if they are in the
first one, and all of them are the same but the one. -/
theorem readFields_of_field_changed (skips : limits.skipUnbuilt)
    {before : List (String × Field)} {tag : UInt8} {id : Int16} {s t u : Decoder buf}
    {s' t' u' : Decoder buf'} {field field' : Field}
    (comes : ComesTo limits names (values limits names depth) [] s before tag id t)
    (comes' : ComesTo limits names (values limits names depth) [] s' before tag id t')
    (read : readField limits (values limits names depth) tag id t = (field, u))
    (read' : readField limits (values limits names depth) tag id t' = (field', u'))
    (same : u'.cursor.rest = u.cursor.rest) (kept : u.desync = none) (kept' : u'.desync = none)
    (unspent : ¬ FieldsRunOut limits names depth s)
    (unspent' : ¬ FieldsRunOut limits names depth s')
    (final : (readFields limits names (values limits names depth) s).2.desync = none) :
    ∃ fields v fields' v',
      readFields limits names (values limits names depth) s = (fields, v) ∧
      readFields limits names (values limits names depth) s' = (fields', v') ∧
      v'.desync = none ∧ v'.cursor.remaining = v.cursor.remaining ∧ fields'.keys = fields.keys ∧
      ∀ key ≠ names.keyFor id, fields'.get? key = fields.get? key := by
  obtain ⟨new, v, entries⟩ := exists_entriesFrom limits names (values limits names depth) u
  have fields := readFields_of_comesTo comes read entries
  rw [fields] at final
  obtain ⟨v', entries', final', left⟩ :
      ∃ v', EntriesFrom limits names (values limits names depth) u' new v' ∧ v'.desync = none ∧
        v'.cursor.remaining = v.cursor.remaining := by
    rcases Nat.le_total u.elements u'.elements with le | le
    · exact entriesFrom_of_more skips same kept kept' entries final le
        fun behind spent => unspent' ⟨_, _, _, _, comes'.trans (by rwa [read']), spent⟩
    · exact entriesFrom_of_fewer skips same kept kept' entries final le
        fun behind spent => unspent ⟨_, _, _, _, comes.trans (by rwa [read]), spent⟩
  have fields' := readFields_of_comesTo comes' read' entries'
  refine ⟨_, v, _, v', fields, fields', final', left, ?_, fun key apart => ?_⟩
  · exact Fields.keys_ofList_changed before.reverse new.reverse _ field field'
  · exact Fields.get?_ofList_changed before.reverse new.reverse _ field field' apart

/-! ## Messages -/

/-- Decoding a message with an envelope comes to the value of a field of its body, after some fields
before. -/
def BodyComesTo (limits : Limits) (registry : Option Registry) (buf : ByteArray)
    (envelope : Envelope) (before : List (String × Field)) (tag : UInt8) (id : Int16)
    (t : Decoder buf) : Prop :=
  ∃ c, Envelope.read (Cursor.start buf) = .ok envelope c ∧
    ComesTo limits (namesOf registry envelope)
      (values limits (namesOf registry envelope) limits.maxDepth) []
      { start buf with cursor := c } before tag id t

/-- Decoding a message comes to a collection for which too few entries are left. -/
def BodyRunsOut (limits : Limits) (registry : Option Registry) (buf : ByteArray) : Prop :=
  ∃ envelope c, Envelope.read (Cursor.start buf) = .ok envelope c ∧
    FieldsRunOut limits (namesOf registry envelope) limits.maxDepth { start buf with cursor := c }

section Exchange

variable {front suffix : ByteArray} {envelope : Envelope}

/-- Behind the first bytes the others remain. -/
theorem length_le_remaining {c : Cursor (front ++ suffix)} (place : c.pos = front.size) :
    suffix.data.toList.length ≤ c.remaining := by
  have total := c.pos_add_remaining
  rw [ByteArray.size_append] at total
  rw [Array.length_toList, ByteArray.size_data]
  omega

/-- An envelope that ends among the first bytes is read alike whatever bytes follow. Decoding goes
on from it as from an envelope with no bytes behind. -/
theorem envelope_exchange {d : Cursor (front ++ suffix)}
    (header : Envelope.read (Cursor.start (front ++ suffix)) = .ok envelope d)
    (within : suffix.data.toList.length ≤ d.remaining) (suffix' : ByteArray) :
    ∃ (c : Cursor front) (e : Cursor (front ++ suffix')),
      Envelope.read (Cursor.start (front ++ suffix')) = .ok envelope e ∧
      Continues 0 suffix.data.toList { start front with cursor := c }
        { start (front ++ suffix) with cursor := d } ∧
      Continues 0 suffix'.data.toList { start front with cursor := c }
        { start (front ++ suffix') with cursor := e } := by
  have first := Envelope.lasting_read.outcome (Cursor.start_continues front suffix)
  rw [header] at first
  obtain ⟨c, alone, place⟩ := first.of_within within
  have second := Envelope.lasting_read.outcome (Cursor.start_continues front suffix')
  rw [alone] at second
  generalize header' : Envelope.read (Cursor.start (front ++ suffix')) = outcome at second
  cases second with
  | @ok _ _ e place' => exact ⟨c, e, rfl, ⟨place, rfl, rfl, rfl⟩, ⟨place', rfl, rfl, rfl⟩⟩

/-- Whatever bytes follow, decoding a message comes to the same field behind the first ones. -/
private theorem BodyComesTo.exchange (skips : limits.skipUnbuilt) {before : List (String × Field)}
    {tag : UInt8} {id : Int16} {t : Decoder (front ++ suffix)}
    (comes : BodyComesTo limits registry (front ++ suffix) envelope before tag id t)
    (place : t.pos = front.size) (suffix' : ByteArray) :
    ∃ u, BodyComesTo limits registry (front ++ suffix') envelope before tag id u ∧
      u.pos = front.size := by
  obtain ⟨d, header, comes⟩ := comes
  have within := length_le_remaining place
  obtain ⟨c, e, header', start₀, start₁⟩ :=
    envelope_exchange header (Nat.le_trans within comes.remaining_le) suffix'
  obtain ⟨s, alone, near⟩ := comes.back skips start₀ within
  obtain ⟨u, comes', near'⟩ := alone.forward skips start₁
  exact ⟨u, ⟨e, header', comes'⟩, (near'.place.pos.trans near.place.pos.symm).trans place⟩

end Exchange

end Decoder

open Decoder

/-- Fields of a message do not interfere with one another. If decoding a complete message comes to
the value of a field behind some bytes, and other bytes are put there for the value, then the
message is still complete, as long as the value can be skipped before and after. It has the same
keys in the same order and the same fields under all keys but that of the value, and it is longer by
as many bytes as the value is. The budget of entries must not run out in either message. -/
theorem decode_of_field_changed (limits : Limits) (registry : Option Registry)
    (front value value' rest : ByteArray) (skips : limits.skipUnbuilt) {message : Message}
    (decoded : decode limits registry (front ++ (value ++ rest)) = .ok message)
    (complete : message.fields.incomplete = none) {before : List (String × Field)} {tag : UInt8}
    {id : Int16} {t : Decoder (front ++ (value ++ rest))}
    (comes :
      BodyComesTo limits registry (front ++ (value ++ rest)) message.envelope before tag id t)
    (place : t.pos = front.size)
    (skipped : Read.SkipsTo limits.maxSkipDepth tag (front ++ (value ++ rest)) front.size
      (front.size + value.size))
    (skipped' : Read.SkipsTo limits.maxSkipDepth tag (front ++ (value' ++ rest)) front.size
      (front.size + value'.size))
    (unspent : ¬ BodyRunsOut limits registry (front ++ (value ++ rest)))
    (unspent' : ¬ BodyRunsOut limits registry (front ++ (value' ++ rest))) :
    ∃ message', decode limits registry (front ++ (value' ++ rest)) = .ok message' ∧
      message'.fields.incomplete = none ∧
      message'.bytesConsumed + value.size = message.bytesConsumed + value'.size ∧
      message'.fields.keys = message.fields.keys ∧
      ∀ key ≠ (namesOf registry message.envelope).keyFor id,
        message'.fields.get? key = message.fields.get? key := by
  obtain ⟨t', ⟨c', header', comes'⟩, place'⟩ := comes.exchange skips place (value' ++ rest)
  obtain ⟨envelope, c, header, rfl⟩ := decode_eq_ok_iff.mp decoded
  obtain ⟨c₁, header₁, comes⟩ := comes
  rw [header] at header₁
  cases header₁
  change Envelope.read _ = .ok envelope c' at header'
  -- The value ends in front of the same bytes in both messages.
  rw [← place] at skipped
  rw [← place'] at skipped'
  obtain ⟨field, u, read, kept, ends⟩ := readField_of_skipsTo skips
    (namesOf registry envelope) limits.maxDepth comes.kept' skipped id
  obtain ⟨field', u', read', kept', ends'⟩ := readField_of_skipsTo skips
    (namesOf registry envelope) limits.maxDepth comes'.kept' skipped' id
  rw [place] at ends
  rw [place'] at ends'
  have same : u'.cursor.rest = u.cursor.rest :=
    (Cursor.rest_of_pos ends').trans (Cursor.rest_of_pos ends).symm
  obtain ⟨fields, v, fields', v', whole, whole', final, left, keys, apart⟩ :=
    readFields_of_field_changed skips comes comes' read read' same kept kept'
      (fun spent => unspent ⟨envelope, c, header, spent⟩)
      (fun spent => unspent' ⟨envelope, c', header', spent⟩) (complete_iff.mp complete)
  change body limits registry envelope c = _ at whole
  change body limits registry envelope c' = _ at whole'
  refine ⟨_, decode_eq_ok_iff.mpr ⟨envelope, c', header', rfl⟩, ?_, ?_, ?_, fun key other => ?_⟩
  · rwa [complete_iff, whole']
  · change (body limits registry envelope c').2.pos + value.size =
      (body limits registry envelope c).2.pos + value'.size
    have total := v.cursor.pos_add_remaining
    have total' := v'.cursor.pos_add_remaining
    rw [whole, whole']
    change v'.cursor.pos + _ = v.cursor.pos + _
    simp only [ByteArray.size_append] at total total'
    omega
  · change (body limits registry envelope c').1.keys = (body limits registry envelope c).1.keys
    rw [whole, whole', keys]
  · change (body limits registry envelope c').1.get? key =
      (body limits registry envelope c).1.get? key
    rw [whole, whole', apart key other]

/-- Limits under which all collections with entries are oversized. -/
def emptyLimits : Limits := { maxCollectionSize := 0 }

/-- A call with one field, and the header of a list. -/
def beforeList : ByteArray := ⟨#[0, 0, 0, 1, 102, 1, 0, 0, 0, 7, 6, 0, 1, 0, 5, 15, 0, 2]⟩

/-- A list of two bytes. -/
def twoBytes : ByteArray := ⟨#[3, 0, 0, 0, 2, 8, 9]⟩

/-- A list of no strings. -/
def noStrings : ByteArray := ⟨#[11, 0, 0, 0, 0]⟩

/-- A field behind the list, and the end of the call. -/
def behindList : ByteArray := ⟨#[2, 0, 3, 1, 0]⟩

/-- The list of two bytes is oversized and the list of no strings is not. With one in the place of
the other the call is complete, shorter by two bytes, and has the same other fields. -/
theorem decode_listChanged :
    ∃ message message',
      decode emptyLimits none (beforeList ++ (twoBytes ++ behindList)) = .ok message ∧
      decode emptyLimits none (beforeList ++ (noStrings ++ behindList)) = .ok message' ∧
      message'.fields.incomplete = none ∧
      message'.bytesConsumed + 7 = message.bytesConsumed + 5 ∧
      message'.fields.keys = ["field_1", "field_2", "field_3"] ∧
      message'.fields.get? "field_3" = message.fields.get? "field_3" := by
  have unspent (buf : ByteArray) : ¬ BodyRunsOut emptyLimits none buf := by
    rintro ⟨envelope, c, header, before, tag, id, t, comes, spent⟩
    exact absurd spent.pos (Nat.lt_irrefl 0)
  have header : Envelope.read (Cursor.start (beforeList ++ (twoBytes ++ behindList))) =
      .ok ⟨"f", .ofByte 1, 7, .legacy⟩ ⟨10, by decide⟩ := by rfl
  have first : readHeader (⟨10, by decide⟩ : Cursor (beforeList ++ (twoBytes ++ behindList))) =
      .ok (some (6, 1)) ⟨13, by decide⟩ := by rfl
  have second : readHeader (⟨15, by decide⟩ : Cursor (beforeList ++ (twoBytes ++ behindList))) =
      .ok (some (15, 2)) ⟨18, by decide⟩ := by rfl
  have decoded : decode emptyLimits none (beforeList ++ (twoBytes ++ behindList)) =
      .ok (messageBehind emptyLimits none _ _) := decode_eq_ok_iff.mpr ⟨_, _, header, rfl⟩
  have comes : BodyComesTo emptyLimits none (beforeList ++ (twoBytes ++ behindList))
      ⟨"f", .ofByte 1, 7, .legacy⟩ [("field_1", .decoded 6 1 (.i16 5))] 15 2
      ⟨⟨18, by decide⟩, 0, none⟩ := ⟨_, header, .next rfl first (.here rfl second)⟩
  have skipped : Read.SkipsTo 256 15 (beforeList ++ (twoBytes ++ behindList)) 18 25 :=
    Read.skipsTo_of_seen (c := ⟨18, by decide⟩) (by decide +kernel)
  have skipped' : Read.SkipsTo 256 15 (beforeList ++ (noStrings ++ behindList)) 18 23 :=
    Read.skipsTo_of_seen (c := ⟨18, by decide⟩) (by decide +kernel)
  obtain ⟨message', decoded', complete, size, keys, apart⟩ :=
    decode_of_field_changed emptyLimits none beforeList twoBytes noStrings behindList rfl decoded
      (by decide +kernel) comes rfl skipped skipped' (unspent _) (unspent _)
  refine ⟨_, message', decoded, decoded', complete, size, ?_, apart "field_3" (by decide +kernel)⟩
  rw [keys]
  decide +kernel

end TaggedRpc
