import Mathlib.Data.List.Basic
import Std.Data.String.ToInt
import TaggedRpc.Text.Quoted

/-!
# Spellings that can be told apart

When the spelling of a value can be told from what follows it (`Delimited`). A number ends where no
digit follows, a quoted text ends at the first quote that is not escaped, and a sequence ends at its
closing bracket, which no item starts with. What is made of such spellings is one again.
-/

namespace TaggedRpc.Text

/-! ## Digits -/

/-- The number that a hexadecimal digit stands for. -/
def hexDigitValue (c : Char) : Nat := if c.isDigit then c.toNat - 48 else c.toNat - 87

/-- The number that hexadecimal digits spell. -/
def hexValue (digits : List Char) : Nat := digits.foldl (fun n c => 16 * n + hexDigitValue c) 0

private theorem hexDigitValue_digitChar {d : Nat} (below : d < 16) :
    hexDigitValue d.digitChar = d := by
  revert d
  decide

private theorem hexDigits_eq (n : Nat) :
    hexDigits n = if n < 16 then [n.digitChar] else hexDigits (n / 16) ++ [(n % 16).digitChar] :=
  Nat.toDigits_eq_if (by decide)

private theorem hexValue_hexDigits (n : Nat) : hexValue (hexDigits n) = n := by
  induction n using Nat.strongRecOn with
  | ind n ih =>
    rw [hexDigits_eq]
    split
    · next below =>
      rw [hexValue, List.foldl_cons, List.foldl_nil, hexDigitValue_digitChar below]
      omega
    · next above =>
      have front := ih (n / 16) (by omega)
      rw [hexValue] at front
      rw [hexValue, List.foldl_append, front, List.foldl_cons, List.foldl_nil,
        hexDigitValue_digitChar (Nat.mod_lt _ (by decide))]
      omega

/-- The hexadecimal digits of a number are the digits of numbers below sixteen. -/
theorem exists_of_mem_hexDigits {n : Nat} {c : Char} (among : c ∈ hexDigits n) :
    ∃ d < 16, c = d.digitChar := by
  induction n using Nat.strongRecOn with
  | ind n ih =>
    rw [hexDigits_eq] at among
    split at among
    · next below => exact ⟨n, below, List.mem_singleton.mp among⟩
    · next above =>
      rcases List.mem_append.mp among with front | last
      · exact ih (n / 16) (by omega) front
      · exact ⟨n % 16, Nat.mod_lt _ (by decide), List.mem_singleton.mp last⟩

private theorem ne_brace_of_mem_hexDigits {n : Nat} {c : Char} (among : c ∈ hexDigits n) :
    c ≠ '\x7d' := by
  obtain ⟨d, below, rfl⟩ := exists_of_mem_hexDigits among
  clear among
  revert d
  decide

/-! ## Characters inside quotes -/

/-- The character that stands in front inside quotes, and what is behind its spelling. -/
def unescape : List Char → Option (Char × List Char)
  | '\\' :: '0' :: rest => some ('\x00', rest)
  | '\\' :: 't' :: rest => some ('\t', rest)
  | '\\' :: 'n' :: rest => some ('\n', rest)
  | '\\' :: 'r' :: rest => some ('\r', rest)
  | '\\' :: '"' :: rest => some ('"', rest)
  | '\\' :: '\\' :: rest => some ('\\', rest)
  | '\\' :: 'u' :: '\x7b' :: rest =>
    some (Char.ofNat (hexValue (rest.takeWhile (· ≠ '\x7d'))),
      (rest.dropWhile (· ≠ '\x7d')).tail)
  | '\\' :: _ => none
  | c :: rest => some (c, rest)
  | [] => none

/-- The spelling of a character is read back, whatever follows it. -/
theorem unescape_escape (c : Char) (rest : List Char) :
    unescape ((escape c).toList ++ rest) = some (c, rest) := by
  unfold escape
  split
  case h_7 _ _ _ _ _ _ other =>
    split
    · have digits : ∀ d ∈ hexDigits c.toNat, decide (d ≠ '\x7d') = true := fun d among =>
        decide_eq_true (ne_brace_of_mem_hexDigits among)
      have spelled : ("\\u\x7b" ++ hex c.toNat ++ "\x7d").toList ++ rest =
          '\\' :: 'u' :: '\x7b' :: (hexDigits c.toNat ++ '\x7d' :: rest) := by
        simp [hex]
      rw [spelled, unescape, List.takeWhile_append_of_pos digits,
        List.dropWhile_append_of_pos digits, List.takeWhile_cons_of_neg (by simp),
        List.dropWhile_cons_of_neg (by simp), List.append_nil, hexValue_hexDigits, Char.ofNat_toNat,
        List.tail_cons]
    · rw [Char.toString_eq_singleton, String.toList_singleton, List.singleton_append]
      unfold unescape
      split <;> simp_all
  all_goals rfl

private theorem escape_append_ne (c : Char) (rest tail : List Char) :
    (escape c).toList ++ rest ≠ '"' :: tail := by
  intro same
  have read := unescape_escape c rest
  rw [same, unescape] at read
  · cases read
    simp [escape] at same
  all_goals simp

private theorem cancel_escape {c d : Char} {rest rest' : List Char}
    (same : (escape c).toList ++ rest = (escape d).toList ++ rest') : c = d ∧ rest = rest' := by
  have read := unescape_escape c rest
  rw [same, unescape_escape] at read
  cases read
  exact ⟨rfl, rfl⟩

/-! ## Delimited spellings -/

/-- What may come behind a spelling: nothing, or a character that is not a digit. -/
def Stops (rest : List Char) : Prop := ∀ c ∈ rest.head?, c.isDigit = false

/-- A way to spell some values that tells them apart and shows where their spelling ends, if no
digit follows it. It does not start like the end of a sequence. -/
structure Delimited {α : Type} (spell : α → List Char) (held : α → Prop) : Prop where
  cancel : ∀ {a b : α} {rest rest' : List Char}, held a → held b → Stops rest → Stops rest' →
    spell a ++ rest = spell b ++ rest' → a = b ∧ rest = rest'
  starts : ∀ {a : α}, held a → ∃ first behind, spell a = first :: behind ∧
    first ≠ ']' ∧ first ≠ '\x7d'

variable {α β : Type} {spell : α → List Char} {spell' : β → List Char} {held : α → Prop}
  {held' : β → Prop}

private theorem stops_nil : Stops [] := nofun

/-- A character that is not a digit stops a spelling. -/
theorem stops_cons {c : Char} {rest : List Char} (other : c.isDigit = false) :
    Stops (c :: rest) := by
  rintro _ ⟨⟩
  exact other

/-- Values with the same delimited spelling are the same. -/
theorem Delimited.eq_of_spell (delimited : Delimited spell held) {a b : α} (first : held a)
    (second : held b) (same : spell a = spell b) : a = b :=
  (delimited.cancel first second stops_nil stops_nil (congrArg (· ++ []) same)).1

/-- Fewer values are still told apart. -/
theorem Delimited.mono (delimited : Delimited spell held) {fewer : α → Prop}
    (among : ∀ a, fewer a → held a) : Delimited spell fewer where
  cancel first second := delimited.cancel (among _ first) (among _ second)
  starts first := delimited.starts (among _ first)

/-- What differs in a value that can be told apart can be told apart by it. -/
theorem Delimited.comap (delimited : Delimited spell held) {f : β → α} (injective : f.Injective) :
    Delimited (spell ∘ f) (held ∘ f) where
  cancel first second stops stops' same :=
    (delimited.cancel first second stops stops' same).imp_left (injective ·)
  starts first := delimited.starts first

/-- What is built from values that can be told apart, and spelled like them, can be told apart. -/
theorem Delimited.image (delimited : Delimited spell held) {f : α → β}
    (spelled : ∀ a, spell' (f a) = spell a) :
    Delimited spell' fun b => ∃ a, held a ∧ f a = b where
  cancel := by
    rintro _ _ _ _ ⟨a, first, rfl⟩ ⟨b, second, rfl⟩ stops stops' same
    rw [spelled, spelled] at same
    exact (delimited.cancel first second stops stops' same).imp_left (congrArg f)
  starts := by
    rintro _ ⟨a, first, rfl⟩
    rw [spelled]
    exact delimited.starts first

/-- Two groups of values are told apart together if their spellings do not start alike. -/
theorem Delimited.or (delimited : Delimited spell held) {other : α → Prop}
    (delimited' : Delimited spell other)
    (apart : ∀ a b, held a → other b → (spell a).head? ≠ (spell b).head?) :
    Delimited spell fun a => held a ∨ other a where
  cancel {a b rest rest'} first second stops stops' same := by
    have front {a : α} (starts : ∃ c behind, spell a = c :: behind ∧ c ≠ ']' ∧ c ≠ '\x7d')
        (tail : List Char) : (spell a ++ tail).head? = (spell a).head? := by
      obtain ⟨c, behind, split, _⟩ := starts
      rw [split]
      rfl
    rcases first with first | first <;> rcases second with second | second
    · exact delimited.cancel first second stops stops' same
    · refine absurd ?_ (apart a b first second)
      rw [← front (delimited.starts first) rest, same, front (delimited'.starts second)]
    · refine absurd ?_ (apart b a second first)
      rw [← front (delimited.starts second) rest', ← same, front (delimited'.starts first)]
    · exact delimited'.cancel first second stops stops' same
  starts := by
    rintro a (first | first)
    · exact delimited.starts first
    · exact delimited'.starts first

/-- The decimal digits of a number end where no digit follows. -/
theorem cancel_digits {m n : Nat} {rest rest' : List Char} (stops : Stops rest)
    (stops' : Stops rest') (same : Nat.toDigits 10 m ++ rest = Nat.toDigits 10 n ++ rest') :
    m = n ∧ rest = rest' := by
  have front {k : Nat} {tail : List Char} (stops : Stops tail) :
      (Nat.toDigits 10 k ++ tail).takeWhile Char.isDigit = Nat.toDigits 10 k := by
    have digits : ∀ c ∈ Nat.toDigits 10 k, c.isDigit = true := fun c among =>
      Nat.isDigit_of_mem_toDigits (by decide) (by decide) among
    have none : tail.takeWhile Char.isDigit = [] := by
      cases tail with
      | nil => rfl
      | cons c _ => exact List.takeWhile_cons_of_neg (by simp [stops c rfl])
    rw [List.takeWhile_append_of_pos digits, none, List.append_nil]
  have digits : Nat.toDigits 10 m = Nat.toDigits 10 n := by
    rw [← front stops, same, front stops']
  rw [digits] at same
  have read {k : Nat} : Nat.ofDigitChars 10 (Nat.toDigits 10 k) 0 = k :=
    Nat.ofDigitChars_toDigits (by decide) (by decide)
  refine ⟨?_, List.append_cancel_left same⟩
  rw [← read (k := m), digits, read]

/-- The text of an integer is its digits, behind a sign if it is negative. -/
theorem toList_toString_int (n : Int) :
    (toString n).toList =
      if 0 ≤ n then Nat.toDigits 10 n.toNat else '-' :: Nat.toDigits 10 (-n).toNat := by
  rw [Int.toString_eq_repr, Int.repr_eq_if]
  split <;> simp [Nat.repr_eq_ofList_toDigits]

private theorem toDigits_eq_cons (n : Nat) :
    ∃ first behind, Nat.toDigits 10 n = first :: behind ∧ first.isDigit = true := by
  obtain ⟨first, behind, split⟩ :=
    List.exists_cons_of_ne_nil (Nat.toDigits_ne_nil (n := n) (b := 10))
  have among : first ∈ Nat.toDigits 10 n := by
    rw [split]
    exact List.mem_cons_self
  exact ⟨first, behind, split, Nat.isDigit_of_mem_toDigits (by decide) (by decide) among⟩

/-- The text of an integer is delimited. -/
theorem delimited_int : Delimited (fun n : Int => (toString n).toList) fun _ => True where
  cancel {m n rest rest'} _ _ stops stops' same := by
    rw [toList_toString_int, toList_toString_int] at same
    obtain ⟨first, behind, split, digit⟩ := toDigits_eq_cons m.toNat
    obtain ⟨first', behind', split', digit'⟩ := toDigits_eq_cons n.toNat
    have signless {c : Char} (digit : c.isDigit = true) : c ≠ '-' := by
      rintro rfl
      cases digit
    by_cases positive : 0 ≤ m <;> by_cases positive' : 0 ≤ n
    · rw [if_pos positive, if_pos positive'] at same
      obtain ⟨number, tails⟩ := cancel_digits stops stops' same
      exact ⟨by omega, tails⟩
    · rw [if_pos positive, if_neg positive', split] at same
      exact absurd (List.cons.inj same).1 (signless digit)
    · rw [if_neg positive, if_pos positive', split'] at same
      exact absurd (List.cons.inj same).1.symm (signless digit')
    · rw [if_neg positive, if_neg positive'] at same
      obtain ⟨number, tails⟩ := cancel_digits stops stops' (List.cons.inj same).2
      exact ⟨by omega, tails⟩
  starts {n} _ := by
    rw [toList_toString_int]
    split
    · obtain ⟨first, behind, split, digit⟩ := toDigits_eq_cons n.toNat
      refine ⟨first, behind, split, ?_, ?_⟩ <;> rintro rfl <;> cases digit
    · exact ⟨'-', _, rfl, by decide, by decide⟩

/-- Characters up to a quote that is not escaped are told apart. -/
theorem cancel_escapes {cs ds rest rest' : List Char}
    (same : cs.flatMap (fun c => (escape c).toList) ++ '"' :: rest =
      ds.flatMap (fun c => (escape c).toList) ++ '"' :: rest') : cs = ds ∧ rest = rest' := by
  induction cs generalizing ds with
  | nil =>
    cases ds with
    | nil => exact ⟨rfl, (List.cons.inj same).2⟩
    | cons d ds =>
      rw [List.flatMap_cons, List.append_assoc] at same
      exact absurd same.symm (escape_append_ne d _ _)
  | cons c cs ih =>
    cases ds with
    | nil =>
      rw [List.flatMap_cons, List.append_assoc] at same
      exact absurd same (escape_append_ne c _ _)
    | cons d ds =>
      rw [List.flatMap_cons, List.flatMap_cons, List.append_assoc, List.append_assoc] at same
      obtain ⟨rfl, behind⟩ := cancel_escape same
      exact (ih behind).imp_left (congrArg (c :: ·))

/-- A quoted text is delimited. -/
theorem delimited_quote : Delimited (fun text => (quote text).toList) fun _ => True where
  cancel _ _ _ _ same := by
    simp only [toList_quote, List.cons_append, List.append_assoc, List.cons.injEq, true_and,
      List.nil_append] at same
    exact (cancel_escapes same).imp_left String.toList_inj.mp
  starts _ := ⟨'"', _, toList_quote _, by decide, by decide⟩

/-- A pair of delimited spellings with a colon between them is delimited. -/
theorem Delimited.pair (first : Delimited spell held) (second : Delimited spell' held') :
    Delimited (fun entry : α × β => spell entry.1 ++ ':' :: ' ' :: spell' entry.2)
      fun entry => held entry.1 ∧ held' entry.2 where
  cancel {a b _ _} holds holds' stops stops' same := by
    simp only [List.append_assoc, List.cons_append] at same
    have colon {tail : List Char} : Stops (':' :: tail) := stops_cons rfl
    obtain ⟨left, tails⟩ := first.cancel holds.1 holds'.1 colon colon same
    obtain ⟨right, tails⟩ := second.cancel holds.2 holds'.2 stops stops'
      (List.cons.inj (List.cons.inj tails).2).2
    exact ⟨Prod.ext left right, tails⟩
  starts {a} holds := by
    obtain ⟨c, behind, split, other⟩ := first.starts holds.1
    exact ⟨c, _, by rw [split, List.cons_append], other⟩

/-! ## Sequences -/

section Sequences

variable {left right : Char}

/-- The spellings of items with commas between them, between two brackets. -/
def sequence (left right : Char) (spell : α → List Char) (items : List α) : List Char :=
  left :: ([',', ' '].intercalate (items.map spell) ++ [right])

private theorem stops_closing (closes : right = ']' ∨ right = '\x7d') (rest : List Char) :
    Stops (right :: rest) ∧ right ≠ ',' := by
  rcases closes with rfl | rfl
  · exact ⟨stops_cons rfl, by decide⟩
  · exact ⟨stops_cons rfl, by decide⟩

private theorem stops_behind (closes : right = ']' ∨ right = '\x7d') (items : List α)
    (rest : List Char) :
    Stops (items.flatMap (fun a => ',' :: ' ' :: spell a) ++ right :: rest) := by
  cases items with
  | nil => exact (stops_closing closes rest).1
  | cons a items => exact stops_cons rfl

/-- Items with a comma in front of each are told apart up to the bracket behind them. -/
theorem Delimited.cancel_behind (delimited : Delimited spell held)
    (closes : right = ']' ∨ right = '\x7d') {as bs : List α} {rest rest' : List Char}
    (holds : ∀ a ∈ as, held a) (holds' : ∀ b ∈ bs, held b)
    (same : as.flatMap (fun a => ',' :: ' ' :: spell a) ++ right :: rest =
      bs.flatMap (fun b => ',' :: ' ' :: spell b) ++ right :: rest') : as = bs ∧ rest = rest' := by
  have comma : right ≠ ',' := (stops_closing closes rest).2
  induction as generalizing bs with
  | nil =>
    cases bs with
    | nil => exact ⟨rfl, (List.cons.inj same).2⟩
    | cons b bs => exact absurd (List.cons.inj same).1 comma
  | cons a as ih =>
    cases bs with
    | nil => exact absurd (List.cons.inj same).1.symm comma
    | cons b bs =>
      simp only [List.flatMap_cons, List.cons_append, List.append_assoc, List.cons.injEq,
        true_and] at same
      simp only [List.forall_mem_cons] at holds holds'
      obtain ⟨rfl, behind⟩ := delimited.cancel holds.1 holds'.1 (stops_behind closes as rest)
        (stops_behind closes bs rest') same
      exact (ih holds.2 holds'.2 behind).imp_left (congrArg (a :: ·))

private theorem intercalate_cons (a : α) (as : List α) :
    [',', ' '].intercalate ((a :: as).map spell) =
      spell a ++ as.flatMap (fun b => ',' :: ' ' :: spell b) := by
  induction as generalizing a with
  | nil => simp
  | cons b as ih =>
    rw [List.map_cons, List.map_cons, List.intercalate_cons_cons, ← List.map_cons, ih]
    simp

/-- A sequence of delimited items is delimited. -/
theorem Delimited.sequence (delimited : Delimited spell held) (left right : Char)
    (opens : left ≠ ']' ∧ left ≠ '\x7d') (closes : right = ']' ∨ right = '\x7d') :
    Delimited (Text.sequence left right spell) fun items => ∀ a ∈ items, held a where
  cancel {as bs rest rest'} holds holds' _ _ same := by
    have opened {a : α} (holds : held a) (as : List α) (tail tail' : List Char) :
        [',', ' '].intercalate ((a :: as).map spell) ++ tail ≠ right :: tail' := by
      obtain ⟨first, behind, split, other⟩ := delimited.starts holds
      rw [intercalate_cons, split]
      rintro ⟨⟩
      exact closes.elim other.1 other.2
    simp only [Text.sequence, List.cons_append, List.append_assoc, List.cons.injEq, true_and,
      List.nil_append] at same
    cases as with
    | nil =>
      cases bs with
      | nil => exact ⟨rfl, (List.cons.inj same).2⟩
      | cons b bs => exact (opened (holds' b List.mem_cons_self) _ _ _ same.symm).elim
    | cons a as =>
      cases bs with
      | nil => exact (opened (holds a List.mem_cons_self) _ _ _ same).elim
      | cons b bs =>
        simp only [List.forall_mem_cons] at holds holds'
        rw [intercalate_cons, intercalate_cons, List.append_assoc, List.append_assoc] at same
        obtain ⟨rfl, behind⟩ := delimited.cancel holds.1 holds'.1 (stops_behind closes as rest)
          (stops_behind closes bs rest') same
        exact (delimited.cancel_behind closes holds.2 holds'.2 behind).imp_left (congrArg (a :: ·))
  starts _ := ⟨left, _, rfl, opens⟩

end Sequences

end TaggedRpc.Text
