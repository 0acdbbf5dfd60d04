import TaggedRpc.Proofs.Text.Numbers
import TaggedRpc.Tree.Display

/-!
# What the display of a value says about it

Inside another value, every value of one shape has a display of its own
(`Value.nested_unambiguous`): a value can be read off it, whatever its texts contain, because its
display ends where it can be seen (`Text.Delimited`). Placeholders start with an angle bracket and
texts with a quote, and no other value does.
-/

namespace TaggedRpc

/-! ## How displays start -/

private theorem Placeholder.toList_display (p : Placeholder) : p.display.toList =
    match p with
    | void => "<void>".toList
    | oversizedCollection kind count =>
      "<large_".toList ++ (kind.label.toList ++ (": ".toList ++
        ((toString count.toInt).toList ++ " entries>".toList)))
    | elementBudgetExhausted kind count =>
      "<".toList ++ (kind.label.toList ++ (": ".toList ++
        ((toString count.toInt).toList ++ " entries, element budget exhausted>".toList)))
    | unknownType tag => "<unknown_type:".toList ++ (Nat.toDigits 10 tag.toNat ++ ">".toList)
    | depthExceeded => "<max_depth_exceeded>".toList := by
  cases p with
  | void | depthExceeded => rfl
  | oversizedCollection | elementBudgetExhausted =>
    unfold display
    simp only [String.toList_append, List.append_assoc]
    rfl
  | unknownType tag =>
    unfold display
    simp only [String.toList_append, List.append_assoc, Nat.toString_eq_repr,
      Nat.repr_eq_ofList_toDigits, String.toList_ofList]
    rfl

/-- The display of a value starts with an angle bracket if it is a placeholder, with a quote if it
is a text, and else with neither. -/
theorem Value.head?_nested (v : Value) :
    (v.nested.toList.head? = some '<' ↔ v.isPlaceholder = true) ∧
      (v.nested.toList.head? = some '"' ↔ ∃ content, v = .text content) := by
  have neither {chars : List Char} (numeric : ∀ c ∈ chars, Text.isNumeric c = true) :
      chars.head? ≠ some '<' ∧ chars.head? ≠ some '"' :=
    ⟨fun head => Text.ne_of_isNumeric (numeric _ (List.mem_of_head? head)) (by decide) rfl,
      fun head => Text.ne_of_isNumeric (numeric _ (List.mem_of_head? head)) (by decide) rfl⟩
  cases v with
  | bool value => cases value <;> simp [nested, isPlaceholder]
  | i8 n | i16 n | i32 n | i64 n =>
    simpa [nested, isPlaceholder] using neither fun _ => Text.isNumeric_of_mem_int
  | double x =>
    simpa [nested, isPlaceholder] using neither fun _ => Binary64.isNumeric_of_mem_text (x := x)
  | text content => simp [nested, isPlaceholder, Text.toList_quote]
  | struct fields =>
    cases fields
    simp [nested, Fields.display, braced, enclose, isPlaceholder]
  | map | set => simp [nested, braced, enclose, isPlaceholder]
  | list => simp [nested, bracketed, enclose, isPlaceholder]
  | placeholder value =>
    rw [nested, Placeholder.toList_display]
    cases value <;> simp [isPlaceholder]

/-! ## Values of one shape -/

/-- A type of values without doubles and structs. -/
inductive Shape where
  | bool
  | i8
  | i16
  | i32
  | i64
  | text
  | set (item : Shape)
  | list (item : Shape)
  | map (key value : Shape)

/-- Whether a value is of a type. A placeholder may stand anywhere. -/
inductive Value.OfShape : Shape → Value → Prop
  | placeholder (shape : Shape) (value : Placeholder) : OfShape shape (.placeholder value)
  | bool (value : Bool) : OfShape .bool (.bool value)
  | i8 (n : Int8) : OfShape .i8 (.i8 n)
  | i16 (n : Int16) : OfShape .i16 (.i16 n)
  | i32 (n : Int32) : OfShape .i32 (.i32 n)
  | i64 (n : Int64) : OfShape .i64 (.i64 n)
  | text (content : String) : OfShape .text (.text content)
  | set {item : Shape} {items : List Value} (all : ∀ v ∈ items, OfShape item v) :
    OfShape (.set item) (.set items)
  | list {item : Shape} {items : List Value} (all : ∀ v ∈ items, OfShape item v) :
    OfShape (.list item) (.list items)
  | map {key value : Shape} {entries : List (Value × Value)}
    (keys : ∀ entry ∈ entries, OfShape key entry.1)
    (values : ∀ entry ∈ entries, OfShape value entry.2) : OfShape (.map key value) (.map entries)

private theorem cancel_counted {kind kind' : CollectionKind} {m n : Int32} {rest rest' : List Char}
    (same : kind.label.toList ++ (": ".toList ++ ((toString m.toInt).toList ++ ' ' :: rest)) =
      kind'.label.toList ++ (": ".toList ++ ((toString n.toInt).toList ++ ' ' :: rest'))) :
    kind = kind' ∧ m = n ∧ rest = rest' := by
  have labels : kind = kind' ∧ (toString m.toInt).toList ++ ' ' :: rest =
      (toString n.toInt).toList ++ ' ' :: rest' := by
    cases kind <;> cases kind' <;> simp_all [CollectionKind.label]
  obtain ⟨number, behind⟩ := Text.delimited_int.cancel trivial trivial (Text.stops_cons rfl)
    (Text.stops_cons rfl) labels.2
  exact ⟨labels.1, Int32.toInt_inj.mp number, (List.cons.inj behind).2⟩

private theorem cancel_tag {tag tag' : UInt8} {rest rest' : List Char}
    (same : Nat.toDigits 10 tag.toNat ++ '>' :: rest = Nat.toDigits 10 tag'.toNat ++ '>' :: rest') :
    tag = tag' ∧ rest = rest' := by
  obtain ⟨number, behind⟩ := Text.cancel_digits (Text.stops_cons rfl) (Text.stops_cons rfl) same
  exact ⟨UInt8.toNat_inj.mp number, (List.cons.inj behind).2⟩

private theorem delimited_placeholder :
    Text.Delimited (fun p : Placeholder => p.display.toList) fun _ => True where
  cancel {p q rest rest'} _ _ _ _ same := by
    rw [p.toList_display, q.toList_display] at same
    -- Placeholders of different forms differ before their first number.
    cases p with
    | void | depthExceeded =>
      cases q with
      | elementBudgetExhausted kind => cases kind <;> simp [CollectionKind.label] at same
      | _ => simp_all
    | unknownType tag =>
      cases q with
      | unknownType tag' =>
        simp only [List.append_assoc, List.append_cancel_left_eq] at same
        obtain ⟨rfl, behind⟩ := cancel_tag same
        exact ⟨rfl, behind⟩
      | elementBudgetExhausted kind => cases kind <;> simp [CollectionKind.label] at same
      | _ => simp at same
    | oversizedCollection kind m =>
      cases q with
      | oversizedCollection kind' n =>
        simp only [List.append_assoc, List.append_cancel_left_eq] at same
        obtain ⟨rfl, rfl, behind⟩ := cancel_counted same
        exact ⟨rfl, List.append_cancel_left behind⟩
      | elementBudgetExhausted kind' => cases kind' <;> simp [CollectionKind.label] at same
      | _ => simp at same
    | elementBudgetExhausted kind m =>
      cases q with
      | elementBudgetExhausted kind' n =>
        simp only [List.append_assoc, List.append_cancel_left_eq] at same
        obtain ⟨rfl, rfl, behind⟩ := cancel_counted same
        exact ⟨rfl, List.append_cancel_left behind⟩
      | _ => cases kind <;> simp [CollectionKind.label] at same
  starts {p} _ := by
    rw [p.toList_display]
    cases p <;> exact ⟨'<', _, rfl, by decide, by decide⟩

private theorem delimited_bool :
    Text.Delimited (fun value : Bool => (Value.bool value).nested.toList) fun _ => True where
  cancel {a b _ _} _ _ _ _ same := by
    cases a <;> cases b <;> simp_all [Value.nested]
  starts {a} _ := by
    cases a <;> exact ⟨_, _, rfl, by decide, by decide⟩

private theorem toList_enclose {α : Type} (left right : Char) (part : α → String) (items : List α) :
    (enclose left.toString right.toString (items.map part)).toList =
      Text.sequence left right (fun item => (part item).toList) items := by
  simp [enclose, Text.sequence, String.toList_intercalate, Function.comp_def]

variable {shape : Shape}

private theorem Text.Delimited.orPlaceholder {α : Type} {spell : α → List Char} {held : α → Prop}
    (delimited : Delimited spell held) {f : α → Value}
    (spelled : ∀ a, (f a).nested.toList = spell a) (built : ∀ a, (f a).isPlaceholder = false)
    (covered : ∀ v : Value, v.OfShape shape → v.isPlaceholder = true ∨ ∃ a, held a ∧ f a = v) :
    Delimited (fun v : Value => v.nested.toList) (Value.OfShape shape) := by
  have placeholders : Delimited (fun v : Value => v.nested.toList) fun v =>
      ∃ p, True ∧ Value.placeholder p = v :=
    delimited_placeholder.image fun p => by rw [Value.nested]
  refine (placeholders.or (delimited.image spelled) ?_).mono fun v shaped => ?_
  · rintro _ _ ⟨p, -, rfl⟩ ⟨a, -, rfl⟩ same
    have opening := (Value.head?_nested (.placeholder p)).1.mpr rfl
    rw [same, (Value.head?_nested (f a)).1, built] at opening
    cases opening
  · refine (covered v shaped).imp_left fun isPlaceholder => ?_
    cases v with
    | placeholder p => exact ⟨p, trivial, rfl⟩
    | _ => cases isPlaceholder

/-- The displays of values of one shape are delimited. -/
theorem Value.delimited_nested (shape : Shape) :
    Text.Delimited (fun v : Value => v.nested.toList) (OfShape shape) := by
  induction shape with
  | bool =>
    refine delimited_bool.orPlaceholder (fun _ => rfl) (fun _ => rfl) fun v shaped => ?_
    cases shaped with
    | placeholder => exact .inl rfl
    | bool b => exact .inr ⟨b, trivial, rfl⟩
  | i8 =>
    refine (Text.delimited_int.comap fun _ _ => Int8.toInt_inj.mp).orPlaceholder (f := i8)
      (fun n => by rw [nested]; rfl) (fun _ => rfl) fun v shaped => ?_
    cases shaped with
    | placeholder => exact .inl rfl
    | i8 n => exact .inr ⟨n, trivial, rfl⟩
  | i16 =>
    refine (Text.delimited_int.comap fun _ _ => Int16.toInt_inj.mp).orPlaceholder (f := i16)
      (fun n => by rw [nested]; rfl) (fun _ => rfl) fun v shaped => ?_
    cases shaped with
    | placeholder => exact .inl rfl
    | i16 n => exact .inr ⟨n, trivial, rfl⟩
  | i32 =>
    refine (Text.delimited_int.comap fun _ _ => Int32.toInt_inj.mp).orPlaceholder (f := i32)
      (fun n => by rw [nested]; rfl) (fun _ => rfl) fun v shaped => ?_
    cases shaped with
    | placeholder => exact .inl rfl
    | i32 n => exact .inr ⟨n, trivial, rfl⟩
  | i64 =>
    refine (Text.delimited_int.comap fun _ _ => Int64.toInt_inj.mp).orPlaceholder (f := i64)
      (fun n => by rw [nested]; rfl) (fun _ => rfl) fun v shaped => ?_
    cases shaped with
    | placeholder => exact .inl rfl
    | i64 n => exact .inr ⟨n, trivial, rfl⟩
  | text =>
    refine Text.delimited_quote.orPlaceholder (f := text) (fun content => by rw [nested])
      (fun _ => rfl) fun v shaped => ?_
    cases shaped with
    | placeholder => exact .inl rfl
    | text content => exact .inr ⟨content, trivial, rfl⟩
  | set item ih =>
    have items := ih.sequence '\x7b' '\x7d' (by decide) (.inr rfl)
    refine items.orPlaceholder (f := set) (fun items => ?_) (fun _ => rfl) fun v shaped => ?_
    · rw [nested, nestedItems_eq]
      exact toList_enclose '\x7b' '\x7d' nested items
    · cases shaped with
      | placeholder => exact .inl rfl
      | set all => exact .inr ⟨_, all, rfl⟩
  | list item ih =>
    have items := ih.sequence '[' ']' (by decide) (.inl rfl)
    refine items.orPlaceholder (f := list) (fun items => ?_) (fun _ => rfl) fun v shaped => ?_
    · rw [nested, nestedItems_eq]
      exact toList_enclose '[' ']' nested items
    · cases shaped with
      | placeholder => exact .inl rfl
      | list all => exact .inr ⟨_, all, rfl⟩
  | map key value keys values =>
    have entries := (keys.pair values).sequence '\x7b' '\x7d' (by decide) (.inr rfl)
    refine entries.orPlaceholder (f := map) (fun entries => ?_) (fun _ => rfl) fun v shaped => ?_
    · rw [nested, nestedEntries_eq]
      refine (toList_enclose '\x7b' '\x7d' _ entries).trans ?_
      simp
    · cases shaped with
      | placeholder => exact .inl rfl
      | map keys values =>
        exact .inr ⟨_, fun entry among => ⟨keys entry among, values entry among⟩, rfl⟩

/-- Inside another value, values of one shape with the same display are the same, and a value with
the display of a text is that text. -/
theorem Value.nested_unambiguous :
    (∀ {shape : Shape} {v w : Value}, v.OfShape shape → w.OfShape shape → v.nested = w.nested →
      v = w) ∧
    ∀ {content : String} {u : Value}, (text content).nested = u.nested → u = text content := by
  have shaped {shape : Shape} {v w : Value} (first : v.OfShape shape) (second : w.OfShape shape)
      (same : v.nested = w.nested) : v = w :=
    (delimited_nested shape).eq_of_spell first second (congrArg String.toList same)
  refine ⟨shaped, fun {content u} same => ?_⟩
  have opening := (head?_nested (text content)).2.mpr ⟨content, rfl⟩
  rw [same, (head?_nested u).2] at opening
  obtain ⟨content', rfl⟩ := opening
  exact (shaped (.text content) (.text content') same).symm

/-- A map whose texts have quotes, commas and colons in them, and look like placeholders. -/
def lookalikes : Value :=
  .map [(.text "1\": [", .list [.text "<void>", .placeholder .void]), (.text "", .list [])]

/-- The map of these texts can be read off its display, and so can a text that looks like a
placeholder. -/
theorem Value.nested_lookalikes :
    lookalikes.nested = "\x7b\"1\\\": [\": [\"<void>\", <void>], \"\": []\x7d" ∧
    lookalikes = .map [(.text ("1" ++ "\": ["), .list [.text "<void>", .placeholder .void]),
      (.text "", .list [])] ∧ text ("<" ++ "void>") = text "<void>" := by
  have items : ∀ v ∈ [text "<void>", .placeholder .void], OfShape .text v := by
    simp only [List.forall_mem_cons]
    exact ⟨.text _, .placeholder _ _, nofun⟩
  have shaped : lookalikes.OfShape (.map .text (.list .text)) := by
    refine .map ?_ ?_
    · simp only [List.forall_mem_cons]
      exact ⟨.text _, .text _, nofun⟩
    · simp only [List.forall_mem_cons]
      exact ⟨.list items, .list nofun, nofun⟩
  exact ⟨by decide +kernel, nested_unambiguous.1 shaped shaped rfl, nested_unambiguous.2 rfl⟩

end TaggedRpc
