import TaggedRpc.Binary64.Text
import TaggedRpc.Text.Quoted
import TaggedRpc.Tree.Value

/-!
# Display of decoded values

Decoded values on one line: `{key: value}` for structs and maps, `{a}` for sets, `[a]` for lists.
Text inside another value is quoted, so that the text `1` and the number `1` differ; text on its own
is shown as it is.
-/

namespace TaggedRpc

/-- The display of what stands for a value that was not built. -/
def Placeholder.display : Placeholder → String
  | void => "<void>"
  | oversizedCollection kind count => s!"<large_{kind.label}: {count.toInt} entries>"
  | elementBudgetExhausted kind count =>
    s!"<{kind.label}: {count.toInt} entries, element budget exhausted>"
  | unknownType tag => s!"<unknown_type:{tag.toNat}>"
  | depthExceeded => "<max_depth_exceeded>"

/-- The display of a reason why a value was not decoded. -/
def Field.displayError (reason : String) : String := "<error: " ++ reason ++ ">"

/-- The display of a field that has neither a value nor an error. -/
def Field.displayNothing : String := "<no value>"

/-- The display of a reason why fields end early. -/
def Fields.displayIncomplete (reason : String) : String := "<incomplete: " ++ reason ++ ">"

/-- Parts with commas between them, between two delimiters. -/
def enclose (left right : String) (parts : List String) : String :=
  left ++ ", ".intercalate parts ++ right

/-- Parts between braces. -/
def braced (parts : List String) : String := enclose "\x7b" "\x7d" parts

/-- Parts between brackets. -/
def bracketed (parts : List String) : String := enclose "[" "]" parts

mutual

/-- The display of a value inside another one. -/
def Value.nested : Value → String
  | .bool value => if value then "true" else "false"
  | .i8 n => toString n.toInt
  | .i16 n => toString n.toInt
  | .i32 n => toString n.toInt
  | .i64 n => toString n.toInt
  | .double x => x.text
  | .text content => Text.quote content
  | .struct fields => fields.display
  | .map entries => braced (Value.nestedEntries [] entries)
  | .set items => braced (Value.nestedItems [] items)
  | .list items => bracketed (Value.nestedItems [] items)
  | .placeholder value => value.display

/-- The displays of items inside a collection, after the displays of `done` in reverse. -/
def Value.nestedItems (done : List String) : List Value → List String
  | [] => done.reverse
  | item :: rest => Value.nestedItems (item.nested :: done) rest

/-- The displays of map entries, after the displays of `done` in reverse. -/
def Value.nestedEntries (done : List String) : List (Value × Value) → List String
  | [] => done.reverse
  | (key, value) :: rest => Value.nestedEntries ((key.nested ++ ": " ++ value.nested) :: done) rest

/-- The display of a field inside a struct. -/
def Field.nested : Field → String
  | ⟨_, _, some value, _⟩ => value.nested
  | ⟨_, _, none, some error⟩ => Field.displayError error
  | ⟨_, _, none, none⟩ => Field.displayNothing

/-- The displays of keys and fields, after the displays of `done` in reverse. -/
def Fields.nestedEntries (done : List String) : List (String × Field) → List String
  | [] => done.reverse
  | (key, field) :: rest => Fields.nestedEntries ((key ++ ": " ++ field.nested) :: done) rest

/-- The display of the fields of a struct. The reason why they end early comes last. -/
def Fields.display : Fields → String
  | ⟨entries, incomplete⟩ =>
    braced (Fields.nestedEntries [] entries ++ incomplete.toList.map Fields.displayIncomplete)

end

/-- The displays of items are those done before and one for each item. -/
theorem Value.nestedItems_eq (done : List String) (items : List Value) :
    Value.nestedItems done items = done.reverse ++ items.map Value.nested := by
  induction items generalizing done with
  | nil => simp [Value.nestedItems]
  | cons item rest ih => simp [Value.nestedItems, ih]

/-- The displays of map entries are those done before and one for each entry. -/
theorem Value.nestedEntries_eq (done : List String) (entries : List (Value × Value)) :
    Value.nestedEntries done entries =
      done.reverse ++ entries.map fun (key, value) => key.nested ++ ": " ++ value.nested := by
  induction entries generalizing done with
  | nil => simp [Value.nestedEntries]
  | cons entry rest ih => simp [Value.nestedEntries, ih]

/-- The displays of keys and fields are those done before and one for each field. -/
theorem Fields.nestedEntries_eq (done : List String) (entries : List (String × Field)) :
    Fields.nestedEntries done entries =
      done.reverse ++ entries.map fun (key, field) => key ++ ": " ++ field.nested := by
  induction entries generalizing done with
  | nil => simp [Fields.nestedEntries]
  | cons entry rest ih => simp [Fields.nestedEntries, ih]

/-- The display of a value on its own. -/
def Value.display : Value → String
  | .text content => content
  | value => value.nested

/-- The display of a field on its own. -/
def Field.display (field : Field) : String :=
  match field.value, field.error with
  | some value, _ => value.display
  | none, some error => Field.displayError error
  | none, none => Field.displayNothing

end TaggedRpc
