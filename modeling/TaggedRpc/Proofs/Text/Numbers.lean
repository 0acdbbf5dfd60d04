import TaggedRpc.Binary64.Text
import TaggedRpc.Proofs.Text.Delimited

/-!
# Characters of numbers

The texts of integers and of doubles are made of few characters (`isNumeric`): digits, a sign, a
point, and the letters of what is no finite number. None of them quotes, opens or ends anything.
-/

namespace TaggedRpc

/-- Whether a character may be in the text of a number. -/
def Text.isNumeric (c : Char) : Bool := c.isDigit || ['-', '.', 'N', 'a', 'i', 'n', 'f'].contains c

namespace Text

private theorem isNumeric_of_isDigit {c : Char} (digit : c.isDigit = true) :
    isNumeric c = true := by
  rw [isNumeric, digit, Bool.true_or]

/-- A character of a number is none that may not be in one. -/
theorem ne_of_isNumeric {c other : Char} (numeric : isNumeric c = true)
    (foreign : isNumeric other = false) : c ≠ other := by
  rintro rfl
  rw [numeric] at foreign
  cases foreign

/-- The decimal digits of a number are characters of numbers. -/
theorem isNumeric_of_mem_toDigits {n : Nat} {c : Char} (among : c ∈ Nat.toDigits 10 n) :
    isNumeric c = true :=
  isNumeric_of_isDigit (Nat.isDigit_of_mem_toDigits (by decide) (by decide) among)

/-- The text of an integer is made of characters of numbers. -/
theorem isNumeric_of_mem_int {n : Int} {c : Char} (among : c ∈ (toString n).toList) :
    isNumeric c = true := by
  rw [toList_toString_int] at among
  split at among
  · exact isNumeric_of_mem_toDigits among
  · rcases List.mem_cons.mp among with rfl | among
    · rfl
    · exact isNumeric_of_mem_toDigits among

end Text

private theorem Decimal.isDigit_of_mem_positional {d : Decimal} {c : Char}
    (among : c ∈ d.positional.toList) : c = '.' ∨ c.isDigit = true := by
  have digit {c : Char} (among : c ∈ Nat.toDigits 10 d.digits) : c.isDigit = true :=
    Nat.isDigit_of_mem_toDigits (by decide) (by decide) among
  have padded {c : Char} {places : Nat}
      (among : c ∈ (Nat.toDigits 10 d.digits).leftpad places '0') : c.isDigit = true := by
    rcases List.mem_append.mp among with zero | among
    · rw [List.eq_of_mem_replicate zero]
      rfl
    · exact digit among
  have fraction {c : Char} {places split : Nat}
      (among : c ∈ ((((Nat.toDigits 10 d.digits).leftpad places '0').drop split).reverse.dropWhile
        (· == '0')).reverse) : c.isDigit = true := by
    rw [List.mem_reverse] at among
    exact padded (List.mem_of_mem_drop
      (List.mem_reverse.mp ((List.dropWhile_sublist _).subset among)))
  rw [positional] at among
  split at among
  · rw [String.toList_ofList] at among
    rcases List.mem_append.mp among with among | zero
    · exact .inr (digit among)
    · rw [List.eq_of_mem_replicate zero]
      exact .inr rfl
  · rw [String.toList_ofList] at among
    split at among
    · exact .inr (padded (List.mem_of_mem_take among))
    · rcases List.mem_append.mp among with among | among
      · exact .inr (padded (List.mem_of_mem_take among))
      · rcases List.mem_cons.mp among with point | among
        · exact .inl point
        · exact .inr (fraction among)

/-- The text of a double is made of characters of numbers. -/
theorem Binary64.isNumeric_of_mem_text {x : Binary64} {c : Char} (among : c ∈ x.text.toList) :
    Text.isNumeric c = true := by
  have literal {chars : List Char} (all : chars.all Text.isNumeric = true) {c : Char}
      (among : c ∈ chars) : Text.isNumeric c = true := List.all_eq_true.mp all c among
  have magnitude {c : Char} (among : c ∈ x.magnitudeText.toList) : Text.isNumeric c = true := by
    rw [magnitudeText] at among
    split at among
    · exact literal rfl among
    · split at among
      · exact literal rfl among
      · rcases Decimal.isDigit_of_mem_positional among with rfl | digit
        · rfl
        · exact Text.isNumeric_of_isDigit digit
  rw [text] at among
  split at among
  · exact literal rfl among
  · split at among
    · rw [String.toList_append] at among
      rcases List.mem_append.mp among with sign | among
      · exact literal rfl sign
      · exact magnitude among
    · exact magnitude among

end TaggedRpc
