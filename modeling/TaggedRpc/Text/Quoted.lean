import TaggedRpc.Text.GraphemeExtend
import TaggedRpc.Text.Hex
import TaggedRpc.Text.Unprintable

/-!
# Quoted text

A text between double quotes, on one line and in visible characters: quotes, backslashes and the
common controls have short escapes, other characters that cannot be seen on their own are written
by their code point in hexadecimal.
-/

namespace TaggedRpc.Text

/-- Whether a code point is drawn on the character before it. -/
def isOverlaid (code : Nat) : Bool :=
  graphemeExtend.contains code && !halfwidthSoundMarks.contains code

/-- Whether a character cannot be seen on its own: it is unprintable, drawn as nothing, or drawn on
the character before it. Between the space and the tilde every character can be seen. -/
def isHidden (c : Char) : Bool :=
  !(0x20 ≤ c.toNat && c.toNat ≤ 0x7e) &&
    (isOverlaid c.toNat || unprintable.contains c.toNat || fillers.contains c.toNat)

/-- The spelling of one character inside quotes. -/
def escape (c : Char) : String :=
  match c with
  | '\x00' => "\\0"
  | '\t' => "\\t"
  | '\n' => "\\n"
  | '\r' => "\\r"
  | '"' => "\\\""
  | '\\' => "\\\\"
  | c => if isHidden c then "\\u\x7b" ++ hex c.toNat ++ "\x7d" else c.toString

/-- A text between double quotes, each character in its spelling. -/
def quote (text : String) : String :=
  text.toList.foldl (fun out c => out ++ escape c) "\"" ++ "\""

/-- Quoting spells the characters one after another between two quotes. -/
theorem toList_quote (text : String) :
    (quote text).toList = '"' :: text.toList.flatMap (fun c => (escape c).toList) ++ ['"'] := by
  have spelled (chars : List Char) (out : String) :
      (chars.foldl (fun out c => out ++ escape c) out).toList =
        out.toList ++ chars.flatMap (fun c => (escape c).toList) := by
    induction chars generalizing out with
    | nil => simp
    | cons c rest ih => simp [ih]
  rw [quote, String.toList_append, spelled]
  rfl

end TaggedRpc.Text
