import TaggedRpc.Text.Hex

/-!
# Text of received bytes

Bytes that spell UTF-8 are their text (`ofBytes_toUTF8`). Other bytes are shown by a bounded
hexadecimal preview, so that a binary identifier still has a printable form.
-/

namespace TaggedRpc.Text

/-- The number of bytes that a preview spells out. -/
def previewSize : Nat := 50

/-- A preview of bytes: the first of them in hexadecimal, then an ellipsis if there are more. -/
def preview (bytes : ByteArray) : String :=
  "<binary:" ++ hexBytes (bytes.extract 0 previewSize).data.toList ++
    (if previewSize < bytes.size then "..." else "") ++ ">"

/-- The text that bytes spell in UTF-8, or their preview if they spell none. -/
def ofBytes (bytes : ByteArray) : String := (String.fromUTF8? bytes).getD (preview bytes)

/-- The bytes of a text are read back as that text. -/
theorem ofBytes_toUTF8 (text : String) : ofBytes text.toUTF8 = text := by
  simp [ofBytes, String.fromUTF8?, String.fromUTF8, text.isValidUTF8]

/-- Bytes are shown by a preview exactly when they are not UTF-8. -/
theorem ofBytes_of_not_isValidUTF8 (bytes : ByteArray) (invalid : ¬ bytes.IsValidUTF8) :
    ofBytes bytes = preview bytes := by
  simp [ofBytes, String.fromUTF8?, invalid]

end TaggedRpc.Text
