/-
Text as UTF-8 bytes.
-/
namespace ParamQuery.Text

/-- The bytes of a text. -/
def utf8 (s : String) : List UInt8 := s.toByteArray.data.toList

/-- The text of bytes, if they are well formed. -/
def ofUtf8? (bytes : List UInt8) : Option String := String.fromUTF8? ⟨bytes.toArray⟩

theorem ofUtf8?_utf8 (s : String) : ofUtf8? (utf8 s) = .some s :=
  dif_pos (c := ByteArray.IsValidUTF8 ⟨s.toByteArray.data.toList.toArray⟩) s.isValidUTF8

end ParamQuery.Text
