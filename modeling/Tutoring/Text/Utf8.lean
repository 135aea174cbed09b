/-!
# Texts as bytes

The UTF-8 form of a text as a list of bytes, and back. Reading refuses whatever is not the form of
a text.
-/

namespace Tutoring.Text.Utf8

/-- The bytes of a text. -/
def encode (s : String) : List UInt8 := s.toUTF8.data.toList

/-- The text of a list of bytes. -/
def decode? (bytes : List UInt8) : Option String := String.fromUTF8? ⟨bytes.toArray⟩

/-- Every text is read back from its bytes. -/
@[simp] theorem decode?_encode (s : String) : decode? (encode s) = some s := by
  simp only [decode?, encode, String.fromUTF8?, String.fromUTF8, String.toUTF8,
    Array.toArray_toList]
  exact dif_pos s.isValidUTF8

end Tutoring.Text.Utf8
