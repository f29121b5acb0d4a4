/-!
# UTF-8

Texts as bytes and bytes as texts.  Reading is strict: bytes that are not the encoding of a text,
overlong forms and halves of surrogate pairs among them, are refused as a whole.
-/

set_option autoImplicit false

namespace TrialRun.Text.Utf8

def encode (s : String) : List UInt8 := s.toUTF8.toList

def decode? (bytes : List UInt8) : Option String := String.fromUTF8? ⟨bytes.toArray⟩

/-- The number of bytes of a text. -/
def size (s : String) : Nat := s.utf8ByteSize

end TrialRun.Text.Utf8
