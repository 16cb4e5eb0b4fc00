/-!
# Text from bytes
-/

namespace X86Decoder.Text

/-- The text that bytes in UTF-8 spell, if they do. -/
def ofBytes? (bytes : List UInt8) : Option String :=
  String.fromUTF8? ⟨bytes.toArray⟩

/-- The character in front of bytes and the bytes after it. -/
def charFront? (bytes : List UInt8) : Option (Char × List UInt8) :=
  [1, 2, 3, 4].findSome? fun n => do
    let text ← ofBytes? (bytes.take n)
    let c ← text.toList.head?
    return (c, bytes.drop n)

end X86Decoder.Text
