/-!
# Small letters

Names that are looked up whatever their case are first put in small letters. The names consist of
ASCII characters, so only the characters whose small letter is one of those matter: the capitals,
the Kelvin sign, and the capital I with a dot.
-/

namespace X86Decoder.Text

/-- A character, or its small letter where that is an ASCII character. -/
def lowerChar (c : Char) : Char :=
  if c.toNat == 0x212a then 'k'
  else if c.toNat == 0x130 then 'i'
  else c.toLower

/-- A string in small letters, as far as they are ASCII characters. -/
def lower (s : String) : String :=
  String.ofList (s.toList.map lowerChar)

end X86Decoder.Text
