import X86Decoder.Text.Numeral
import X86Decoder.Text.Printable

/-!
# Quoted strings

A string is quoted between double quotes. Quotes and backslashes are escaped, and so is every
character that is not printable: by a letter where it has one, else by its number.
-/

namespace X86Decoder.Text

/-- A character within a quoted string. -/
def quotedChar (c : Char) : String :=
  if c = '"' then "\\\""
  else if c = '\\' then "\\\\"
  else if isPrintable c then c.toString
  else
    match c.toNat with
    | 0x07 => "\\a"
    | 0x08 => "\\b"
    | 0x0c => "\\f"
    | 0x0a => "\\n"
    | 0x0d => "\\r"
    | 0x09 => "\\t"
    | 0x0b => "\\v"
    | n =>
      if n < 0x80 then "\\x" ++ hexPadded 2 n
      else if n < 0x10000 then "\\u" ++ hexPadded 4 n
      else "\\U" ++ hexPadded 8 n

/-- A string between double quotes. -/
def quoted (s : String) : String :=
  "\"" ++ String.join (s.toList.map quotedChar) ++ "\""

end X86Decoder.Text
