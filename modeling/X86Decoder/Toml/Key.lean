import X86Decoder.Text.Numeral

/-!
# TOML keys

A key is a path of names. It is written with dots between the names, and a name is quoted unless it
consists of letters, digits, underscores and dashes.
-/

namespace X86Decoder.Toml

/-- A path of names. -/
abbrev Key := List String

namespace Key

/-- A character within a quoted name. -/
def quotedChar (c : Char) : String :=
  match c with
  | '"' => "\\\""
  | '\\' => "\\\\"
  | '\t' => "\\t"
  | '\n' => "\\n"
  | '\r' => "\\r"
  | c =>
    let n := c.toNat
    if n = 0x08 then "\\b"
    else if n = 0x0c then "\\f"
    else if n < 0x20 ∨ n = 0x7f then "\\u" ++ Text.hexPadded 4 n
    else c.toString

/-- A name as it is written in a key. -/
def nameText (name : String) : String :=
  if name ≠ "" ∧ name.toList.all (fun c => c.isAlphanum || c == '_' || c == '-') then name
  else "\"" ++ String.join (name.toList.map quotedChar) ++ "\""

/-- A key as it is written. -/
def text (key : Key) : String :=
  ".".intercalate (key.map nameText)

end Key

end X86Decoder.Toml
