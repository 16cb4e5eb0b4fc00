import X86Decoder.Document.Basic
import X86Decoder.Text.Numeral

/-!
# Documents in JSON

One field or item a line, indented by tabs. In strings, the characters that have a meaning in HTML
are escaped too, and the two line separators of Unicode.
-/

namespace X86Decoder.Document

/-- A character within a string. -/
def jsonChar (c : Char) : String :=
  match c with
  | '"' => "\\\""
  | '\\' => "\\\\"
  | '\n' => "\\n"
  | '\r' => "\\r"
  | '\t' => "\\t"
  | '<' | '>' | '&' => "\\u" ++ Text.hexPadded 4 c.toNat
  | c =>
    let n := c.toNat
    if n = 0x08 then "\\b"
    else if n = 0x0c then "\\f"
    else if n < 0x20 ∨ n = 0x2028 ∨ n = 0x2029 then "\\u" ++ Text.hexPadded 4 n
    else c.toString

/-- A string between double quotes. -/
def jsonString (s : String) : String :=
  "\"" ++ String.join (s.toList.map jsonChar) ++ "\""

/-- The start of a line at a depth. -/
def jsonIndent (depth : Nat) : String :=
  "\n" ++ String.ofList (List.replicate depth '\t')

mutual

/-- A document at a depth. -/
def jsonAt (depth : Nat) : Document → String
  | text s => jsonString s
  | number n => Text.signedDecimal n
  | flag b => if b then "true" else "false"
  | noList => "null"
  | noObject => "null"
  | list [] => "[]"
  | list (item :: rest) =>
    "[" ++ jsonIndent (depth + 1) ++ jsonAt (depth + 1) item ++ jsonItems (depth + 1) rest
      ++ jsonIndent depth ++ "]"
  | object [] => "\x7b\x7d"
  | object ((name, value) :: rest) =>
    "\x7b" ++ jsonIndent (depth + 1) ++ jsonString name ++ ": " ++ jsonAt (depth + 1) value
      ++ jsonFields (depth + 1) rest ++ jsonIndent depth ++ "\x7d"

/-- The items of a list after the first. -/
def jsonItems (depth : Nat) : List Document → String
  | [] => ""
  | item :: rest => "," ++ jsonIndent depth ++ jsonAt depth item ++ jsonItems depth rest

/-- The fields of an object after the first. -/
def jsonFields (depth : Nat) : List (String × Document) → String
  | [] => ""
  | (name, value) :: rest =>
    "," ++ jsonIndent depth ++ jsonString name ++ ": " ++ jsonAt depth value
      ++ jsonFields depth rest

end

/-- A document in JSON. -/
def json (d : Document) : String :=
  jsonAt 0 d ++ "\n"

end X86Decoder.Document
