import X86Decoder.Document.Basic
import X86Decoder.Document.Plain
import X86Decoder.Text.Numeral

/-!
# Documents in YAML

One field or item a line, indented by two more spaces at each level. A string is written plain where
it then reads as itself, else between single or double quotes, and as a block where it has several
lines.
-/

namespace X86Decoder.Document

/-! ### Strings -/

/-- Whether a character ends a line. -/
def yamlBreak (c : Char) : Bool :=
  c == '\n' || c == '\r' || c.toNat == 0x85 || c.toNat == 0x2028 || c.toNat == 0x2029

/-- Whether a character can be written as it is. -/
def yamlPrintable (c : Char) : Bool :=
  let n := c.toNat
  n == 0x0a || (decide (0x20 ≤ n) && decide (n ≤ 0x7e))
    || (decide (0xa0 ≤ n) && decide (n ≤ 0xfffd) && n != 0xfeff)

/-- Whether a string has two characters next to each other of which the first and the second have
the given properties. -/
def yamlNeighbours (first second : Char → Bool) : List Char → Bool
  | a :: b :: rest => (first a && second b) || yamlNeighbours first second (b :: rest)
  | _ => false

/-- Whether a string has a character that can only be written as an escape; tabs apart. -/
def yamlSpecial (cs : List Char) : Bool :=
  cs.any fun c => c != '\t' && !yamlPrintable c

/-- Whether a space stands right before the end of a line. -/
def yamlSpaceBreak (cs : List Char) : Bool :=
  yamlNeighbours (· == ' ') yamlBreak cs

/-- Whether white space, or the end of the string, comes first. -/
def yamlBlankFirst : List Char → Bool
  | [] => true
  | c :: _ => c == ' ' || c == '\t'

/-- Whether a string starts in a way that has a meaning of its own. -/
def yamlIndicatorFirst (cs : List Char) : Bool :=
  match cs with
  | [] => false
  | c :: rest =>
    "---".toList.isPrefixOf cs || "...".toList.isPrefixOf cs
      || "#,[]\x7b\x7d&*!|>'\"%@\x60".toList.contains c
      || ((c == '?' || c == ':' || c == '-') && yamlBlankFirst rest)

/-- Whether a colon before white space or a comment sign after it stands within a string. -/
def yamlIndicatorWithin : List Char → Bool
  | a :: b :: rest =>
    (b == ':' && yamlBlankFirst rest) || (b == '#' && (a == ' ' || a == '\t' || yamlBreak a))
      || yamlIndicatorWithin (b :: rest)
  | _ => false

/-- Whether a string can be written without quotes on one line. -/
def yamlPlainAllowed (cs : List Char) : Bool :=
  let edge (c : Option Char) := c.any fun c => c == ' ' || yamlBreak c
  !(edge cs.head? || edge cs.getLast? || cs.any yamlBreak || cs.contains '\t' || yamlSpecial cs
    || yamlIndicatorFirst cs || yamlIndicatorWithin cs)

/-- Whether a string can be written between single quotes. -/
def yamlSingleAllowed (cs : List Char) : Bool :=
  !(yamlNeighbours yamlBreak (· == ' ') cs || yamlSpaceBreak cs || cs.contains '\t'
    || yamlSpecial cs)

/-- Whether a string can be written as a block. -/
def yamlBlockAllowed (cs : List Char) : Bool :=
  !(cs.getLast? == some ' ' || yamlSpaceBreak cs || yamlSpecial cs)

/-- A character that is escaped between double quotes. -/
def yamlEscape (c : Char) : String :=
  let upper (width : Nat) := (Text.hexPadded width c.toNat).map Char.toUpper
  match c.toNat with
  | 0x00 => "\\0"
  | 0x07 => "\\a"
  | 0x08 => "\\b"
  | 0x09 => "\\t"
  | 0x0a => "\\n"
  | 0x0b => "\\v"
  | 0x0c => "\\f"
  | 0x0d => "\\r"
  | 0x1b => "\\e"
  | 0x22 => "\\\""
  | 0x5c => "\\\\"
  | 0x85 => "\\N"
  | 0xa0 => "\\_"
  | 0x2028 => "\\L"
  | 0x2029 => "\\P"
  | n =>
    if n ≤ 0xff then "\\x" ++ upper 2
    else if n ≤ 0xffff then "\\u" ++ upper 4
    else "\\U" ++ upper 8

/-- A string between double quotes. After a mark of the byte order in front, every character is
escaped. -/
def yamlDouble (cs : List Char) : String :=
  let marked := cs.head?.any (·.toNat == 0xfeff)
  "\"" ++ String.join (cs.map fun c =>
      if marked || !yamlPrintable c || yamlBreak c || c == '"' || c == '\\' then yamlEscape c
      else c.toString)
    ++ "\""

/-- The characters of lines that are indented, where `fresh` tells whether a line has just begun. -/
def yamlIndented (indent : String) (write : Char → String) (fresh : Bool) : List Char → String
  | [] => ""
  | c :: rest =>
    if yamlBreak c then c.toString ++ yamlIndented indent write true rest
    else (if fresh then indent else "") ++ write c ++ yamlIndented indent write false rest

/-- A string between single quotes. -/
def yamlSingle (indent : String) (cs : List Char) : String :=
  "'" ++ yamlIndented indent (fun c => if c == '\'' then "''" else c.toString) false cs ++ "'"

/-- What follows the bar of a block: a two if the first line has to be told from its indentation,
and whether ends of lines at the end are dropped or kept. -/
def yamlBlockHints (cs : List Char) : String :=
  (if cs.head?.any (fun c => c == ' ' || yamlBreak c) then "2" else "")
    ++ match cs.reverse with
      | [] => "-"
      | [c] => if yamlBreak c then "+" else "-"
      | c :: d :: _ => if !yamlBreak c then "-" else if yamlBreak d then "+" else ""

/-- A string as a block. The first line starts on a line of its own. -/
def yamlBlock (indent : String) (cs : List Char) : String :=
  "|" ++ yamlBlockHints cs
    ++ (if cs.head?.any yamlBreak then "" else "\n")
    ++ yamlIndented indent Char.toString true cs

/-- A string, whose further lines are indented. -/
def yamlString (indent : String) (s : String) : String :=
  let cs := s.toList
  if cs.contains '\n' then if yamlBlockAllowed cs then yamlBlock indent cs else yamlDouble cs
  else if !Plain.readsAsString s then yamlDouble cs
  else if yamlPlainAllowed cs then s
  else if yamlSingleAllowed cs then yamlSingle indent cs
  else yamlDouble cs

/-! ### Structure -/

/-- Spaces at the start of a line. -/
def yamlIndent (width : Nat) : String :=
  String.ofList (List.replicate width ' ')

/-- The end of a line, unless one has just been written. -/
def yamlEndLine (s : String) : String :=
  if s.toList.getLast?.any yamlBreak then s else s ++ "\n"

mutual

/-- The lines of a document whose first line has already been indented by `width`. -/
def yamlAt (width : Nat) : Document → String
  | text s => yamlEndLine (yamlString (yamlIndent (width + 2)) s)
  | number n => Text.signedDecimal n ++ "\n"
  | flag b => if b then "true\n" else "false\n"
  | noList | list [] => "[]\n"
  | noObject | object [] => "\x7b\x7d\n"
  | list (item :: rest) => "- " ++ yamlAt (width + 2) item ++ yamlItems width rest
  | object ((name, value) :: rest) =>
    name ++ ":" ++ yamlValue width value ++ yamlFields width rest

/-- The items of a list after the first. -/
def yamlItems (width : Nat) : List Document → String
  | [] => ""
  | item :: rest =>
    yamlIndent width ++ "- " ++ yamlAt (width + 2) item ++ yamlItems width rest

/-- The fields of an object after the first. -/
def yamlFields (width : Nat) : List (String × Document) → String
  | [] => ""
  | (name, value) :: rest =>
    yamlIndent width ++ name ++ ":" ++ yamlValue width value ++ yamlFields width rest

/-- The value of a field of an object that is indented by `width`. -/
def yamlValue (width : Nat) : Document → String
  | list (item :: rest) =>
    "\n" ++ yamlIndent (width + 2) ++ "- " ++ yamlAt (width + 4) item ++ yamlItems (width + 2) rest
  | object ((name, value) :: rest) =>
    "\n" ++ yamlIndent (width + 2) ++ name ++ ":" ++ yamlValue (width + 2) value
      ++ yamlFields (width + 2) rest
  | text s => " " ++ yamlEndLine (yamlString (yamlIndent (width + 2)) s)
  | number n => " " ++ Text.signedDecimal n ++ "\n"
  | flag b => if b then " true\n" else " false\n"
  | noList | list [] => " []\n"
  | noObject | object [] => " \x7b\x7d\n"

end

/-- A document in YAML. -/
def yaml (d : Document) : String :=
  yamlAt 0 d

end X86Decoder.Document
