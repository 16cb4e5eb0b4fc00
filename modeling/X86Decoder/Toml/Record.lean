import X86Decoder.Text.Case
import X86Decoder.Text.Utf8
import X86Decoder.Toml.Document

/-!
# Records from TOML tables

A record has fields by name. A key of a table sets the field of that name, or else the one whose
name differs in the case of letters only. Keys that set no field are told apart, so that a mistyped
name does not go unnoticed.
-/

namespace X86Decoder.Toml

/-- A letter without regard to case. The long s and the Kelvin sign are forms of s and k. -/
def foldChar (c : Char) : Char :=
  if c.toNat = 0x17f then 's' else if c.toNat = 0x212a then 'k' else c.toLower

/-- Whether two names differ in the case of letters only. -/
def sameName (a b : String) : Bool :=
  a.toList.map foldChar == b.toList.map foldChar

/-- The field that a key sets. -/
def fieldOf? (names : List String) (key : String) : Option String :=
  match names.find? (· == key) with
  | some name => some name
  | none => names.find? (sameName key)

/-- Set the fields of a record from a table, in order. No record results if a value does not fit its
field. -/
def readRecord {α : Type} (names : List String) (set : String → Value → α → Option α) (start : α)
    (fields : Fields) : Option α :=
  fields.foldlM
    (fun record (key, value) =>
      match fieldOf? names key with
      | some name => set name value record
      | none => some record)
    start

/-- The keys of a table that set a field. -/
def knownKeys (names : List String) (fields : Fields) : List String :=
  (fields.map Prod.fst).filter fun key => (fieldOf? names key).isSome

/-- The string that a value is. -/
def Value.string? : Value → Option String
  | .scalar (.string s) => some s
  | _ => none

/-- The integer that a value is. -/
def Value.integer? : Value → Option Int
  | .scalar (.integer n) => some n
  | _ => none

/-- The tables that a value is an array of. -/
def Value.tables? : Value → Option (List Fields)
  | .tables elements => some elements
  | .array items => items.mapM fun item =>
    match item with
    | .table fields => some fields
    | _ => none
  | _ => none

/-- The keys of a text that are not among the known ones. -/
def Text.unknown (text : Text) (known : List Key) : List String :=
  let known := known.map Key.text
  (text.named.map Key.text).filter fun key => !known.contains key

/-- Read a text that is given as bytes. One mark of the order of bytes in front is passed over. -/
def parseBytes (bytes : List UInt8) : Option Text :=
  let bytes :=
    match bytes with
    | 0xff :: 0xfe :: rest => rest
    | 0xfe :: 0xff :: rest => rest
    | 0xef :: 0xbb :: 0xbf :: rest => rest
    | bytes => bytes
  (X86Decoder.Text.ofBytes? bytes).bind parse

end X86Decoder.Toml
