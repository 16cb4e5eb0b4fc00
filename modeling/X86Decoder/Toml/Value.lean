import X86Decoder.Toml.Key
import X86Decoder.Toml.Token

/-!
# TOML values

A text is a table of values by name. An array whose elements are tables is kept apart from other
arrays while headers may add to it.
-/

namespace X86Decoder.Toml

/-- A value. -/
inductive Value where
  | scalar (value : Scalar)
  | array (items : List Value)
  | table (fields : List (String × Value))
  /-- An array of tables that headers add to, the last table last. -/
  | tables (elements : List (List (String × Value)))

/-- The values of a table by name. -/
abbrev Fields := List (String × Value)

namespace Fields

/-- The fields with a value in place of the one a name has, or after the others. -/
def put (fields : Fields) (name : String) (value : Value) : Fields :=
  if (fields.lookup name).isSome then
    fields.map fun (n, old) => if n == name then (n, value) else (n, old)
  else fields ++ [(name, value)]

/-- Change the table that a value is, or the last table of an array of them. -/
def inside (change : Fields → Option Fields) : Value → Option Value
  | .table fields => (change fields).map .table
  | .tables elements => do
    let last ← elements.getLast?
    let changed ← change last
    return .tables (elements.dropLast ++ [changed])
  | _ => none

/-- Change the table at a path. -/
def updateAt (change : Fields → Option Fields) : Key → Fields → Option Fields
  | [], fields => change fields
  | name :: path, fields => do
    let value ← fields.lookup name
    let changed ← inside (updateAt change path) value
    return fields.put name changed

/-- The table that a value is, or the last table of an array of them. -/
def tableOf? : Value → Option Fields
  | .table fields => some fields
  | .tables elements => elements.getLast?
  | _ => none

/-- The table at a path. -/
def at? : Key → Fields → Option Fields
  | [], fields => some fields
  | name :: path, fields => do
    let value ← fields.lookup name
    let table ← tableOf? value
    at? path table

end Fields

end X86Decoder.Toml
