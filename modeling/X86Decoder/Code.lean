import X86Decoder.Form.Table

/-!
# Names of codes

The codes are those of no instruction and of the rows of the table, in this order. Each has a name,
and is found by it.
-/

namespace X86Decoder.Code

/-- The names of all codes, in order. -/
def nameList : List String :=
  "INVALID" :: Table.entries.map Entry.name

/-- The names of all codes, by their numbers. -/
def names : Array String :=
  nameList.toArray

/-- How many codes there are, that of no instruction included. -/
def count : Nat :=
  names.size

/-- The name of a code. -/
def name (code : Code) : String :=
  match names[code.number.toNat]? with
  | some name => name
  | none => "Code(" ++ Text.decimal code.number.toNat ++ ")"

/-- The code with the given name. -/
def ofName? (name : String) : Option Code :=
  (nameList.idxOf? name).map fun n => ⟨n.toUInt16⟩

end X86Decoder.Code
