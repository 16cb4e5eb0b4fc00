/-!
# Documents

Structured output, before it is written in a format: scalars, lists, and objects whose fields are
in order.
-/

namespace X86Decoder

/-- A piece of structured output. -/
inductive Document where
  | text (s : String)
  | number (n : Int)
  | flag (b : Bool)
  | list (items : List Document)
  | object (fields : List (String × Document))
  /-- A list that was never made. -/
  | noList
  /-- An object that was never made. -/
  | noObject

namespace Document

/-- A field that is there only if its value is not the default. -/
def fieldUnless (isDefault : Bool) (name : String) (value : Document) : List (String × Document) :=
  if isDefault then [] else [(name, value)]

end Document

/-- How documents are written in formats that are not defined here. -/
structure Encoders where
  json : Document → String
  yaml : Document → String

end X86Decoder
