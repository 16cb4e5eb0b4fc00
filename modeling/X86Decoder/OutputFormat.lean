import X86Decoder.Text.Quoted

/-!
# Output formats
-/

namespace X86Decoder

/-- A format of output. -/
inductive OutputFormat where
  | text
  | json
  | yaml
deriving DecidableEq

/-- The name of no format. -/
structure FormatFault where
  /-- The name that was given. -/
  name : String
deriving DecidableEq

namespace OutputFormat

/-- Every format. -/
def all : List OutputFormat :=
  [text, json, yaml]

/-- The name of a format. -/
def name : OutputFormat → String
  | text => "text"
  | json => "json"
  | yaml => "yaml"

/-- The format with the given name. -/
def parse (name : String) : Except FormatFault OutputFormat :=
  match all.find? fun format => format.name == name with
  | some format => .ok format
  | none => .error ⟨name⟩

end OutputFormat

/-- What is said of the name of no format. -/
def FormatFault.message (fault : FormatFault) : String :=
  "invalid format " ++ Text.quoted fault.name ++ ": must be one of "
    ++ ", ".intercalate (OutputFormat.all.map OutputFormat.name)

end X86Decoder
