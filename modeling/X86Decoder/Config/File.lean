import X86Decoder.Config.Basic
import X86Decoder.Files.Basic

/-!
# Configuration files

Fields that a configuration file does not set have their default values, and it sets no other
fields. The format of files is that of the decoder that reads them.
-/

namespace X86Decoder

/-- A decoder sets fields of a record from a text, and lists the names in the text that no field
has. It yields nothing if the text is not of its format or a value does not fit its field. -/
abbrev RecordDecoder (α : Type) := α → List UInt8 → Option (α × List String)

/-- Why a text does not describe what it should. -/
inductive TextFault (α : Type) where
  /-- The decoder yields nothing. -/
  | undecodable
  /-- There are no such fields. -/
  | unknownFields (keys : List String)
  | content (fault : α)
deriving DecidableEq

/-- What is said of a fault; why a decoder yields nothing is not put into words. -/
def TextFault.message? {α : Type} (message : α → String) : TextFault α → Option String
  | undecodable => none
  | unknownFields keys => some ("unknown fields: " ++ ", ".intercalate keys)
  | content fault => some (message fault)

/-- Read a record from a text that has no other names, given the values of fields that are not
set. Names that no field has are told in alphabetical order. -/
def RecordDecoder.read {α β : Type} (decode : RecordDecoder α) (start : α) (bytes : List UInt8) :
    Except (TextFault β) α :=
  match decode start bytes with
  | none => .error .undecodable
  | some (record, []) => .ok record
  | some (_, names) => .error (.unknownFields (names.mergeSort fun a b => !decide (b < a)))

/-- Why what a file describes is not there. -/
inductive LoadFault (α : Type) where
  /-- The file cannot be opened. -/
  | opening (fault : FileFault)
  /-- The file cannot be read. -/
  | reading (fault : FileFault)
  | text (path : String) (fault : TextFault α)
deriving DecidableEq

/-- What is said of a fault; what is wrong within a file follows its path. -/
def LoadFault.message? {α : Type} (message : α → String) : LoadFault α → Option String
  | opening fault => some fault.message
  | reading fault => some (fault.path ++ ": " ++ fault.message)
  | text path fault => (fault.message? message).map fun text => path ++ ": " ++ text

/-- Open a file and read what it describes. -/
def loadFile {m : Type → Type} [Monad m] {α β : Type} (files : FileReader m) (path : String)
    (read : List UInt8 → Except (TextFault α) β) : m (Except (LoadFault α) β) := do
  match ← files path with
  | .error fault => return .error (.opening fault)
  | .ok entry =>
    match entry.read path with
    | .error fault => return .error (.reading fault)
    | .ok content => return (read content).mapError (.text path)

namespace Config

/-- Read a configuration. -/
def parse (decode : RecordDecoder Draft) (bytes : List UInt8) :
    Except (TextFault DraftFault) Config := do
  let draft ← decode.read ({} : Config).draft bytes
  draft.check.mapError .content

/-- The name of the configuration file in the working directory. -/
def defaultPath : String := "x86dec.toml"

/-- Load the configuration file at a path. No path is the file in the working directory, and
there need not be one. -/
def load {m : Type → Type} [Monad m] (decode : RecordDecoder Draft) (files : FileReader m)
    (path : String) : m (Except (LoadFault DraftFault) Config) := do
  if path == "" then
    match ← loadFile files defaultPath (parse decode) with
    | .error (.opening ⟨_, _, .notFound⟩) => return .ok {}
    | result => return result
  else loadFile files path (parse decode)

end Config

end X86Decoder
