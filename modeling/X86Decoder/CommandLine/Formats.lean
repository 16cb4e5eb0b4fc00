import X86Decoder.Document.Json
import X86Decoder.Document.Yaml
import X86Decoder.Dump
import X86Decoder.Jobs
import X86Decoder.Listing
import X86Decoder.Toml.Record

/-!
# Formats of the commands

Commands read configurations and job files in TOML, and write documents in JSON and YAML.
-/

namespace X86Decoder

/-- The formats of documents. -/
def Encoders.standard : Encoders :=
  ⟨Document.json, Document.yaml⟩

/-- Shows every field with its type. -/
def Dumper.typed : Dumper :=
  ⟨Instruction.dump, PrefixState.dump⟩

namespace Config.Draft

/-- The names of the fields. -/
def fieldNames : List String :=
  ["mode", "ip", "format", "workers", "max-errors", "resync"]

/-- Set a field. An instruction pointer is taken modulo 2^64. -/
def setField (name : String) (value : Toml.Value) (draft : Draft) : Option Draft :=
  match name with
  | "mode" => value.integer?.map fun n => { draft with modeBits := n }
  | "ip" => value.integer?.map fun n => { draft with ip := UInt64.ofInt n }
  | "format" => value.string?.map fun s => { draft with format := s }
  | "workers" => value.integer?.map fun n => { draft with workers := n }
  | "max-errors" => value.integer?.map fun n => { draft with maxErrors := n }
  | "resync" => value.string?.map fun s => { draft with resync := s }
  | _ => some draft

/-- Sets fields of a draft from a TOML text. -/
def ofToml : RecordDecoder Draft := fun start bytes => do
  let text ← Toml.parseBytes bytes
  let draft ← Toml.readRecord fieldNames setField start text.fields
  return (draft, text.unknown ((Toml.knownKeys fieldNames text.fields).map fun key => [key]))

end Config.Draft

namespace Jobs

/-- The names of the fields of a region. -/
def regionFields : List String :=
  ["name", "file", "offset", "length", "mode", "ip"]

/-- Set a field of a region. An instruction pointer is taken modulo 2^64. -/
def setRegionField (name : String) (value : Toml.Value) (entry : RegionEntry) :
    Option RegionEntry :=
  match name with
  | "name" => value.string?.map fun s => { entry with name := s }
  | "file" => value.string?.map fun s => { entry with file := s }
  | "offset" => value.integer?.map fun n => { entry with offset := Int64.ofInt n }
  | "length" => value.integer?.map fun n => { entry with length := Int64.ofInt n }
  | "mode" => value.integer?.map fun n => { entry with modeBits := n }
  | "ip" => value.integer?.map fun n => { entry with ip := some (UInt64.ofInt n) }
  | _ => some entry

/-- The name of the field that lists the regions. -/
def listName : String := "region"

/-- The keys that set a field, where the given key lists regions. -/
def knownKeys (key : String) (value : Toml.Value) : List Toml.Key :=
  if Toml.sameName listName key then
    [key] :: ((value.tables?.getD []).flatMap fun fields =>
      (Toml.knownKeys regionFields fields).map fun name => [key, name])
  else []

/-- Reads the regions of a TOML text. -/
def ofToml : RecordDecoder (List RegionEntry) := fun start bytes => do
  let text ← Toml.parseBytes bytes
  let entries ← Toml.readRecord [listName]
    (fun _ value _ => do
      let tables ← value.tables?
      tables.mapM fun table => Toml.readRecord regionFields setRegionField {} table)
    start text.fields
  return (entries, text.unknown (text.fields.flatMap fun (key, value) => knownKeys key value))

end Jobs

end X86Decoder
