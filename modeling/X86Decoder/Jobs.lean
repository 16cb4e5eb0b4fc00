import X86Decoder.Config.File
import X86Decoder.Path
import X86Decoder.Region

/-!
# Job files

A job file lists the regions to scan. What a region leaves out is filled in from the configuration,
and files are found from the directory of the job file.
-/

namespace X86Decoder

/-- A region as a job file states it. -/
structure RegionEntry where
  /-- The name; none is made of the file and the offset. -/
  name : String := ""
  file : String := ""
  offset : Int64 := 0
  length : Int64 := 0
  /-- The mode in bits; zero is that of the configuration. -/
  modeBits : Int := 0
  /-- The instruction pointer of the first byte. -/
  ip : Option UInt64 := none
deriving DecidableEq

/-- Why a list of regions cannot be scanned. Regions are counted from one. -/
inductive JobsFault where
  | noRegions
  | noFile (number : Nat)
  | repeatedName (number : Nat) (name : String) (previous : Nat)
  | range (name : String) (offset length : Int64)
  | mode (name : String) (bits : Int)
deriving DecidableEq

namespace JobsFault

/-- What is said of a fault. -/
def message : JobsFault → String
  | noRegions => "no regions"
  | noFile number => "region " ++ Text.decimal number ++ ": no file"
  | repeatedName number name previous =>
    "region " ++ Text.decimal number ++ ": name " ++ Text.quoted name ++ " already used by region "
      ++ Text.decimal previous
  | range name offset length =>
    "region " ++ Text.quoted name ++ ": invalid range " ++ Text.signedDecimal offset.toInt ++ "+"
      ++ Text.signedDecimal length.toInt
  | mode name bits => "region " ++ Text.quoted name ++ ": " ++ modeMessage bits

end JobsFault

namespace RegionEntry

/-- The path of the file, found from a directory. -/
def path (directory : String) (entry : RegionEntry) : String :=
  if Path.isAbsolute entry.file then entry.file else Path.join directory entry.file

/-- The name, made of the file and the offset if there is none. -/
def effectiveName (directory : String) (entry : RegionEntry) : String :=
  if entry.name == "" then
    Path.base (entry.path directory) ++ "@" ++ Text.signedHex entry.offset.toInt
  else entry.name

/-- The mode and its number of bits, if there is such a mode. -/
def mode? (config : Config) (entry : RegionEntry) : Option (Mode × Int) :=
  if entry.modeBits = 0 then some (config.mode, config.mode.bits)
  else (Mode.ofBits? entry.modeBits).map fun mode => (mode, entry.modeBits)

/-- The region that an entry states, unless a region before it has its name. `number` counts the
entries from one, and `named` has the names of those before with their numbers. -/
def resolve (directory : String) (config : Config) (number : Nat) (named : List (String × Nat))
    (entry : RegionEntry) : Except JobsFault Region :=
  if entry.file == "" then .error (.noFile number)
  else
    let name := entry.effectiveName directory
    match named.lookup name with
    | some previous => .error (.repeatedName number name previous)
    | none =>
      if entry.offset < 0 ∨ entry.length < 0 then .error (.range name entry.offset entry.length)
      else
        match entry.mode? config with
        | none => .error (.mode name entry.modeBits)
        | some (mode, bits) =>
          let ip := entry.ip.getD (config.ip + UInt64.ofInt entry.offset.toInt)
          .ok ⟨name, entry.path directory, entry.offset, entry.length, mode, bits, ip⟩

end RegionEntry

namespace Jobs

/-- The regions that entries state, after those with the given names. -/
def resolveFrom (directory : String) (config : Config) (number : Nat)
    (named : List (String × Nat)) : List RegionEntry → Except JobsFault (List Region)
  | [] => .ok []
  | entry :: rest => do
    let region ← entry.resolve directory config number named
    let regions ← resolveFrom directory config (number + 1) ((region.name, number) :: named) rest
    return region :: regions

/-- The regions that entries state. -/
def resolve (directory : String) (config : Config) (entries : List RegionEntry) :
    Except JobsFault (List Region) :=
  if entries.isEmpty then .error .noRegions else resolveFrom directory config 1 [] entries

/-- Read a job file whose files are found from a directory. -/
def parse (decode : RecordDecoder (List RegionEntry)) (directory : String) (config : Config)
    (bytes : List UInt8) : Except (TextFault JobsFault) (List Region) := do
  let entries ← decode.read [] bytes
  (resolve directory config entries).mapError .content

/-- Load the job file at a path. -/
def load {m : Type → Type} [Monad m] (decode : RecordDecoder (List RegionEntry))
    (files : FileReader m) (path : String) (config : Config) :
    m (Except (LoadFault JobsFault) (List Region)) :=
  loadFile files path (parse decode (Path.directory path) config)

end Jobs

end X86Decoder
