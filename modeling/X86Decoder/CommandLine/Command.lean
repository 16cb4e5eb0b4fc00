import X86Decoder.CommandLine.Flags
import X86Decoder.CommandLine.Formats
import X86Decoder.Comparison
import X86Decoder.Config.Override
import X86Decoder.HexInput
import X86Decoder.Scan
import X86Decoder.Statistics.Report

/-!
# Commands

Each command reads its flags, loads the configuration, overrides it by the flags, and does its work.
What it prints, what it logs and how it fails are its outcome.
-/

namespace X86Decoder

/-- A command. -/
inductive Command where
  /-- Compare the decoder with a reference. -/
  | compare
  /-- List the instructions of machine code in hexadecimal. -/
  | decode
  /-- Count what is found in regions of files. -/
  | scan
deriving DecidableEq

/-- Why a command fails. -/
inductive CommandFault where
  | config (fault : LoadFault DraftFault)
  | override (fault : OverrideFault)
  | jobs (fault : LoadFault JobsFault)
  | file (fault : FileFault)
  | hex (fault : HexFault)
  | listing (fault : ListingFault)
  | scan (fault : ScanFault)
  /-- The file has no bytes. -/
  | noMachineCode
  /-- There is no reference to compare with. -/
  | noReference
  | disagreements (count : Nat)
  | misuse (misuse : Misuse)
deriving DecidableEq

/-- What is said of a fault, if anything. -/
def CommandFault.message? : CommandFault → Option String
  | config fault => fault.message? DraftFault.message
  | override fault => some fault.message
  | jobs fault => fault.message? JobsFault.message
  | file fault => some fault.message
  | hex fault => some fault.message
  | listing fault => fault.message?
  | scan fault => fault.message?
  | noMachineCode => some "no machine code"
  | noReference => some "no reference decoder"
  | disagreements count =>
    some ("found " ++ Text.decimal count ++ " disagreements with x86asm")
  | misuse m => m.message?

/-- What a command did. -/
structure CommandOutcome where
  output : String := ""
  /-- What was logged. -/
  notices : List Notice := []
  failure : Option CommandFault := none

/-- The outcome of a command that failed before it printed anything. -/
def CommandOutcome.failed (fault : CommandFault) : CommandOutcome :=
  { failure := some fault }

namespace Command

/-- Every command, in the order of the names. -/
def all : List Command :=
  [compare, decode, scan]

/-- The name of a command. -/
def name : Command → String
  | compare => "compare"
  | decode => "decode"
  | scan => "scan"

/-- The command with the given name. -/
def ofName? (name : String) : Option Command :=
  all.find? fun command => command.name == name

/-- What a command does. -/
def description : Command → String
  | compare => "Compare instruction lengths with golang.org/x/arch/x86/x86asm"
  | decode => "Decode machine code given in hexadecimal"
  | scan => "Decode regions of binary files concurrently"

/-- What stands after the flags of a command. -/
def operands : Command → String
  | compare => "FILE|HEX"
  | decode => "HEX..."
  | scan => "JOBFILE"

/-! ### Flags -/

/-- The flag that asks for help. -/
def helpFlag : CommandFlag :=
  ⟨"h", .switch, "", "Show this message and exit."⟩

/-- The flag for the configuration file. -/
def configFlag : CommandFlag :=
  ⟨"config", .text "", "file", "Read defaults from the given configuration file."⟩

/-- The flag for the mode. -/
def modeFlag : CommandFlag :=
  ⟨"mode", .text "64", "string", "The CPU mode (16, 32, or 64)."⟩

/-- The flag for the instruction pointer. -/
def ipFlag : CommandFlag :=
  ⟨"ip", .natural 0, "uint", "The instruction pointer of the first byte."⟩

/-- The flag for the output format. -/
def formatFlag : CommandFlag :=
  ⟨"format", .text "text", "string", "The output format (text, json, or yaml)."⟩

/-- The number of disagreements to stop after, unless a flag tells another one. -/
def defaultMaxDiffs : Int := 20

/-- The flags of a command, in the order of the names. -/
def flags : Command → List CommandFlag
  | compare =>
    [configFlag, helpFlag, ipFlag,
      ⟨"max-diffs", .integer defaultMaxDiffs, "int",
        "Stop after this many disagreements (0 means no limit)."⟩,
      modeFlag]
  | decode =>
    [configFlag,
      ⟨"dump", .switch, "",
        "Print the full instruction and prefix state after each instruction."⟩,
      formatFlag, helpFlag, ipFlag, modeFlag]
  | scan =>
    [configFlag, formatFlag, helpFlag,
      ⟨"max-errors", .integer 0, "int",
        "Fail a region after this many decode errors (0 means no limit)."⟩,
      ⟨"resync", .text "skip", "string", "What to do after a decode error (skip or stop)."⟩,
      ⟨"v", .switch, "", "Log each decode error."⟩,
      ⟨"workers", .integer 0, "int",
        "The number of regions to decode at once (default: the configured value or GOMAXPROCS)."⟩]

/-- Whether a command takes that many arguments after its flags. -/
def takes : Command → Nat → Bool
  | scan, n => n == 1
  | _, n => n != 0

/-- Read the arguments of a command. -/
def arguments (command : Command) (texts : List String) : Except UsageFault Arguments := do
  let arguments ← Arguments.parse command.flags texts
  if arguments.isOn "h" then .error .help
  else if command.takes arguments.rest.length then return arguments
  else .error .arguments

/-- How a command is used. -/
def usage (program : String) (command : Command) : String :=
  "Usage:\n  " ++ program ++ " " ++ command.name ++ " [OPTIONS] " ++ command.operands ++ "\n\n"
    ++ String.join (command.flags.map CommandFlag.usage)

/-- How the program is used. -/
def overview (program : String) : String :=
  let width := (all.map fun command => command.name.length).foldl max 0
  "Usage\n  " ++ program ++ " COMMAND [OPTIONS]\n\nCommands:\n"
    ++ String.join (all.map fun command =>
      "  " ++ Text.padRight width command.name ++ "  " ++ command.description ++ "\n")

/-! ### Work -/

/-- Load the configuration and override it by the flags. -/
def configure {m : Type → Type} [Monad m] (files : FileReader m) (arguments : Arguments) :
    m (Except CommandFault Config) := do
  match ← Config.load Config.Draft.ofToml files (arguments.textOf "config") with
  | .error fault => return .error (.config fault)
  | .ok config => return (config.override arguments.flags).mapError .override

/-- List the instructions of machine code in hexadecimal. -/
def runDecode (arguments : Arguments) (config : Config) : CommandOutcome :=
  match HexInput.parse arguments.rest with
  | .error fault => .failed (.hex fault)
  | .ok data =>
    match Listing.render .standard .typed (.known config.mode) config.ip data
      config.format.name (arguments.isOn "dump") with
    | .error fault => .failed (.listing fault)
    | .ok output => { output }

/-- Count what is found in the regions of a job file. -/
def runScan {m : Type → Type} [Monad m] (files : FileReader m) (arguments : Arguments)
    (config : Config) : m CommandOutcome := do
  match ← Jobs.load Jobs.ofToml files (arguments.rest.headD "") config with
  | .error fault => return .failed (.jobs fault)
  | .ok regions =>
    let result ← Scan.run files config false regions
    let notices := if arguments.isOn "v" then result.notices else []
    match result.outcome with
    | .error fault => return { notices, failure := some (.scan fault) }
    | .ok stats => return { output := Statistics.render .standard config.format stats, notices }

/-- The machine code to compare: the content of the only argument if that is a file, and otherwise
the arguments in hexadecimal. -/
def machineCode {m : Type → Type} [Monad m] (files : FileReader m) (arguments : List String) :
    m (Except CommandFault (List UInt8)) := do
  let hex := (HexInput.parse arguments).mapError CommandFault.hex
  match arguments with
  | [path] =>
    match ← readFile files path with
    | .ok data => return .ok data
    | .error ⟨_, _, .notFound⟩ => return hex
    | .error fault => return .error (.file fault)
  | _ => return hex

/-- Compare the decoder with a reference on machine code. -/
def compareData (reference : Option Reference) (limit : Int) (config : Config)
    (data : List UInt8) : CommandOutcome :=
  if data.isEmpty then .failed .noMachineCode
  else
    match reference with
    | none => .failed .noReference
    | some reference =>
      match Comparison.run (.known config.mode) config.ip data limit reference with
      | .error m => .failed (.misuse m)
      | .ok comparison =>
        let count := comparison.disagreements.length
        { output := comparison.report config.mode
          failure := if count = 0 then none else some (.disagreements count) }

/-- Compare the decoder with a reference on a file or on machine code in hexadecimal. -/
def runCompare {m : Type → Type} [Monad m] (files : FileReader m) (reference : Option Reference)
    (arguments : Arguments) (config : Config) : m CommandOutcome := do
  match ← machineCode files arguments.rest with
  | .error fault => return .failed fault
  | .ok data =>
    let limit :=
      match (arguments.flags.lookup "max-diffs").map Text.parseInt with
      | some (.ok n) => n
      | _ => defaultMaxDiffs
    return compareData reference limit config data

/-- Run a command. -/
def run {m : Type → Type} [Monad m] (files : FileReader m) (reference : Option Reference)
    (command : Command) (arguments : Arguments) : m CommandOutcome := do
  match ← configure files arguments with
  | .error fault => return .failed fault
  | .ok config =>
    match command with
    | .compare => runCompare files reference arguments config
    | .decode => return runDecode arguments config
    | .scan => runScan files arguments config

end Command

end X86Decoder
