import X86Decoder.Mode
import X86Decoder.OutputFormat

/-!
# Configuration

The defaults that every command starts from. They are collected as a draft, from a file and from the
command line, and checked as a whole.
-/

namespace X86Decoder

/-- What to do where no instruction starts. -/
inductive Resync where
  /-- Skip one byte. -/
  | skip
  /-- Leave the rest. -/
  | stop
deriving DecidableEq

namespace Resync

/-- The name of a policy. -/
def name : Resync → String
  | skip => "skip"
  | stop => "stop"

/-- The policy with the given name. -/
def ofName? (name : String) : Option Resync :=
  [skip, stop].find? fun policy => policy.name == name

end Resync

/-- A configuration. -/
structure Config where
  mode : Mode := .bits64
  /-- The instruction pointer of the first byte. -/
  ip : UInt64 := 0
  format : OutputFormat := .text
  /-- How many regions may be decoded at a time. -/
  workers : Nat := 1
  /-- How many bytes without an instruction a region may have; zero is no limit. -/
  maxErrors : Nat := 0
  resync : Resync := .skip
deriving DecidableEq

/-- Values of a configuration that have not been checked. -/
structure Config.Draft where
  modeBits : Int
  ip : UInt64
  format : String
  workers : Int
  maxErrors : Int
  resync : String

/-- Why a draft is not a configuration. -/
inductive DraftFault where
  | mode (bits : Int)
  | format (fault : FormatFault)
  | workers (count : Int)
  | maxErrors (limit : Int)
  | resync (name : String)
deriving DecidableEq

/-- What is said of a number of bits that no mode has. -/
def modeMessage (bits : Int) : String :=
  "invalid mode " ++ Text.signedDecimal bits ++ ": must be 16, 32, or 64"

namespace DraftFault

/-- What is said of a fault. -/
def message : DraftFault → String
  | mode bits => modeMessage bits
  | format fault => fault.message
  | workers count =>
    "invalid worker count " ++ Text.signedDecimal count ++ ": must be at least 1"
  | maxErrors limit => "invalid error limit " ++ Text.signedDecimal limit
  | resync name =>
    "invalid resync policy " ++ Text.quoted name ++ ": must be " ++ Text.quoted Resync.skip.name
      ++ " or " ++ Text.quoted Resync.stop.name

end DraftFault

namespace Config

/-- The values of a configuration. -/
def draft (config : Config) : Draft where
  modeBits := config.mode.bits
  ip := config.ip
  format := config.format.name
  workers := config.workers
  maxErrors := config.maxErrors
  resync := config.resync.name

/-- Check values, in the order of the faults. -/
def Draft.check (draft : Draft) : Except DraftFault Config :=
  match Mode.ofBits? draft.modeBits with
  | none => .error (.mode draft.modeBits)
  | some mode =>
    match OutputFormat.parse draft.format with
    | .error fault => .error (.format fault)
    | .ok format =>
      if draft.workers < 1 then .error (.workers draft.workers)
      else if draft.maxErrors < 0 then .error (.maxErrors draft.maxErrors)
      else
        match Resync.ofName? draft.resync with
        | none => .error (.resync draft.resync)
        | some resync =>
          .ok ⟨mode, draft.ip, format, draft.workers.toNat, draft.maxErrors.toNat, resync⟩

end Config

end X86Decoder
