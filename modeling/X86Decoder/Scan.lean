import X86Decoder.Jobs
import X86Decoder.Statistics.Basic

/-!
# Scans

A scan counts what is found in each of a list of regions, one after the other. The first failure
ends it.
-/

namespace X86Decoder

/-- Why a scan fails. -/
inductive ScanFault where
  | region (fault : RegionFault)
  | tooManyErrors (fault : TooManyErrors)
  /-- The scan was called off. -/
  | cancelled
deriving DecidableEq

/-- What is said of a fault, if anything. -/
def ScanFault.message? : ScanFault → Option String
  | region fault => fault.message?
  | tooManyErrors fault => some fault.message
  | cancelled => some "context canceled"

/-- What a scan yields. -/
structure ScanResult where
  /-- The bytes where no instruction starts, in order. -/
  notices : List Notice
  outcome : Except ScanFault (List Statistics)

namespace Scan

/-- Scan a region. A scan that has been called off reads the region and decodes none of it. -/
def region (config : Config) (cancelled : Bool) (region : Region)
    (read : Except RegionFault (List UInt8)) : List Notice × Except ScanFault Statistics :=
  match read with
  | .error fault => ([], .error (.region fault))
  | .ok data =>
    if cancelled then ([], .error .cancelled)
    else
      let (notices, result) := Statistics.ofData config region.name region.mode region.ip data
      (notices, result.mapError .tooManyErrors)

/-- Scan regions in order. -/
def run {m : Type → Type} [Monad m] (files : FileReader m) (config : Config) (cancelled : Bool) :
    List Region → m ScanResult
  | [] => return ⟨[], .ok []⟩
  | first :: rest => do
    match Scan.region config cancelled first (← first.read files) with
    | (notices, .error fault) => return ⟨notices, .error fault⟩
    | (notices, .ok stats) =>
      let more ← run files config cancelled rest
      return ⟨notices ++ more.notices, more.outcome.map (stats :: ·)⟩

end Scan

end X86Decoder
