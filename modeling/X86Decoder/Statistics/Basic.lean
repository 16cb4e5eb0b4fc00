import X86Decoder.Code
import X86Decoder.Config.Basic
import X86Decoder.Sweep

/-!
# Statistics of a sweep

The findings of a sweep are counted: instructions by their codes, and bytes where no instruction
starts. Under the policy `skip` every finding counts; under `stop` those after the first byte
without an instruction do not, and the bytes after it are undecoded.
-/

namespace X86Decoder

/-- How often each code occurs, in the order of first occurrence. -/
abbrev Histogram := List (Code × Int)

/-- A histogram with one more occurrence of a code. -/
def Histogram.add (code : Code) : Histogram → Histogram
  | [] => [(code, 1)]
  | (c, count) :: rest =>
    if c = code then (c, count + 1) :: rest else (c, count) :: Histogram.add code rest

/-- What a sweep through a region found. -/
structure Statistics where
  /-- The name of the region. -/
  region : String
  mode : StatedMode
  /-- The number of bytes of the region. -/
  bytes : Int
  /-- The number of instructions. -/
  instructions : Int := 0
  /-- The number of bytes where no instruction starts. -/
  invalid : Int := 0
  /-- The number of bytes left when the sweep stopped. -/
  undecoded : Int := 0
  /-- The instructions by code, if they were counted. -/
  codes : Option Histogram := some []

/-- A byte where no instruction starts. -/
structure Notice where
  /-- The name of the region. -/
  region : String
  /-- The instruction pointer of the byte. -/
  ip : UInt64
  /-- Why there is no instruction. -/
  error : DecodeError
  /-- What follows. -/
  resync : Resync

/-- A notice in words. -/
def Notice.text (notice : Notice) : String :=
  notice.region ++ ": " ++ Text.hex notice.ip.toNat ++ ": " ++ notice.error.message
    ++ match notice.resync with
      | .stop => "; stopping"
      | .skip => "; resuming at " ++ Text.hex (notice.ip + 1).toNat

/-- More bytes of a region start no instruction than its limit allows. -/
structure TooManyErrors where
  /-- The name of the region. -/
  region : String
  limit : Nat
deriving DecidableEq

/-- What is said when the limit is passed. -/
def TooManyErrors.message (fault : TooManyErrors) : String :=
  "region " ++ Text.quoted fault.region ++ ": more than " ++ Text.decimal fault.limit
    ++ " decode errors"

namespace Statistics

/-- The statistics with one more instruction. -/
def addInstruction (s : Statistics) (code : Code) : Statistics :=
  { s with instructions := s.instructions + 1, codes := s.codes.map (Histogram.add code) }

/-- Whether a number of bytes without an instruction passes a limit; zero is no limit. -/
def passesLimit (limit : Nat) (invalid : Int) : Bool :=
  decide (0 < limit) && decide ((limit : Int) < invalid)

/-- Count findings, the first of which is at the given position, with a notice of each byte where
no instruction starts. -/
def count (resync : Resync) (limit : Nat) (s : Statistics) (position : Nat) :
    List Finding → List Notice × Except TooManyErrors Statistics
  | [] => ([], .ok s)
  | finding :: rest =>
    let next := position + finding.bytes.length
    match finding.outcome with
    | .ok inst => count resync limit (s.addInstruction inst.code) next rest
    | .error e =>
      let s := { s with invalid := s.invalid + 1 }
      if passesLimit limit s.invalid then ([], .error ⟨s.region, limit⟩)
      else
        let notice : Notice := ⟨s.region, finding.ip, e, resync⟩
        match resync with
        | .stop => ([notice], .ok { s with undecoded := s.bytes - position - 1 })
        | .skip =>
          let (notices, result) := count resync limit s next rest
          (notice :: notices, result)

/-- The statistics of a region with the given name and bytes. -/
def ofData (config : Config) (region : String) (mode : Mode) (ip : UInt64) (data : List UInt8) :
    List Notice × Except TooManyErrors Statistics :=
  count config.resync config.maxErrors ⟨region, .known mode, data.length, 0, 0, 0, some []⟩ 0
    (sweep mode ip data)

end Statistics

end X86Decoder
