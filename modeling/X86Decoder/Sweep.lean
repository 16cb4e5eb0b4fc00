import X86Decoder.Decode.Basic

/-!
# Linear sweeps

A sweep decodes data from the first byte to the last. Each finding covers the bytes of one
instruction, or a single byte where there is none, and the next one starts right after it.
-/

namespace X86Decoder

/-- What stands at one place of the data. -/
structure Finding where
  /-- The instruction pointer of the first byte. -/
  ip : UInt64
  /-- The bytes covered. -/
  bytes : List UInt8
  /-- The instruction, or why there is none. -/
  outcome : Except DecodeError Instruction
  /-- What the prefixes say. -/
  prefixes : PrefixState

namespace Finding

/-- What stands at the front of the data. -/
def front (mode : Mode) (ip : UInt64) (data : List UInt8) : Finding :=
  let decoded := decode mode data ip
  match decoded.outcome with
  | .ok inst => ⟨ip, data.take inst.length, decoded.outcome, decoded.prefixes⟩
  | .error _ => ⟨ip, data.take 1, decoded.outcome, decoded.prefixes⟩

end Finding

/-- Sweep through data of which the first `covered` bytes belong to an earlier finding. -/
def sweepFrom (mode : Mode) (ip : UInt64) (covered : Nat) : List UInt8 → List Finding
  | [] => []
  | b :: rest =>
    match covered with
    | n + 1 => sweepFrom mode (ip + 1) n rest
    | 0 =>
      let finding := Finding.front mode ip (b :: rest)
      finding :: sweepFrom mode (ip + 1) (finding.bytes.length - 1) rest

/-- Sweep through data. -/
def sweep (mode : Mode) (ip : UInt64) (data : List UInt8) : List Finding :=
  sweepFrom mode ip 0 data

end X86Decoder
