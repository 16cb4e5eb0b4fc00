import X86Decoder.Decode.Basic
import X86Decoder.Sweep

/-!
# Comparison with a reference

A second decoder, the reference, is asked for the length of each instruction, and the two answers
are compared. The walk follows the decoder where it succeeds, the reference where it alone succeeds,
and goes on by one byte where both fail.
-/

namespace X86Decoder

/-- What a reference says of the front of the data. -/
structure ReferenceAnswer where
  /-- The length of the first instruction. -/
  length : Int
  /-- Why there is no instruction, if there is none. -/
  error : Option String := none

/-- A decoder that tells lengths only. -/
abbrev Reference := Mode → List UInt8 → ReferenceAnswer

/-- A place where decoder and reference disagree. -/
structure Disagreement where
  /-- The instruction pointer of the first byte. -/
  ip : UInt64
  /-- The bytes of the longer of the two instructions. -/
  bytes : List UInt8
  /-- What the decoder says. -/
  outcome : Except DecodeError Instruction
  /-- What the reference says. -/
  reference : ReferenceAnswer

/-- The outcome of a comparison. -/
structure Comparison where
  /-- How many places were compared. -/
  instructions : Nat := 0
  /-- How many of them agree. -/
  agreed : Nat := 0
  /-- How many of them have an extended encoding that the reference rejects. -/
  unsupported : Nat := 0
  /-- The disagreements, in order. -/
  disagreements : List Disagreement := []
  /-- Whether the comparison stopped at the limit of disagreements. -/
  truncated : Bool := false

/-- How decoder and reference compare at one place. -/
inductive Verdict where
  | agree
  | unsupported
  | disagree
deriving DecidableEq

namespace Comparison

/-- Compare the answers. They agree when both fail or both succeed with the same length. -/
def verdict (outcome : Except DecodeError Instruction) (answer : ReferenceAnswer) : Verdict :=
  match outcome, answer.error with
  | .error _, some _ => .agree
  | .ok inst, none => if (inst.length : Int) = answer.length then .agree else .disagree
  | .ok inst, some _ => if inst.encoding = .legacy then .disagree else .unsupported
  | .error _, none => .disagree

/-- A sum of two lengths, as a signed 64-bit number. -/
def wrappingSum (a b : Int) : Int :=
  Int.bmod (a + b) 0x10000000000000000

/-- The length of the decoder's instruction, zero if there is none. -/
def decodedLength (outcome : Except DecodeError Instruction) : Nat :=
  match outcome with
  | .ok inst => inst.length
  | .error _ => 0

/-- Where the walk goes on after the given position. -/
def nextPosition (position : Nat) (outcome : Except DecodeError Instruction)
    (answer : ReferenceAnswer) : Int :=
  match outcome with
  | .ok inst => position + inst.length
  | .error _ =>
    if answer.error.isNone ∧ 0 < answer.length then wrappingSum position answer.length
    else position + 1

/-- The bytes that a disagreement covers: those of the longer instruction, as far as there are
data. `size` is the number of all bytes and `data` are those from the position on. -/
def coveredBytes (size position : Nat) (data : List UInt8)
    (outcome : Except DecodeError Instruction) (answer : ReferenceAnswer) :
    Except Misuse (List UInt8) :=
  let length := max (max (decodedLength outcome : Int) answer.length) 1
  let stop := min (wrappingSum position length) size
  if stop < position then .error .outOfBounds else .ok (data.take (stop - position).toNat)

/-- The comparison with one more place. -/
def record (c : Comparison) (verdict : Verdict) (disagreement : Disagreement) : Comparison :=
  let c := { c with instructions := c.instructions + 1 }
  match verdict with
  | .agree => { c with agreed := c.agreed + 1 }
  | .unsupported => { c with unsupported := c.unsupported + 1 }
  | .disagree => { c with disagreements := c.disagreements ++ [disagreement] }

/-- Whether the limit of disagreements has been reached; zero is no limit. -/
def atLimit (c : Comparison) (limit : Int) : Bool :=
  decide (0 < limit) && decide (limit ≤ c.disagreements.length)

/-- Walk through data of which the first `covered` bytes have been compared. `size` is the number of
all bytes and `position` the number of those before the data. -/
def walk (mode : Mode) (limit : Int) (reference : Reference) (size : Nat) (ip : UInt64)
    (position covered : Nat) (c : Comparison) : List UInt8 → Except Misuse Comparison
  | [] => .ok c
  | b :: rest =>
    match covered with
    | n + 1 => walk mode limit reference size (ip + 1) (position + 1) n c rest
    | 0 =>
      if c.atLimit limit then .ok { c with truncated := true }
      else
        let data := b :: rest
        let outcome := (decode mode data ip).outcome
        let answer := reference mode data
        let judged : Except Misuse Comparison :=
          match verdict outcome answer with
          | .disagree => do
            let bytes ← coveredBytes size position data outcome answer
            return c.record .disagree ⟨ip, bytes, outcome, answer⟩
          | v => .ok (c.record v ⟨ip, [], outcome, answer⟩)
        let next := nextPosition position outcome answer
        match judged with
        | .error misuse => .error misuse
        | .ok c =>
          if next < 0 ∨ (size : Int) < next then .error (.positionOutOfRange next size)
          else
            walk mode limit reference size (ip + 1) (position + 1)
              ((next - position).toNat - 1) c rest

/-- Compare the decoder with a reference on data, up to a limit of disagreements. -/
def run (mode : StatedMode) (ip : UInt64) (data : List UInt8) (limit : Int)
    (reference : Reference) : Except Misuse Comparison :=
  match mode with
  | .other bits => .error (.invalidMode bits.toNat)
  | .known mode =>
    if data.isEmpty then .error .noData
    else walk mode limit reference data.length ip 0 0 {} data

/-- What the decoder says, in words. -/
def decoderText (outcome : Except DecodeError Instruction) : String :=
  match outcome with
  | .error e => "error: " ++ e.message
  | .ok inst => Text.decimal inst.length ++ " bytes (" ++ inst.code.name ++ ")"

/-- What the reference says, in words. -/
def referenceText (answer : ReferenceAnswer) : String :=
  match answer.error with
  | some e => "error: " ++ e
  | none => Text.signedDecimal answer.length ++ " bytes"

/-- A line for a disagreement. -/
def line (mode : Mode) (d : Disagreement) : String :=
  Text.hexPadded (mode.bits / 4) d.ip.toNat ++ "  " ++ Text.padRight 30 (Text.hexBytes d.bytes)
    ++ "  decoder: " ++ decoderText d.outcome ++ "; x86asm: " ++ referenceText d.reference ++ "\n"

/-- The disagreements, one a line, and a summary. -/
def report (mode : Mode) (c : Comparison) : String :=
  String.join (c.disagreements.map (line mode))
    ++ Text.decimal c.instructions ++ " instructions: " ++ Text.decimal c.agreed ++ " agree, "
    ++ Text.decimal c.disagreements.length ++ " disagree, " ++ Text.decimal c.unsupported
    ++ " unsupported by x86asm\n"
    ++ (if c.truncated then "stopped early after too many disagreements\n" else "")

end Comparison

end X86Decoder
