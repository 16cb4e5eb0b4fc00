import X86Decoder.Code
import X86Decoder.Misuse
import X86Decoder.Prefix.State

/-!
# Decoded instructions

An instruction with its operands, the memory it refers to, the prefixes in force, and the places of
its constants. The instruction with all fields at their defaults has the code of no instruction.
-/

namespace X86Decoder

/-- A decoded operand. The immediate holds the value of an immediate operand, the target of a near
branch, or the offset of a far branch. -/
structure Operand where
  /-- How the value is held. -/
  kind : OpKind := .register
  /-- The register of a register operand. -/
  register : Register := .none
  /-- The value of any other operand. -/
  immediate : UInt64 := 0
deriving DecidableEq

/-- The memory that an instruction refers to. Relative to the instruction pointer, the displacement
is the absolute target. -/
structure MemoryReference where
  /-- The segment register. -/
  segment : Register := .none
  /-- The base register, or no register. -/
  base : Register := .none
  /-- The index register, or no register. -/
  index : Register := .none
  /-- What the index is multiplied by. -/
  scale : Int := 0
  /-- The displacement, sign extended and then cut to the address size. -/
  displacement : UInt64 := 0
  /-- The number of displacement bytes. -/
  displacementSize : Int := 0
  /-- The data accessed. -/
  size : MemorySize := .unknown
deriving DecidableEq

/-- A run of bytes within an instruction; its size is zero where there is none. -/
structure Span where
  /-- The offset of the first byte. -/
  offset : Nat := 0
  /-- The number of bytes. -/
  size : Nat := 0
deriving DecidableEq

/-- Where the constants of an instruction stand. -/
structure ConstantOffsets where
  /-- The displacement. -/
  displacement : Span := {}
  /-- The first immediate. -/
  first : Span := {}
  /-- The second immediate. -/
  second : Span := {}
deriving DecidableEq

/-- A decoded instruction. -/
structure Instruction where
  /-- The form it was decoded with. -/
  code : Code := .invalid
  /-- The mode it was decoded in. -/
  mode : Option Mode := none
  /-- Its encoding. -/
  encoding : EncodingKind := .legacy
  /-- The instruction pointer of its first byte. -/
  ip : UInt64 := 0
  /-- The instruction pointer of the next instruction. -/
  nextIp : UInt64 := 0
  /-- The number of bytes. -/
  length : Nat := 0
  /-- The operands, at most four. -/
  operands : List Operand := []
  /-- The selector of a far branch. -/
  farSelector : UInt16 := 0
  /-- The memory it refers to. -/
  memory : MemoryReference := {}
  /-- Whether a lock prefix is present. -/
  lock : Bool := false
  /-- The repeat prefix in force. -/
  repetition : Option Repetition := none
  /-- The segment override, or no register. -/
  segmentOverride : Register := .none
  /-- The opmask register, or no register. -/
  opmask : Register := .none
  /-- Whether masked elements are zeroed. -/
  zeroing : Bool := false
  /-- The rounding mode it selects. -/
  rounding : Rounding := .none
  /-- Whether exceptions are suppressed. -/
  sae : Bool := false
  /-- Whether its memory operand is broadcast. -/
  broadcast : Bool := false
  /-- Where its constants stand. -/
  constants : ConstantOffsets := {}
deriving DecidableEq

namespace Instruction

/-- The operand with the given index. -/
def operand (inst : Instruction) (i : Int) : Except Misuse Operand :=
  match if i < 0 then none else inst.operands[i.toNat]? with
  | some operand => .ok operand
  | none => .error (.operandOutOfRange i inst.code.name inst.operands.length)

/-- How many places for operands there are. -/
def maxOperands : Nat := 4

/-- The places for operands; those that are not used hold the default operand. -/
def operandSlots (inst : Instruction) : List Operand :=
  inst.operands ++ List.replicate (maxOperands - inst.operands.length) ({} : Operand)

/-- Whether any operand refers to memory. -/
def hasMemory (inst : Instruction) : Bool :=
  inst.operands.any fun operand => operand.kind.isMemory

/-- The target of a near branch, if the instruction has one. -/
def nearBranchTarget? (inst : Instruction) : Option UInt64 :=
  inst.operands.findSome? fun operand =>
    match operand.kind with
    | .nearBranch16 | .nearBranch32 | .nearBranch64 => some operand.immediate
    | _ => none

/-- The machine code of the instruction, given the data it was decoded from and the instruction
pointer of its first byte. -/
def bytes (inst : Instruction) (data : List UInt8) (ip : UInt64) : Except Misuse (List UInt8) :=
  let start := inst.ip - ip
  let stop := start + inst.length.toUInt64
  if start ≤ stop ∧ stop.toNat ≤ data.length then
    .ok ((data.drop start.toNat).take inst.length)
  else .error .outOfBounds

end Instruction

end X86Decoder
