import X86Decoder.Instruction.Basic
import X86Decoder.Word

/-!
# Instructions in words

An instruction is written as the name of its code followed by its operands.
-/

namespace X86Decoder

/-- How a rounding mode is written after the operands. -/
def Rounding.suffix? : Rounding → Option String
  | .toNearest => some "rn-sae"
  | .down => some "rd-sae"
  | .up => some "ru-sae"
  | .towardZero => some "rz-sae"
  | _ => Option.none

namespace MemoryReference

/-- The displacement with its sign, read in the width of the address, which is that of the base or
else of a general purpose index. No address is wider than 64 bits. -/
def displacementText (memory : MemoryReference) : Except Misuse String :=
  let bits :=
    if memory.base ≠ .none then memory.base.bits
    else if memory.index.family = .general then memory.index.bits
    else 64
  if 64 < bits then .error .outOfBounds
  else
    let value := Word.signed bits memory.displacement
    .ok ((if value < 0 then "-" else "+") ++ Text.hex value.natAbs)

/-- The registers of the address, joined by a plus sign. -/
def registersText (memory : MemoryReference) : String :=
  let base := if memory.base = .none then [] else [memory.base.name]
  let index :=
    if memory.index = .none then []
    else [memory.index.name ++ "*" ++ Text.signedDecimal memory.scale]
  "+".intercalate (base ++ index)

/-- The memory in words: what is accessed, the segment, and the address. Relative to the instruction
pointer only the target is written. -/
def text (memory : MemoryReference) : Except Misuse String := do
  let size := if memory.size = .unknown then "" else memory.size.name ++ " "
  let address ←
    if memory.base = .rip ∨ memory.base = .eip ∨ memory.base = .none ∧ memory.index = .none then
      pure (Text.hex memory.displacement.toNat)
    else if memory.displacementSize = 0 then pure memory.registersText
    else do
      let displacement ← memory.displacementText
      pure (memory.registersText ++ displacement)
  return size ++ memory.segment.name ++ ":[" ++ address ++ "]"

end MemoryReference

namespace Instruction

/-- An operand in words. -/
def operandText (inst : Instruction) (operand : Operand) : Except Misuse String :=
  let string (segment register : Register) := segment.name ++ ":[" ++ register.name ++ "]"
  match operand.kind with
  | .register => .ok operand.register.name
  | .farBranch16 | .farBranch32 =>
    .ok (Text.hex inst.farSelector.toNat ++ ":" ++ Text.hex operand.immediate.toNat)
  | .memorySegSI => .ok (string inst.memory.segment .si)
  | .memorySegESI => .ok (string inst.memory.segment .esi)
  | .memorySegRSI => .ok (string inst.memory.segment .rsi)
  | .memorySegDI => .ok (string inst.memory.segment .di)
  | .memorySegEDI => .ok (string inst.memory.segment .edi)
  | .memorySegRDI => .ok (string inst.memory.segment .rdi)
  | .memoryESDI => .ok (string .es .di)
  | .memoryESEDI => .ok (string .es .edi)
  | .memoryESRDI => .ok (string .es .rdi)
  | .memory | .memory64 => inst.memory.text
  | _ => .ok (Text.hex operand.immediate.toNat)

/-- The masking that is written after the first operand. -/
def maskText (inst : Instruction) : String :=
  (if inst.opmask = .none then "" else "\x7b" ++ inst.opmask.name ++ "\x7d")
    ++ (if inst.zeroing then "\x7bz\x7d" else "")

/-- The operands in words, with the masking after the first. -/
def operandTexts (inst : Instruction) : Except Misuse (List String) := do
  let texts ← inst.operands.mapM inst.operandText
  return match texts with
    | [] => []
    | first :: rest => (first ++ inst.maskText) :: rest

/-- The rounding or the suppression of exceptions that is written after the operands. -/
def roundingText (inst : Instruction) : Except Misuse String :=
  if inst.rounding = .none then .ok (if inst.sae then ", \x7bsae\x7d" else "")
  else
    match inst.rounding.suffix? with
    | some suffix => .ok (", \x7b" ++ suffix ++ "\x7d")
    | none => .error .outOfBounds

/-- The instruction in words. -/
def text (inst : Instruction) : Except Misuse String := do
  let operands ← inst.operandTexts
  let rounding ← inst.roundingText
  let gap := if operands.isEmpty then "" else " "
  return inst.code.name ++ gap ++ ", ".intercalate operands ++ rounding

end Instruction

end X86Decoder
