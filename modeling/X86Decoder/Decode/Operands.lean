import X86Decoder.Decode.Reader
import X86Decoder.Decode.Memory

/-!
# Reading operands

The operands of a form are resolved in order. Registers come from the fields that the ModR/M byte
and the prefixes hold, and immediates and offsets are read as they come.
-/

namespace X86Decoder

/-- What is known of an instruction while its operands are read. -/
structure Draft where
  /-- The operands resolved so far. -/
  operands : List Operand := []
  /-- The selector of a far branch. -/
  farSelector : UInt16 := 0
  /-- The memory it refers to. -/
  memory : MemoryReference := {}
  /-- Where its constants stand. -/
  constants : ConstantOffsets := {}

namespace Draft

/-- Add an operand. -/
def push (draft : Draft) (operand : Operand) : Draft :=
  { draft with operands := draft.operands ++ [operand] }

/-- Record where an immediate stands: the first, or the second after the first. -/
def addImmediate (draft : Draft) (span : Span) : Draft :=
  { draft with
    constants :=
      if draft.constants.first.size = 0 then { draft.constants with first := span }
      else { draft.constants with second := span } }

/-- Record the segment of the memory. -/
def setSegment (draft : Draft) (segment : Register) : Draft :=
  { draft with memory := { draft.memory with segment := segment } }

end Draft

/-- The value of an immediate, sign extended to the operand size where its kind says so. -/
def Immediate.extend (immediate : Immediate) (v : UInt64) : UInt64 :=
  match immediate with
  | .byteTo width => Word.truncate width.bits (Word.signExtend 8 v)
  | .dwordToQword => Word.signExtend 32 v
  | _ => v

namespace Reader

/-- The general purpose register with the given number of bits and number. -/
def generalRegister (p : PrefixState) (bits n : Nat) : Except Misuse Register :=
  if bits = 8 then .ok (.generalByte n p.hasRex) else Register.ofBits bits n

/-- The register with the given number in the family of an operand, where it has to exist. The x87
and MMX registers use the low three bits of the number only. -/
def register (p : PrefixState) (spec : OperandSpec) (n : Nat) : Reader Register :=
  if spec.family = .general then request (generalRegister p spec.bits n)
  else do
    let n := if spec.family = .mmx ∨ spec.family = .x87 then n % 8 else n
    let r ← request (spec.family.member n)
    if r = .none then refuseModRM (.noRegister spec.family n) else return r

/-- The register in the reg field. -/
def regRegister (p : PrefixState) (spec : OperandSpec) (m : ModRM) : Reader Register :=
  match spec.family with
  | .general | .control | .debug => register p spec (extended p.r m.reg)
  | .opmask =>
    if p.r || p.rHigh then refuseModRM (.opmaskInReg (m.reg.toNat + 8))
    else register p spec m.reg.toNat
  | .xmm | .ymm | .zmm => register p spec (extended p.r m.reg + if p.rHigh then 16 else 0)
  | _ => register p spec m.reg.toNat

/-- The register in the rm field. -/
def rmRegister (p : PrefixState) (spec : OperandSpec) (m : ModRM) : Reader Register :=
  match spec.family with
  | .general => register p spec (extended p.b m.rm)
  | .xmm | .ymm | .zmm => register p spec (extended p.b m.rm + if p.xHigh then 16 else 0)
  | _ => register p spec m.rm.toNat

/-- The register in the vvvv field. -/
def vvvvRegister (p : PrefixState) (spec : OperandSpec) : Reader Register :=
  if spec.family = .opmask ∧ 7 < p.vvvv.toNat then refusePrefixes (.opmaskInVvvv p.vvvv.toNat)
  else register p spec p.vvvv.toNat

/-- The register in bits 7 to 4 of an immediate byte, or 6 to 4 outside 64-bit mode. -/
def is4Register (p : PrefixState) (mode : Mode) (spec : OperandSpec) (v : UInt64) :
    Reader Register :=
  register p spec (v.toNat / 16 % if mode = .bits64 then 16 else 8)

/-- Read an immediate of the given number of bytes and record where it stands. -/
def immediate (draft : Draft) (size : Nat) : Reader (UInt64 × Draft) := do
  let start ← position
  let v ← number size
  return (v, draft.addImmediate ⟨start, size⟩)

/-- Read an absolute memory offset, which has the size of an address. -/
def memoryOffset (p : PrefixState) (mode : Mode) (draft : Draft) : Reader Draft := do
  let size := (p.addressSize mode).bytes
  let start ← position
  let v ← number size
  let memory :=
    { draft.memory with
      displacement := v, displacementSize := size, scale := 1,
      segment := p.memorySegment false }
  let kind : OpKind := if p.addressSize mode = .w64 then .memory64 else .memory
  return { draft with
    memory := memory
    constants := { draft.constants with displacement := ⟨start, size⟩ } }.push { kind := kind }

/-- Whether a register operand before a vector of indices is the same vector register. -/
def repeatsIndex (draft : Draft) : Bool :=
  draft.operands.any fun operand =>
    operand.kind == .register && operand.register.family.isVector
      && operand.register.index == draft.memory.index.index

/-- Resolve the next operand of a form. `isMemory` tells whether the ModR/M byte names memory, which
has then been read. An operand that has to be memory has no family of registers. -/
def operand (p : PrefixState) (mode : Mode) (m : ModRM) (isMemory : Bool) (draft : Draft)
    (spec : OperandSpec) : Reader Draft := do
  match spec with
  | .reg _ => return draft.push { register := ← regRegister p spec m }
  | .rm _ | .rmRegister _ | .rmMemory =>
    if isMemory then return draft.push { kind := .memory }
    else return draft.push { register := ← rmRegister p spec m }
  | .vvvv _ => return draft.push { register := ← vvvvRegister p spec }
  | .is4 _ =>
    let (v, draft) ← immediate draft 1
    return draft.push { register := ← is4Register p mode spec v }
  | .implicit r => return draft.push { register := r }
  | .one => return draft.push { kind := .immediate8, immediate := 1 }
  | .immediate value =>
    let (v, draft) ← immediate draft value.width.bytes
    return draft.push { kind := value.kind, immediate := value.extend v }
  | .relative offset target =>
    let (v, draft) ← immediate draft offset.bytes
    return draft.push { kind := .nearBranch target, immediate := Word.signExtend offset.bits v }
  | .far wide =>
    let (v, draft) ← immediate draft (OperandSpec.farOffset wide).bytes
    let (selector, draft) ← immediate draft 2
    return { draft with farSelector := selector.toUInt16 }.push
      { kind := if wide then .farBranch32 else .farBranch16, immediate := v }
  | .moffs _ => memoryOffset p mode draft
  | .stringSource _ =>
    return (draft.setSegment (p.memorySegment false)).push
      { kind := .stringSource (p.addressSize mode) }
  | .stringDestination _ =>
    let draft := if draft.memory.segment = .none then draft.setSegment .es else draft
    return draft.push { kind := .stringDestination (p.addressSize mode) }
  | .maskDestination =>
    return (draft.setSegment (p.memorySegment false)).push
      { kind := .maskDestination (p.addressSize mode) }
  | .vsib _ _ =>
    if repeatsIndex draft then refuseModRM (.vsibIndexRepeated draft.memory.index)
    else return draft.push { kind := .memory }

/-- Resolve operands in order, each in a place of its own. -/
def operands (p : PrefixState) (mode : Mode) (m : ModRM) (isMemory : Bool) :
    List FormOperand → Draft → Reader Draft
  | [], draft => return draft
  | o :: rest, draft =>
    if Instruction.maxOperands ≤ draft.operands.length then misuse .outOfBounds
    else do
      let draft ← operand p mode m isMemory draft o.spec
      operands p mode m isMemory rest draft

end Reader

end X86Decoder
