import X86Decoder.Decode.Operands
import X86Decoder.Decode.Prefixes

/-!
# Decoding one instruction

The bytes of an instruction determine everything about it but the places that are relative to the
instruction pointer. So decoding first reads a body, whatever the instruction pointer, and then
puts the body at its place.
-/

namespace X86Decoder

/-- An instruction that has been read but has no place yet. Branch targets and addresses relative to
the instruction pointer are offsets. -/
structure Body where
  /-- The form of the instruction. -/
  form : Form
  /-- What its prefixes say. -/
  prefixes : PrefixState
  /-- Whether its ModR/M byte names memory. -/
  isMemory : Bool
  /-- The operands, memory and constants. -/
  draft : Draft
  /-- Whether the memory is relative to the instruction pointer. -/
  relative : Bool
  /-- The number of bytes. -/
  length : Nat

namespace Body

/-- The form's limits on the vvvv field. V' extends a vector of indices instead where there is
one. -/
def checkVvvv (f : Form) (p : PrefixState) : Option PrefixFault :=
  if p.encoding = .legacy ∨ f.usesVvvv then none
  else
    let used := if f.vsib?.isSome then p.vvvv &&& 0b1111 else p.vvvv
    if used = 0 then none else some (.unusedVvvv f.code)

/-- The form's limits on the b bit: it broadcasts memory, or rounds or suppresses exceptions. -/
def checkBroadcast (f : Form) (p : PrefixState) (isMemory : Bool) : Option PrefixFault :=
  if !p.broadcast then none
  else if isMemory then if f.broadcast = .unknown then some (.noBroadcast f.code) else none
  else if f.has .rounding || f.has .sae then none
  else some (.noRounding f.code)

/-- The form's limits on the opmask. -/
def checkOpmask (f : Form) (p : PrefixState) : Option PrefixFault :=
  if p.opmask ≠ 0 ∧ !f.has .opmask then some (.noOpmask f.code)
  else if p.opmask = 0 ∧ f.has .noK0 then some (.needsOpmask f.code)
  else none

/-- Whether the first operand is encoded in the rm field. -/
def firstIsRm (f : Form) : Bool :=
  match f.operands with
  | [] => false
  | o :: _ => o.spec.encoding == .rm

/-- The form's limits on zeroing. -/
def checkZeroing (f : Form) (p : PrefixState) (isMemory : Bool) : Option PrefixFault :=
  if !p.zeroing then none
  else if !f.has .zeroing then some (.noZeroing f.code)
  else if isMemory && firstIsRm f then some .zeroingMemory
  else none

/-- The limits that a form sets on the fields of an extended prefix. -/
def checkForm (f : Form) (p : PrefixState) (isMemory : Bool) : Option PrefixFault :=
  checkVvvv f p
    <|> if p.encoding ≠ .evex then none
      else checkBroadcast f p isMemory <|> checkOpmask f p <|> checkZeroing f p isMemory

end Body

/-- Whether a ModR/M byte names memory for a form. -/
def Form.namesMemory (f : Form) (m : ModRM) : Bool :=
  f.modrm.present && !m.isRegister && !f.has .modIgnored

namespace Reader

/-- Read the ModR/M byte of an opcode that has one. -/
def modrm (p : PrefixState) (op : UInt8) : Reader ModRM :=
  if !Table.covers p.encoding p.map then misuse .outOfBounds
  else if Table.hasModRM p.encoding p.map op then ModRM.mk <$> byte
  else return ⟨0⟩

/-- Read the ModR/M byte of an opcode, if it has one, and put it beside the prefixes and the
opcode. -/
def withModRM (op : UInt8) : Reader (PrefixState × UInt8 × ModRM) := do
  let p ← prefixes
  let m ← modrm p op
  return (p, op, m)

/-- Read what selects the form of an instruction: the prefixes, the opcode and the ModR/M byte. -/
def selector (mode : Mode) : Reader (PrefixState × UInt8 × ModRM) := do
  let op ← opcode mode
  withModRM op

/-- Find the form of an instruction. -/
def form (p : PrefixState) (mode : Mode) (op : UInt8) (m : ModRM) : Reader Form := do
  match ← request (Table.lookupChecked p (.known mode) op m) with
  | .ok f => return f
  | .error failure =>
    if failure.isReserved then refuseModRM (.reserved failure) else throw (.unrecognized failure)

/-- What is known of an instruction before its operands are resolved: the memory that the ModR/M
byte names. -/
def draft (p : PrefixState) (mode : Mode) (f : Form) (m : ModRM) (isMemory : Bool) :
    Reader Draft :=
  if isMemory then do
    let (reference, span) ← memory p mode f m
    return { memory := reference, constants := { displacement := span } }
  else return {}

/-- Read the rest of an instruction whose form is known. -/
def formBody (p : PrefixState) (mode : Mode) (m : ModRM) (f : Form) : Reader Body := do
  let isMemory := f.namesMemory m
  checkPrefixes (Body.checkForm f p isMemory)
  let start ← draft p mode f m isMemory
  let draft ← operands p mode m isMemory f.operands start
  let relative ← isRelative
  let length ← position
  return ⟨f, p, isMemory, draft, relative, length⟩

/-- Read an instruction. -/
def body (mode : Mode) : Reader Body := do
  let (p, op, m) ← selector mode
  let f ← form p mode op m
  formBody p mode m f

end Reader

namespace Body

/-- The instruction pointer after an instruction of this length, cut to the width of the mode. -/
def nextIp (mode : Mode) (ip : UInt64) (length : Nat) : UInt64 :=
  Word.truncate mode.bits (ip + length.toUInt64)

/-- The operand with the target of a near branch in place of its offset. -/
def placeOperand (next : UInt64) (operand : Operand) : Operand :=
  match operand.kind with
  | .nearBranch16 => { operand with immediate := Word.truncate 16 (next + operand.immediate) }
  | .nearBranch32 => { operand with immediate := Word.truncate 32 (next + operand.immediate) }
  | .nearBranch64 => { operand with immediate := next + operand.immediate }
  | _ => operand

/-- The memory with the target of a relative address in place of its offset. -/
def placeMemory (relative : Bool) (next : UInt64) (memory : MemoryReference) : MemoryReference :=
  let target := next + Word.signExtend 32 memory.displacement
  if !relative then memory
  else if memory.base = .eip then { memory with displacement := Word.truncate 32 target }
  else { memory with displacement := target }

/-- Whether the form's mandatory prefix is a repeat byte, which then does not repeat. -/
def takesRepetition (f : Form) : Bool :=
  match f.constraint with
  | .legacy c => c.mandatory == .pF2 || c.mandatory == .pF3
  | _ => false

/-- Whether the b bit broadcasts the memory operand. -/
def broadcasts (body : Body) : Bool :=
  body.prefixes.encoding == .evex && body.prefixes.broadcast && body.isMemory

/-- The data that the memory operands access. -/
def memorySize (body : Body) : MemorySize :=
  if body.broadcasts then body.form.broadcast
  else if body.draft.operands.any (fun operand => operand.kind.isMemory) then body.form.memory
  else .unknown

/-- The instruction at its place. -/
def place (body : Body) (mode : Mode) (ip : UInt64) : Instruction :=
  let p := body.prefixes
  let next := nextIp mode ip body.length
  let evex := p.encoding == .evex
  let inRegisters := evex && p.broadcast && !body.isMemory
  { code := body.form.code
    mode := some mode
    encoding := p.encoding
    ip := ip
    nextIp := next
    length := body.length
    operands := body.draft.operands.map (placeOperand next)
    farSelector := body.draft.farSelector
    memory :=
      { placeMemory body.relative next body.draft.memory with size := body.memorySize }
    lock := p.lock
    repetition := if takesRepetition body.form then none else p.repetition
    segmentOverride := p.segment
    opmask := if evex && p.opmask != 0 then Register.k0.after p.opmask.toNat else .none
    zeroing := evex && p.zeroing
    rounding :=
      if inRegisters && body.form.has .rounding then Rounding.ofLengthField p.ll else .none
    sae := inRegisters
    broadcast := body.broadcasts
    constants := body.draft.constants }

end Body

/-- The outcome of decoding one instruction, with the state that the reader was left in. -/
structure Decoded where
  /-- The instruction, or why there is none. -/
  outcome : Except DecodeError Instruction
  /-- The state of the reader. -/
  state : ReadState

/-- What the prefixes say as far as they were read. -/
def Decoded.prefixes (decoded : Decoded) : PrefixState :=
  decoded.state.prefixes

/-- Decode the instruction in front of a reader. -/
def decodeFrom (mode : Mode) (s : ReadState) (ip : UInt64) : Decoded :=
  match (Reader.body mode).runOn s with
  | (.ok body, s) => ⟨.ok (body.place mode ip), s⟩
  | (.error fault, s) => ⟨.error ⟨s.consumed, fault⟩, s⟩

/-- Decode the instruction at the front of the data. -/
def decode (mode : Mode) (data : List UInt8) (ip : UInt64) : Decoded :=
  decodeFrom mode { rest := data } ip

end X86Decoder
