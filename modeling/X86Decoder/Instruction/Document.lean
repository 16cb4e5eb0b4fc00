import X86Decoder.Document.Basic
import X86Decoder.Instruction.Basic

/-!
# Instructions as documents

The fields of an instruction under the names they have in structured output. Fields that most
instructions do not use are left out where they hold the default.
-/

namespace X86Decoder

namespace Operand

/-- An operand as a document. -/
def document (operand : Operand) : Document :=
  .object ([("kind", .text operand.kind.name)]
    ++ Document.fieldUnless (operand.register == .none) "register" (.text operand.register.name)
    ++ Document.fieldUnless (operand.immediate == 0) "immediate"
      (.number operand.immediate.toNat))

end Operand

/-- The places of the constants as a document. -/
def ConstantOffsets.document (c : ConstantOffsets) : Document :=
  .object [("displacementOffset", .number c.displacement.offset),
    ("displacementSize", .number c.displacement.size),
    ("immediateOffset", .number c.first.offset), ("immediateSize", .number c.first.size),
    ("immediateOffset2", .number c.second.offset), ("immediateSize2", .number c.second.size)]

namespace MemoryReference

/-- The fields of an instruction that tell the memory it refers to. -/
def fields (m : MemoryReference) : List (String × Document) :=
  let register (name : String) (r : Register) :=
    Document.fieldUnless (r == .none) name (.text r.name)
  register "memorySegment" m.segment
    ++ register "memoryBase" m.base
    ++ register "memoryIndex" m.index
    ++ Document.fieldUnless (m.scale == 0) "memoryIndexScale" (.number m.scale)
    ++ Document.fieldUnless (m.displacement == 0) "memoryDisplacement"
      (.number m.displacement.toNat)
    ++ Document.fieldUnless (m.displacementSize == 0) "memoryDisplSize"
      (.number m.displacementSize)
    ++ Document.fieldUnless (m.size == .unknown) "memorySize" (.text m.size.name)

end MemoryReference

namespace Instruction

/-- An instruction as a document. -/
def document (inst : Instruction) : Document :=
  let register (name : String) (r : Register) :=
    Document.fieldUnless (r == .none) name (.text r.name)
  let mark (name : String) (b : Bool) := Document.fieldUnless (!b) name (.flag true)
  .object (
    [("code", .text inst.code.name), ("mode", .text ((inst.mode.map Mode.text).getD "")),
      ("encoding", .text inst.encoding.name), ("ip", .number inst.ip.toNat),
      ("nextIP", .number inst.nextIp.toNat), ("length", .number inst.length),
      ("opCount", .number inst.operands.length),
      ("ops", .list (inst.operandSlots.map Operand.document))]
    ++ Document.fieldUnless (inst.farSelector == 0) "farBranchSelector"
      (.number inst.farSelector.toNat)
    ++ inst.memory.fields
    ++ mark "lock" inst.lock
    ++ mark "repe" (inst.repetition == some .repe)
    ++ mark "repne" (inst.repetition == some .repne)
    ++ register "prefixSegment" inst.segmentOverride
    ++ register "opMask" inst.opmask
    ++ mark "zeroingMasking" inst.zeroing
    ++ Document.fieldUnless (inst.rounding == .none) "roundingControl" (.text inst.rounding.name)
    ++ mark "suppressAllExceptions" inst.sae
    ++ mark "broadcast" inst.broadcast
    ++ [("offsets", inst.constants.document)])

end Instruction

end X86Decoder
