import X86Decoder.Code
import X86Decoder.Form.Lookup

/-!
# Decoding faults

Why bytes are not an instruction. Every fault belongs to one of five classes, and a decoding error
adds how many bytes had been read.
-/

namespace X86Decoder

/-- The class of a decoding fault. -/
inductive FaultClass where
  /-- The instruction would be longer than the longest there is. -/
  | invalidLength
  /-- No form matches the opcode and its prefixes in the mode. -/
  | unrecognizedOpcode
  /-- The ModR/M or SIB byte selects a register or address that does not exist. -/
  | invalidModRMOrSib
  /-- The data ended within the instruction. -/
  | truncated
  /-- The prefixes cannot be combined or have a value that the form does not permit. -/
  | invalidPrefixCombination
deriving DecidableEq

namespace FaultClass

/-- What is said of every fault in the class. -/
def message : FaultClass → String
  | invalidLength => "instruction longer than 15 bytes"
  | unrecognizedOpcode => "unrecognized opcode"
  | invalidModRMOrSib => "invalid ModR/M or SIB"
  | truncated => "truncated instruction: unexpected EOF"
  | invalidPrefixCombination => "invalid prefix combination"

end FaultClass

/-- What is wrong with a ModR/M or SIB byte. -/
inductive ModRMFault where
  /-- The opcode is used with the other of the register and memory forms only. -/
  | reserved (failure : LookupFailure)
  /-- The reg field names an opmask register above the last. -/
  | opmaskInReg (n : Nat)
  /-- A field names a register that its family does not have. -/
  | noRegister (family : RegisterFamily) (n : Nat)
  /-- A vector of indices cannot be had with 16-bit addresses. -/
  | vsibIn16
  /-- A vector of indices needs a SIB byte. -/
  | vsibWithoutSib
  /-- The vector of indices is also a register operand. -/
  | vsibIndexRepeated (index : Register)
deriving DecidableEq

/-- What is wrong with the prefixes. -/
inductive PrefixFault where
  /-- A REX prefix stands before an extended prefix. -/
  | rexBefore (encoding : EncodingKind)
  /-- A mandatory prefix stands before an extended prefix. -/
  | mandatoryBefore (mandatory : Mandatory) (encoding : EncodingKind)
  /-- The extended prefix selects an opcode map that does not exist. -/
  | opcodeMap (encoding : EncodingKind) (n : UInt8)
  /-- Reserved bits of an EVEX prefix are set. -/
  | reservedBits (bits : UInt8)
  /-- The fixed bit of an EVEX prefix is clear. -/
  | fixedBitClear
  /-- An EVEX prefix zeroes masked elements without an opmask. -/
  | zeroingWithoutOpmask
  /-- The form has no operand in the vvvv field, which is in use. -/
  | unusedVvvv (code : Code)
  /-- The form cannot broadcast. -/
  | noBroadcast (code : Code)
  /-- The form can neither round nor suppress exceptions. -/
  | noRounding (code : Code)
  /-- The form takes no opmask. -/
  | noOpmask (code : Code)
  /-- The form needs an opmask. -/
  | needsOpmask (code : Code)
  /-- The form cannot zero masked elements. -/
  | noZeroing (code : Code)
  /-- Masked elements in memory cannot be zeroed. -/
  | zeroingMemory
  /-- The vvvv field names an opmask register above the last. -/
  | opmaskInVvvv (n : Nat)
deriving DecidableEq

/-- Why bytes are not an instruction. -/
inductive DecodeFault where
  /-- The instruction would be longer than the longest there is. -/
  | tooLong
  /-- The data ended within the instruction. -/
  | truncated
  /-- No form matches. -/
  | unrecognized (failure : LookupFailure)
  /-- The ModR/M or SIB byte is wrong. -/
  | modrm (fault : ModRMFault)
  /-- The prefixes are wrong. -/
  | prefixes (fault : PrefixFault)
  /-- The prefixes or the form led to a request outside a function's contract. -/
  | misuse (cause : Misuse)
deriving DecidableEq

namespace ModRMFault

/-- What is said of the fault after its class. -/
def message : ModRMFault → String
  | reserved failure => failure.message
  | opmaskInReg n => "opmask register " ++ Text.decimal n ++ " in ModR/M.reg"
  | noRegister family n => "no " ++ family.text ++ " register " ++ Text.decimal n
  | vsibIn16 => "VSIB with 16-bit addressing"
  | vsibWithoutSib => "VSIB without a SIB byte"
  | vsibIndexRepeated index => "VSIB index " ++ index.name ++ " is also an operand"

end ModRMFault

namespace PrefixFault

/-- What is said of the fault after its class. -/
def message : PrefixFault → String
  | rexBefore encoding => "REX before " ++ encoding.name
  | mandatoryBefore mandatory encoding => mandatory.name ++ " prefix before " ++ encoding.name
  | opcodeMap encoding n => encoding.name ++ " opcode map " ++ Text.decimal n.toNat
  | reservedBits bits => "EVEX reserved bits " ++ Text.hex bits.toNat
  | fixedBitClear => "EVEX fixed bit is clear"
  | zeroingWithoutOpmask => "EVEX.z without an opmask"
  | unusedVvvv code => code.name ++ " does not use vvvv"
  | noBroadcast code => code.name ++ " does not support broadcast"
  | noRounding code => code.name ++ " does not support rounding control or SAE"
  | noOpmask code => code.name ++ " does not support an opmask"
  | needsOpmask code => code.name ++ " requires an opmask"
  | noZeroing code => code.name ++ " does not support zeroing-masking"
  | zeroingMemory => "zeroing-masking with a memory destination"
  | opmaskInVvvv n => "opmask register " ++ Text.decimal n ++ " in vvvv"

end PrefixFault

namespace DecodeFault

/-- The class of a fault; a request outside a contract is in none. -/
def class? : DecodeFault → Option FaultClass
  | tooLong => some .invalidLength
  | truncated => some .truncated
  | unrecognized _ => some .unrecognizedOpcode
  | modrm _ => some .invalidModRMOrSib
  | prefixes _ => some .invalidPrefixCombination
  | misuse _ => none

/-- What is said of a fault. -/
def message : DecodeFault → String
  | tooLong => FaultClass.invalidLength.message
  | truncated => FaultClass.truncated.message
  | unrecognized failure => FaultClass.unrecognizedOpcode.message ++ ": " ++ failure.message
  | modrm fault => FaultClass.invalidModRMOrSib.message ++ ": " ++ fault.message
  | prefixes fault => FaultClass.invalidPrefixCombination.message ++ ": " ++ fault.message
  | misuse cause => cause.message?.getD "index out of range"

end DecodeFault

/-- A failure to decode an instruction. -/
structure DecodeError where
  /-- How many bytes of the instruction had been read. -/
  offset : Nat
  /-- Why the bytes are not an instruction. -/
  fault : DecodeFault
deriving DecidableEq

/-- What is said of a failure. -/
def DecodeError.message (e : DecodeError) : String :=
  "x86 decode failed at instruction byte " ++ Text.decimal e.offset ++ ": " ++ e.fault.message

end X86Decoder
