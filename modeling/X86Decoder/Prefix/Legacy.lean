import X86Decoder.Register.Basic

/-!
# Legacy prefixes

The eleven bytes that may stand in front of an opcode in any order and number.
-/

namespace X86Decoder

/-- A legacy prefix. -/
inductive LegacyPrefix where
  | lock
  | repne
  | repe
  | cs
  | ss
  | ds
  | es
  | fs
  | gs
  | operandSize
  | addressSize
deriving DecidableEq

namespace LegacyPrefix

/-- The byte of a prefix. -/
def byte : LegacyPrefix → UInt8
  | lock => 0xf0
  | repne => 0xf2
  | repe => 0xf3
  | cs => 0x2e
  | ss => 0x36
  | ds => 0x3e
  | es => 0x26
  | fs => 0x64
  | gs => 0x65
  | operandSize => 0x66
  | addressSize => 0x67

/-- Every legacy prefix. -/
def all : List LegacyPrefix :=
  [lock, repne, repe, cs, ss, ds, es, fs, gs, operandSize, addressSize]

/-- The prefix that a byte is, if it is one. -/
def ofByte? (b : UInt8) : Option LegacyPrefix :=
  all.find? fun p => p.byte == b

/-- The segment register that a prefix overrides with, or no register. -/
def segment : LegacyPrefix → Register
  | es => .es
  | cs => .cs
  | ss => .ss
  | ds => .ds
  | fs => .fs
  | gs => .gs
  | _ => .none

/-- What a prefix is called. -/
def name : LegacyPrefix → String
  | lock => "lock"
  | repne => "repnz/repne"
  | repe => "rep/repe/repz"
  | cs => "cs"
  | ss => "ss"
  | ds => "ds"
  | es => "es"
  | fs => "fs"
  | gs => "gs"
  | operandSize => "data16/data32"
  | addressSize => "addr16/addr32"

/-- What a byte is called as a prefix. -/
def describe (b : UInt8) : String :=
  match ofByte? b with
  | some p => p.name
  | none => "Prefix(0x" ++ Text.hexPadded 2 b.toNat ++ ")"

end LegacyPrefix

end X86Decoder
