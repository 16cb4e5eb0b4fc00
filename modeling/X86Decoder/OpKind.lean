import X86Decoder.Text.Numeral
import X86Decoder.Width

/-!
# Operand kinds and rounding

How the value of an operand is held in a decoded instruction, and the rounding modes that an
instruction may select for itself.
-/

namespace X86Decoder

/-- How the value of an operand is held in a decoded instruction. -/
inductive OpKind where
  | register
  | nearBranch16
  | nearBranch32
  | nearBranch64
  | farBranch16
  | farBranch32
  | immediate8
  | immediate8Second
  | immediate16
  | immediate32
  | immediate64
  | immediate8to16
  | immediate8to32
  | immediate8to64
  | immediate32to64
  | memorySegSI
  | memorySegESI
  | memorySegRSI
  | memorySegDI
  | memorySegEDI
  | memorySegRDI
  | memoryESDI
  | memoryESEDI
  | memoryESRDI
  | memory64
  | memory
  /-- A number that no kind has. -/
  | other (number : UInt8)
deriving DecidableEq

namespace OpKind

/-- Every kind, in the order of their numbers. -/
def all : List OpKind :=
  [register, nearBranch16, nearBranch32, nearBranch64, farBranch16, farBranch32, immediate8,
   immediate8Second, immediate16, immediate32, immediate64, immediate8to16, immediate8to32,
   immediate8to64, immediate32to64, memorySegSI, memorySegESI, memorySegRSI, memorySegDI,
   memorySegEDI, memorySegRDI, memoryESDI, memoryESEDI, memoryESRDI, memory64, memory]

/-- The kind with the given number. -/
def ofNumber (n : UInt8) : OpKind :=
  (all[n.toNat]?).getD (other n)

/-- The number of a kind. -/
def number : OpKind → Nat
  | other n => n.toNat
  | kind => all.idxOf kind

/-- The name of a kind. -/
def name : OpKind → String
  | register => "Register"
  | nearBranch16 => "NearBranch16"
  | nearBranch32 => "NearBranch32"
  | nearBranch64 => "NearBranch64"
  | farBranch16 => "FarBranch16"
  | farBranch32 => "FarBranch32"
  | immediate8 => "Immediate8"
  | immediate8Second => "Immediate8_2nd"
  | immediate16 => "Immediate16"
  | immediate32 => "Immediate32"
  | immediate64 => "Immediate64"
  | immediate8to16 => "Immediate8to16"
  | immediate8to32 => "Immediate8to32"
  | immediate8to64 => "Immediate8to64"
  | immediate32to64 => "Immediate32to64"
  | memorySegSI => "MemorySegSI"
  | memorySegESI => "MemorySegESI"
  | memorySegRSI => "MemorySegRSI"
  | memorySegDI => "MemorySegDI"
  | memorySegEDI => "MemorySegEDI"
  | memorySegRDI => "MemorySegRDI"
  | memoryESDI => "MemoryESDI"
  | memoryESEDI => "MemoryESEDI"
  | memoryESRDI => "MemoryESRDI"
  | memory64 => "Memory64"
  | memory => "Memory"
  | other n => "OpKind(" ++ Text.decimal n.toNat ++ ")"

/-- The kind with the given name. -/
def ofName? (name : String) : Option OpKind :=
  all.find? fun kind => kind.name == name

/-- Whether the operand is an immediate value. -/
def isImmediate : OpKind → Bool
  | immediate8 | immediate8Second | immediate16 | immediate32 | immediate64 | immediate8to16
  | immediate8to32 | immediate8to64 | immediate32to64 => true
  | _ => false

/-- Whether the operand is the target of a near or far branch. -/
def isBranch : OpKind → Bool
  | nearBranch16 | nearBranch32 | nearBranch64 | farBranch16 | farBranch32 => true
  | _ => false

/-- Whether the operand refers to memory, the implicit string operands included. -/
def isMemory : OpKind → Bool
  | memorySegSI | memorySegESI | memorySegRSI | memorySegDI | memorySegEDI | memorySegRDI
  | memoryESDI | memoryESEDI | memoryESRDI | memory64 | memory => true
  | _ => false

/-- The source of a string instruction: a segment and rSI, by address size. -/
def stringSource : WordSize → OpKind
  | .w16 => memorySegSI
  | .w32 => memorySegESI
  | .w64 => memorySegRSI

/-- The destination of a string instruction: ES and rDI, by address size. -/
def stringDestination : WordSize → OpKind
  | .w16 => memoryESDI
  | .w32 => memoryESEDI
  | .w64 => memoryESRDI

/-- The destination of a masked store: a segment and rDI, by address size. -/
def maskDestination : WordSize → OpKind
  | .w16 => memorySegDI
  | .w32 => memorySegEDI
  | .w64 => memorySegRDI

/-- A near branch with a target of the given width. -/
def nearBranch : WordSize → OpKind
  | .w16 => nearBranch16
  | .w32 => nearBranch32
  | .w64 => nearBranch64

end OpKind

/-- The rounding mode that an instruction selects for itself. -/
inductive Rounding where
  | none
  | toNearest
  | down
  | up
  | towardZero
  /-- A number that no rounding mode has. -/
  | other (number : UInt8)
deriving DecidableEq

namespace Rounding

/-- The rounding mode with the given number. -/
def ofNumber (n : UInt8) : Rounding :=
  ([none, toNearest, down, up, towardZero][n.toNat]?).getD (other n)

/-- The number of a rounding mode. -/
def number : Rounding → Nat
  | none => 0
  | toNearest => 1
  | down => 2
  | up => 3
  | towardZero => 4
  | other n => n.toNat

/-- The name of a rounding mode. -/
def name : Rounding → String
  | none => "None"
  | toNearest => "RoundToNearest"
  | down => "RoundDown"
  | up => "RoundUp"
  | towardZero => "RoundTowardZero"
  | other n => "RoundingControl(" ++ Text.decimal n.toNat ++ ")"

/-- The rounding mode selected by the two bits of the vector length field. -/
def ofLengthField (l : UInt8) : Rounding :=
  ofNumber (1 + l)

end Rounding

end X86Decoder
