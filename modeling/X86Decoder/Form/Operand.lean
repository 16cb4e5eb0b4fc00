import X86Decoder.OpKind
import X86Decoder.Register.Select

/-!
# Operands of a form

Where the value of an operand comes from in the machine code. Operands that name a register carry
the class to select from, and immediates and branches carry their width and how they extend.
-/

namespace X86Decoder

/-- The place in the machine code that an operand is encoded in. -/
inductive OperandEncoding where
  | reg
  | rm
  | vvvv
  | is4
  | implicit
  | one
  | immediate
  | relative
  | far
  | moffs
  | stringSource
  | stringDestination
  | maskDestination
  | vsib
deriving DecidableEq

namespace OperandEncoding

/-- The places in the order of their numbers, which start at one. -/
def all : List OperandEncoding :=
  [reg, rm, vvvv, is4, implicit, one, immediate, relative, far, moffs, stringSource,
   stringDestination, maskDestination, vsib]

/-- What a place is called. -/
def name : OperandEncoding → String
  | reg => "ModRM:reg"
  | rm => "ModRM:r/m"
  | vvvv => "VEX.vvvv"
  | is4 => "imm8[7:4]"
  | implicit => "implicit"
  | one => "1"
  | immediate => "imm"
  | relative => "rel"
  | far => "ptr"
  | moffs => "moffs"
  | stringSource => "rSI"
  | stringDestination => "rDI"
  | maskDestination => "seg:rDI"
  | vsib => "vsib"

/-- What the place with a number is called. -/
def describe (n : UInt8) : String :=
  match if n = 0 then none else all[n.toNat - 1]? with
  | some place => place.name
  | none => "OperandEncoding(" ++ Text.decimal n.toNat ++ ")"

end OperandEncoding

/-- An immediate: how many bytes are stored and how they extend to the value. -/
inductive Immediate where
  | byte
  /-- A byte that follows another immediate. -/
  | secondByte
  | word
  | dword
  | qword
  /-- A byte that is sign extended to the given width. -/
  | byteTo (width : WordSize)
  /-- Four bytes that are sign extended to eight. -/
  | dwordToQword
deriving DecidableEq

namespace Immediate

/-- The stored width. -/
def width : Immediate → DataWidth
  | byte | secondByte | byteTo _ => .w8
  | word => .w16
  | dword | dwordToQword => .w32
  | qword => .w64

/-- The kind of operand an immediate becomes. -/
def kind : Immediate → OpKind
  | byte => .immediate8
  | secondByte => .immediate8Second
  | word => .immediate16
  | dword => .immediate32
  | qword => .immediate64
  | byteTo .w16 => .immediate8to16
  | byteTo .w32 => .immediate8to32
  | byteTo .w64 => .immediate8to64
  | dwordToQword => .immediate32to64

end Immediate

/-- Where an operand comes from. -/
inductive OperandSpec where
  /-- The register in the reg field. -/
  | reg (cls : RegisterClass)
  /-- The register or memory in the rm field. -/
  | rm (cls : RegisterClass)
  /-- The rm field, which has to name a register. -/
  | rmRegister (cls : RegisterClass)
  /-- The rm field, which has to name memory. -/
  | rmMemory
  /-- The register in the vvvv field. -/
  | vvvv (cls : RegisterClass)
  /-- The register in bits 7 to 4 of an immediate byte. -/
  | is4 (cls : RegisterClass)
  /-- A register that the instruction implies. -/
  | implicit (register : Register)
  /-- The constant one. -/
  | one
  /-- An immediate value. -/
  | immediate (immediate : Immediate)
  /-- A branch offset of the given width to a target of the given width. -/
  | relative (offset : DataWidth) (target : WordSize)
  /-- A far pointer: an offset of the given width, which is 16 or 32 bits, and a selector. -/
  | far (wide : Bool)
  /-- An absolute memory offset to an element of the given width. -/
  | moffs (element : DataWidth)
  /-- A segment and rSI. -/
  | stringSource (element : DataWidth)
  /-- ES and rDI. -/
  | stringDestination (element : DataWidth)
  /-- A segment and rDI, as a masked store uses it. -/
  | maskDestination
  /-- Memory with a vector of indices of the given width. -/
  | vsib (index : RegisterClass) (element : DataWidth)
deriving DecidableEq

namespace OperandSpec

/-- The place an operand is encoded in. -/
def encoding : OperandSpec → OperandEncoding
  | reg _ => .reg
  | rm _ | rmRegister _ | rmMemory => .rm
  | vvvv _ => .vvvv
  | is4 _ => .is4
  | implicit _ => .implicit
  | one => .one
  | immediate _ => .immediate
  | relative _ _ => .relative
  | far _ => .far
  | moffs _ => .moffs
  | stringSource _ => .stringSource
  | stringDestination _ => .stringDestination
  | maskDestination => .maskDestination
  | vsib _ _ => .vsib

/-- The family of the register operand or vector index; that of no register where there is
none. -/
def family : OperandSpec → RegisterFamily
  | reg cls | rm cls | rmRegister cls | vvvv cls | is4 cls | vsib cls _ => cls.family
  | implicit register => register.family
  | _ => .other 0

/-- The width of a far pointer's offset. -/
def farOffset (wide : Bool) : WordSize :=
  if wide then .w32 else .w16

/-- The width of a register, immediate, branch offset, memory element or index element. -/
def bits : OperandSpec → Nat
  | reg cls | rm cls | rmRegister cls | vvvv cls | is4 cls => cls.bits
  | rmMemory | maskDestination => 0
  | implicit register => register.bits
  | one => 8
  | immediate value => value.width.bits
  | relative offset _ => offset.bits
  | far wide => (farOffset wide).bits
  | moffs element | stringSource element | stringDestination element | vsib _ element =>
    element.bits

/-- The register of an implicit operand. -/
def implicitRegister : OperandSpec → Register
  | implicit register => register
  | _ => .none

/-- The kind of an operand that is not a register, for 16-bit addresses where it depends on the
address size. -/
def kind : OperandSpec → OpKind
  | one => .immediate8
  | immediate value => value.kind
  | relative _ target => .nearBranch target
  | far wide => if wide then .farBranch32 else .farBranch16
  | moffs _ => .memory
  | stringSource _ => .stringSource .w16
  | stringDestination _ => .stringDestination .w16
  | maskDestination => .maskDestination .w16
  | _ => .register

/-- Whether the rm field has to name a register. -/
def registerOnly : OperandSpec → Bool
  | rmRegister _ => true
  | _ => false

/-- Whether the rm field has to name memory. -/
def memoryOnly : OperandSpec → Bool
  | rmMemory | vsib _ _ => true
  | _ => false

/-- The number of bytes an operand occupies after any ModR/M, SIB and displacement. -/
def size : OperandSpec → Nat
  | immediate value => value.width.bytes
  | relative offset _ => offset.bytes
  | far wide => (farOffset wide).bytes + 2
  | is4 _ => 1
  | _ => 0

/-- Whether an operand always refers to memory. -/
def isMemory : OperandSpec → Bool
  | rmMemory | moffs _ | stringSource _ | stringDestination _ | maskDestination | vsib _ _ => true
  | _ => false

end OperandSpec

/-- One operand of a form, with the name that the table gives it. -/
structure FormOperand where
  /-- The name in the table. -/
  name : String
  /-- Where the operand comes from. -/
  spec : OperandSpec
deriving DecidableEq

end X86Decoder
