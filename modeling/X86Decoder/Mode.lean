import X86Decoder.Width

/-!
# Processor modes

The three modes in which machine code is read, each named by its number of bits, and the modes
a caller may state, which need not be one of the three.
-/

namespace X86Decoder

/-- A processor mode. -/
inductive Mode where
  | bits16
  | bits32
  | bits64
deriving DecidableEq

namespace Mode

/-- Every mode, narrowest first. -/
def all : List Mode :=
  [bits16, bits32, bits64]

/-- The address size used when no prefix overrides it. -/
def addressSize : Mode → WordSize
  | bits16 => .w16
  | bits32 => .w32
  | bits64 => .w64

/-- The operand size used when no prefix overrides it. -/
def operandSize : Mode → WordSize
  | bits16 => .w16
  | bits32 => .w32
  | bits64 => .w32

/-- The number of bits a mode is named by. -/
def bits (mode : Mode) : Nat :=
  mode.addressSize.bits

/-- A mode is written as its number of bits. -/
def text : Mode → String
  | bits16 => "16"
  | bits32 => "32"
  | bits64 => "64"

/-- The mode with the given number of bits. -/
def ofBits? (n : Int) : Option Mode :=
  all.find? fun mode => (mode.bits : Int) == n

end Mode

/-- A mode as a caller states it: one of the three, or a number of bits that names none. -/
inductive StatedMode where
  | known (mode : Mode)
  | other (bits : UInt8)
deriving DecidableEq

namespace StatedMode

/-- The mode stated by a number of bits. -/
def ofBits (n : UInt8) : StatedMode :=
  match Mode.ofBits? n.toNat with
  | some mode => known mode
  | none => other n

/-- The stated number of bits. -/
def bits : StatedMode → Nat
  | known mode => mode.bits
  | other n => n.toNat

/-- A stated mode is written as its number of bits. -/
def text (mode : StatedMode) : String :=
  toString mode.bits

/-- The operand size in bits used when no prefix overrides it. -/
def operandBits : StatedMode → Nat
  | known mode => mode.operandSize.bits
  | other _ => 32

end StatedMode

end X86Decoder
