import X86Decoder.Bits
import X86Decoder.Text.Numeral

/-!
# ModR/M and SIB bytes

The byte that selects a register and a register or memory operand, and the byte that adds a scaled
index to a base. Both hold a run of two bits above two runs of three.
-/

namespace X86Decoder

/-- A ModR/M byte: mod in bits 7 and 6, reg in bits 5 to 3, rm in bits 2 to 0. -/
structure ModRM where
  /-- The packed byte. -/
  byte : UInt8
deriving DecidableEq

namespace ModRM

/-- The mod field. -/
def mod (m : ModRM) : UInt8 := Bits.getRun m.byte 6 0b11

/-- The reg field. -/
def reg (m : ModRM) : UInt8 := Bits.getRun m.byte 3 0b111

/-- The rm field. -/
def rm (m : ModRM) : UInt8 := Bits.getRun m.byte 0 0b111

/-- Whether the rm field names a register rather than memory. -/
def isRegister (m : ModRM) : Bool :=
  m.mod == 0b11

/-- A write to one field. -/
inductive Update where
  | mod (value : UInt8)
  | reg (value : UInt8)
  | rm (value : UInt8)

/-- The byte after a write. -/
def apply (m : ModRM) : Update → ModRM
  | .mod v => ⟨Bits.setRun m.byte 0b00111111 6 0b11 v⟩
  | .reg v => ⟨Bits.setRun m.byte 0b11000111 3 0b111 v⟩
  | .rm v => ⟨Bits.setRun m.byte 0b11111000 0 0b111 v⟩

/-- The byte made of the three fields. -/
def ofFields (mod reg rm : UInt8) : ModRM :=
  [Update.mod mod, .reg reg, .rm rm].foldl apply ⟨0⟩

/-- The fields in binary. -/
def text (m : ModRM) : String :=
  "\x7bMod: " ++ Text.binaryPadded 2 m.mod.toNat ++ ", Reg: " ++ Text.binaryPadded 3 m.reg.toNat
    ++ ", R/M: " ++ Text.binaryPadded 3 m.rm.toNat ++ "\x7d"

end ModRM

/-- A SIB byte: scale in bits 7 and 6, index in bits 5 to 3, base in bits 2 to 0. -/
structure Sib where
  /-- The packed byte. -/
  byte : UInt8
deriving DecidableEq

namespace Sib

/-- The scale field, a power of two. -/
def scale (s : Sib) : UInt8 := Bits.getRun s.byte 6 0b11

/-- The index field. -/
def index (s : Sib) : UInt8 := Bits.getRun s.byte 3 0b111

/-- The base field. -/
def base (s : Sib) : UInt8 := Bits.getRun s.byte 0 0b111

/-- A write to one field. -/
inductive Update where
  | scale (value : UInt8)
  | index (value : UInt8)
  | base (value : UInt8)

/-- The byte after a write. -/
def apply (s : Sib) : Update → Sib
  | .scale v => ⟨Bits.setRun s.byte 0b00111111 6 0b11 v⟩
  | .index v => ⟨Bits.setRun s.byte 0b11000111 3 0b111 v⟩
  | .base v => ⟨Bits.setRun s.byte 0b11111000 0 0b111 v⟩

/-- The fields in binary. -/
def text (s : Sib) : String :=
  "\x7bScale: " ++ Text.binaryPadded 2 s.scale.toNat ++ ", Index: "
    ++ Text.binaryPadded 3 s.index.toNat ++ ", Base: " ++ Text.binaryPadded 3 s.base.toNat ++ "\x7d"

end Sib

end X86Decoder
