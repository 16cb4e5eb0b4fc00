import X86Decoder.ModRM
import X86Decoder.Prefix.Evex
import X86Decoder.Prefix.Rex
import X86Decoder.Prefix.Vex

/-!
# Machine code

An instruction put together from its parts: prefixes, opcode, ModR/M and SIB bytes, displacement
and immediates.
-/

namespace X86Decoder

/-- The parts of one instruction. -/
structure MachineCode where
  /-- Legacy prefix bytes, at most fourteen. -/
  prefixes : List UInt8 := []
  /-- The REX prefix; a zero byte is none. -/
  rex : Rex := ⟨0⟩
  /-- The VEX prefix, if its opcode map is not zero. -/
  vex : Vex := ⟨0, 0⟩
  /-- Whether the VEX prefix is written as an XOP prefix. -/
  xop : Bool := false
  /-- The EVEX prefix, if its fixed bit is set. -/
  evex : Evex := ⟨0, 0, 0⟩
  /-- The opcode bytes, at most three. -/
  opcode : List UInt8 := []
  /-- The ModR/M byte. -/
  modrm : Option ModRM := none
  /-- The SIB byte. -/
  sib : Option Sib := none
  /-- The displacement bytes, at most four. -/
  displacement : List UInt8 := []
  /-- The immediate bytes, at most eight. -/
  immediate : List UInt8 := []

namespace MachineCode

/-- Append a legacy prefix byte. A zero byte and a fifteenth prefix are left out. -/
def addPrefix (c : MachineCode) (byte : UInt8) : MachineCode :=
  if byte = 0 ∨ 14 ≤ c.prefixes.length then c
  else { c with prefixes := c.prefixes ++ [byte] }

/-- Set the opcode to the first three of the given bytes. -/
def setOpcode (c : MachineCode) (bytes : List UInt8) : MachineCode :=
  { c with opcode := bytes.take 3 }

/-- Set the displacement to the first four of the given bytes. -/
def setDisplacement (c : MachineCode) (bytes : List UInt8) : MachineCode :=
  { c with displacement := bytes.take 4 }

/-- Set the immediates to the first eight of the given bytes. -/
def setImmediate (c : MachineCode) (bytes : List UInt8) : MachineCode :=
  { c with immediate := bytes.take 8 }

/-- Change a field of the SIB byte, which is then present. -/
def updateSib (c : MachineCode) (update : Sib.Update) : MachineCode :=
  { c with sib := some ((c.sib.getD ⟨0⟩).apply update) }

/-- The bytes of the VEX or XOP prefix, in two bytes where that is possible. -/
def vexBytes (c : MachineCode) : List UInt8 :=
  if !c.vex.on then []
  else if c.xop then [0x8f, c.vex.p0, c.vex.p1]
  else if c.vex.hasShort then c.vex.short
  else c.vex.long

/-- The encoded instruction. -/
def bytes (c : MachineCode) : List UInt8 :=
  c.prefixes
    ++ (if c.rex.byte = 0 then [] else [c.rex.byte])
    ++ c.vexBytes
    ++ (if c.evex.on then c.evex.bytes else [])
    ++ c.opcode
    ++ (c.modrm.map ModRM.byte).toList
    ++ (c.sib.map Sib.byte).toList
    ++ c.displacement
    ++ c.immediate

end MachineCode

end X86Decoder
