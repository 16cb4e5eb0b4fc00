import X86Decoder.Misuse
import X86Decoder.Register.Basic
import X86Decoder.Width

/-!
# Selecting a register by number

Machine code names a register by a number within a class. The class fixes the family and, for the
general purpose registers, the width. Numbers 4 to 7 of the byte registers name the high bytes of
the first four word registers unless a REX prefix is in force.
-/

namespace X86Decoder

namespace Register

/-- The register `n` places after `first`, modulo 256. -/
def after (first : Register) (n : Int) : Register :=
  ⟨first.number + UInt8.ofInt n⟩

/-- The byte register with the given number. -/
def generalByte (n : Int) (rex : Bool) : Register :=
  if n < 4 then al.after n
  else if n < 8 then if rex then spl.after (n - 4) else ah.after (n - 4)
  else r8l.after (n - 8)

/-- The general purpose register with the given width and number. Byte registers are taken as
under a REX prefix. -/
def general (width : DataWidth) (n : Int) : Register :=
  match width with
  | .w8 => generalByte n true
  | .w16 => ax.after n
  | .w32 => eax.after n
  | .w64 => rax.after n

/-- The general purpose register with the given number of bits and number. -/
def ofBits (bits n : Int) : Except Misuse Register :=
  match DataWidth.ofBits? bits with
  | some width => .ok (general width n)
  | .none => .error (.registerWidth bits)

end Register

namespace RegisterFamily

/-- The first register of a numbered family and how many there are. The general purpose registers
are numbered by width instead, and the instruction pointers are not numbered. -/
def members? : RegisterFamily → Option (Register × Nat)
  | segment => some (⟨71⟩, 6)
  | x87 => some (⟨77⟩, 8)
  | mmx => some (⟨85⟩, 8)
  | control => some (⟨93⟩, 16)
  | debug => some (⟨109⟩, 16)
  | xmm => some (⟨125⟩, 32)
  | ymm => some (⟨157⟩, 32)
  | zmm => some (⟨189⟩, 32)
  | opmask => some (⟨221⟩, 8)
  | _ => none

/-- The register with the given number in a numbered family, or no register if the family ends
before it. -/
def member (family : RegisterFamily) (n : Int) : Except Misuse Register :=
  match family.members? with
  | some (first, count) =>
    .ok (if n < 0 ∨ (count : Int) ≤ n then Register.none else first.after n)
  | none => .error (.registerFamily family.text)

end RegisterFamily

/-- A class of registers that an operand selects from. -/
inductive RegisterClass where
  | general (width : DataWidth)
  | segment
  | control (width : WordSize)
  | debug (width : WordSize)
  | x87
  | mmx
  | xmm
  | ymm
  | zmm
  | opmask
deriving DecidableEq

namespace RegisterClass

/-- The family of the registers in a class. -/
def family : RegisterClass → RegisterFamily
  | general _ => .general
  | segment => .segment
  | control _ => .control
  | debug _ => .debug
  | x87 => .x87
  | mmx => .mmx
  | xmm => .xmm
  | ymm => .ymm
  | zmm => .zmm
  | opmask => .opmask

/-- The operand width in bits that a class stands for. -/
def bits : RegisterClass → Nat
  | general width => width.bits
  | segment => 16
  | control width => width.bits
  | debug width => width.bits
  | x87 => 80
  | mmx => 64
  | xmm => 128
  | ymm => 256
  | zmm => 512
  | opmask => 64

end RegisterClass

end X86Decoder
