import X86Decoder.Bits

/-!
# REX prefixes

The byte `0100WRXB`, which in 64-bit mode widens the operand and extends register numbers.
-/

namespace X86Decoder

/-- A REX prefix byte. -/
structure Rex where
  /-- The packed byte; zero when there is no prefix. -/
  byte : UInt8
deriving DecidableEq

namespace Rex

/-- Whether a byte is a REX prefix. This has a meaning in 64-bit mode only. -/
def isRex (byte : UInt8) : Bool :=
  byte &&& 0xf0 == 0x40

/-- Whether the fixed bit that marks the prefix is set. -/
def on (r : Rex) : Bool := Bits.get r.byte 6

/-- The operand is 64 bits wide. -/
def w (r : Rex) : Bool := Bits.get r.byte 3

/-- Extends the reg field. -/
def r (r : Rex) : Bool := Bits.get r.byte 2

/-- Extends the index field. -/
def x (r : Rex) : Bool := Bits.get r.byte 1

/-- Extends the rm, base or opcode register field. -/
def b (r : Rex) : Bool := Bits.get r.byte 0

/-- A write to one field. -/
inductive Update where
  | on
  | w (value : Bool)
  | r (value : Bool)
  | x (value : Bool)
  | b (value : Bool)

/-- The prefix after a write. -/
def apply (rex : Rex) : Update → Rex
  | .on => ⟨rex.byte ||| (1 : UInt8) <<< 6⟩
  | .w v => ⟨Bits.set rex.byte 0b11110111 3 v⟩
  | .r v => ⟨Bits.set rex.byte 0b11111011 2 v⟩
  | .x v => ⟨Bits.set rex.byte 0b11111101 1 v⟩
  | .b v => ⟨Bits.set rex.byte 0b11111110 0 v⟩

/-- The byte in binary, with a letter for each field that is set. -/
def text (rex : Rex) : String :=
  let letter (set : Bool) (name : String) := if set then name else "0"
  "0100" ++ letter rex.w "W" ++ letter rex.r "R" ++ letter rex.x "X" ++ letter rex.b "B"

end Rex

end X86Decoder
