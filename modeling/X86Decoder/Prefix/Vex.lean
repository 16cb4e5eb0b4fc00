import X86Decoder.Bits
import X86Decoder.Text.Numeral

/-!
# VEX prefixes

A VEX prefix is held as the two payload bytes of its three-byte form:

```
| 7  6  5  4   3  2  1  0 |
| R  X  B  m   m  m  m  m | P0
| W  v  v  v   v  L  p  p | P1
```

The one payload byte of the two-byte form holds R above the low seven bits of P1. XOP prefixes
share the three-byte layout.
-/

namespace X86Decoder

/-- The payload of a three-byte VEX or XOP prefix. -/
structure Vex where
  /-- The first payload byte. -/
  p0 : UInt8
  /-- The second payload byte. -/
  p1 : UInt8
deriving DecidableEq

namespace Vex

/-- The prefix that the payload byte of a two-byte form stands for: X and B are set, W is clear,
and the opcode map is 0F. -/
def ofShort (payload : UInt8) : Vex :=
  ⟨(payload &&& 0b10000000) ||| 0b01100001, payload &&& 0b01111111⟩

/-- Extends the reg field when clear. -/
def r (v : Vex) : Bool := Bits.get v.p0 7

/-- Extends the index field when clear. -/
def x (v : Vex) : Bool := Bits.get v.p0 6

/-- Extends the rm or base field when clear. -/
def b (v : Vex) : Bool := Bits.get v.p0 5

/-- Selects the opcode map. -/
def mmmmm (v : Vex) : UInt8 := Bits.getRun v.p0 0 0b11111

/-- Widens the operand or tells apart two instructions. -/
def w (v : Vex) : Bool := Bits.get v.p1 7

/-- The complement of a register number. -/
def vvvv (v : Vex) : UInt8 := Bits.getRun v.p1 3 0b1111

/-- The vector length. -/
def l (v : Vex) : Bool := Bits.get v.p1 2

/-- The mandatory prefix. -/
def pp (v : Vex) : UInt8 := Bits.getRun v.p1 0 0b11

/-- A write to one field, or to all fields that are held complemented. -/
inductive Update where
  | r (value : Bool)
  | x (value : Bool)
  | b (value : Bool)
  | mmmmm (value : UInt8)
  | w (value : Bool)
  | vvvv (value : UInt8)
  | l (value : Bool)
  | pp (value : UInt8)
  | default

/-- The prefix after a write. The default sets the fields that are held complemented. -/
def apply (v : Vex) : Update → Vex
  | .r b => { v with p0 := Bits.set v.p0 0b01111111 7 b }
  | .x b => { v with p0 := Bits.set v.p0 0b10111111 6 b }
  | .b b => { v with p0 := Bits.set v.p0 0b11011111 5 b }
  | .mmmmm n => { v with p0 := Bits.setRun v.p0 0b11100000 0 0b11111 n }
  | .w b => { v with p1 := Bits.set v.p1 0b01111111 7 b }
  | .vvvv n => { v with p1 := Bits.setRun v.p1 0b10000111 3 0b1111 n }
  | .l b => { v with p1 := Bits.set v.p1 0b11111011 2 b }
  | .pp n => { v with p1 := Bits.setRun v.p1 0b11111100 0 0b11 n }
  | .default =>
    { p0 := Bits.set (Bits.set (Bits.set v.p0 0b01111111 7 true) 0b10111111 6 true)
        0b11011111 5 true
      p1 := Bits.setRun v.p1 0b10000111 3 0b1111 0b1111 }

/-- Whether there is a prefix at all: no opcode map has the number zero. -/
def on (v : Vex) : Bool :=
  v.mmmmm != 0

/-- Whether the prefix has a two-byte form. -/
def hasShort (v : Vex) : Bool :=
  v.x && v.b && !v.w && v.mmmmm == 1

/-- The two-byte form, for a prefix that has one. -/
def short (v : Vex) : List UInt8 :=
  [0xc5, (v.apply (.w v.r)).p1]

/-- The three-byte form. -/
def long (v : Vex) : List UInt8 :=
  [0xc4, v.p0, v.p1]

/-- The fields in binary. -/
def text (v : Vex) : String :=
  let bit (b : Bool) := if b then "1" else "0"
  "\x7bR: " ++ bit v.r ++ ", X: " ++ bit v.x ++ ", B: " ++ bit v.b
    ++ ", m-mmmm: " ++ Text.binaryPadded 5 v.mmmmm.toNat ++ ", W: " ++ bit v.w
    ++ ", vvvv: " ++ Text.binaryPadded 4 v.vvvv.toNat ++ ", L: " ++ bit v.l
    ++ ", pp: " ++ Text.binaryPadded 2 v.pp.toNat ++ "\x7d"

end Vex

end X86Decoder
