import X86Decoder.Bits
import X86Decoder.Text.Numeral

/-!
# EVEX prefixes

An EVEX prefix is held as its three payload bytes:

```
| 7  6  5  4   3  2  1  0 |
| R  X  B  R'  0  0  m  m | P0
| W  v  v  v   v  1  p  p | P1
| z  L' L  b   V' a  a  a | P2
```
-/

namespace X86Decoder

/-- The payload of an EVEX prefix. -/
structure Evex where
  /-- The first payload byte. -/
  p0 : UInt8
  /-- The second payload byte. -/
  p1 : UInt8
  /-- The third payload byte. -/
  p2 : UInt8
deriving DecidableEq

namespace Evex

/-- Extends the reg field by 8 when clear. -/
def r (e : Evex) : Bool := Bits.get e.p0 7

/-- Extends the index field by 8, and a register rm field by 16, when clear. -/
def x (e : Evex) : Bool := Bits.get e.p0 6

/-- Extends the rm or base field by 8 when clear. -/
def b (e : Evex) : Bool := Bits.get e.p0 5

/-- Extends the reg field by 16 when clear. -/
def rHigh (e : Evex) : Bool := Bits.get e.p0 4

/-- Selects the opcode map. -/
def mm (e : Evex) : UInt8 := Bits.getRun e.p0 0 0b11

/-- The bits of the first payload byte that must be zero, in place. -/
def reserved (e : Evex) : UInt8 := e.p0 &&& 0b1100

/-- Widens the operand or tells apart two instructions. -/
def w (e : Evex) : Bool := Bits.get e.p1 7

/-- The complement of the low four bits of a register number. -/
def vvvv (e : Evex) : UInt8 := Bits.getRun e.p1 3 0b1111

/-- The bit of the second payload byte that must be set. -/
def on (e : Evex) : Bool := Bits.get e.p1 2

/-- The mandatory prefix. -/
def pp (e : Evex) : UInt8 := Bits.getRun e.p1 0 0b11

/-- Zeroes the masked elements instead of keeping them. -/
def z (e : Evex) : Bool := Bits.get e.p2 7

/-- The high bit of the vector length. -/
def lHigh (e : Evex) : Bool := Bits.get e.p2 6

/-- The low bit of the vector length. -/
def l (e : Evex) : Bool := Bits.get e.p2 5

/-- Broadcasts, rounds or suppresses exceptions, by the instruction. -/
def broadcast (e : Evex) : Bool := Bits.get e.p2 4

/-- Extends the vvvv or vector index field by 16 when clear. -/
def vHigh (e : Evex) : Bool := Bits.get e.p2 3

/-- The opmask register. -/
def aaa (e : Evex) : UInt8 := Bits.getRun e.p2 0 0b111

/-- The two bits of the vector length or rounding mode. -/
def ll (e : Evex) : UInt8 :=
  (Bits.ofBool e.lHigh <<< 1) ||| Bits.ofBool e.l

/-- A write to one field, or to all fields that have a default. -/
inductive Update where
  | r (value : Bool)
  | x (value : Bool)
  | b (value : Bool)
  | rHigh (value : Bool)
  | mm (value : UInt8)
  | w (value : Bool)
  | vvvv (value : UInt8)
  | on (value : Bool)
  | pp (value : UInt8)
  | z (value : Bool)
  | lHigh (value : Bool)
  | l (value : Bool)
  | broadcast (value : Bool)
  | vHigh (value : Bool)
  | aaa (value : UInt8)
  | default

/-- The prefix after a write. The default sets the fixed bit and the fields that are held
complemented. -/
def apply (e : Evex) : Update → Evex
  | .r v => { e with p0 := Bits.set e.p0 0b01111111 7 v }
  | .x v => { e with p0 := Bits.set e.p0 0b10111111 6 v }
  | .b v => { e with p0 := Bits.set e.p0 0b11011111 5 v }
  | .rHigh v => { e with p0 := Bits.set e.p0 0b11101111 4 v }
  | .mm n => { e with p0 := Bits.setRun e.p0 0b11111100 0 0b11 n }
  | .w v => { e with p1 := Bits.set e.p1 0b01111111 7 v }
  | .vvvv n => { e with p1 := Bits.setRun e.p1 0b10000111 3 0b1111 n }
  | .on v => { e with p1 := Bits.set e.p1 0b11111011 2 v }
  | .pp n => { e with p1 := Bits.setRun e.p1 0b11111100 0 0b11 n }
  | .z v => { e with p2 := Bits.set e.p2 0b01111111 7 v }
  | .lHigh v => { e with p2 := Bits.set e.p2 0b10111111 6 v }
  | .l v => { e with p2 := Bits.set e.p2 0b11011111 5 v }
  | .broadcast v => { e with p2 := Bits.set e.p2 0b11101111 4 v }
  | .vHigh v => { e with p2 := Bits.set e.p2 0b11110111 3 v }
  | .aaa n => { e with p2 := Bits.setRun e.p2 0b11111000 0 0b111 n }
  | .default =>
    { p0 := Bits.set (Bits.set (Bits.set (Bits.set e.p0 0b01111111 7 true) 0b10111111 6 true)
        0b11011111 5 true) 0b11101111 4 true
      p1 := Bits.set (Bits.setRun e.p1 0b10000111 3 0b1111 0b1111) 0b11111011 2 true
      p2 := Bits.set e.p2 0b11110111 3 true }

/-- The whole prefix. -/
def bytes (e : Evex) : List UInt8 :=
  [0x62, e.p0, e.p1, e.p2]

/-- The fields in binary. -/
def text (e : Evex) : String :=
  let bit (b : Bool) := if b then "1" else "0"
  "\x7bR: " ++ bit e.r ++ ", X: " ++ bit e.x ++ ", B: " ++ bit e.b ++ ", R': " ++ bit e.rHigh
    ++ ", mm: " ++ Text.binaryPadded 2 e.mm.toNat ++ " // W: " ++ bit e.w
    ++ ", vvvv: " ++ Text.binaryPadded 4 e.vvvv.toNat ++ ", pp: " ++ Text.binaryPadded 2 e.pp.toNat
    ++ " // z: " ++ bit e.z ++ ", L': " ++ bit e.lHigh ++ ", L: " ++ bit e.l
    ++ ", b: " ++ bit e.broadcast ++ ", V': " ++ bit e.vHigh
    ++ ", aaa: " ++ Text.binaryPadded 3 e.aaa.toNat ++ "\x7d"

end Evex

end X86Decoder
