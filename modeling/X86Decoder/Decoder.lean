import X86Decoder.Decode.Basic

/-!
# Decoders

A decoder walks through data one instruction at a time. A failure to decode leaves it where it is.
-/

namespace X86Decoder

/-- A decoder: its data, its place in them, and the reader that it uses for one instruction after
the other. -/
structure Decoder where
  /-- The mode. -/
  mode : Mode
  /-- The machine code. -/
  data : List UInt8
  /-- The instruction pointer of the first byte. -/
  ip : UInt64
  /-- The offset of the next instruction. -/
  position : Nat := 0
  /-- The reader, as the last instruction left it. -/
  reader : ReadState := { rest := [] }

namespace Decoder

/-- A decoder for the data in a stated mode. The mode has to exist and there have to be data. -/
def new (mode : StatedMode) (data : List UInt8) (ip : UInt64) : Except Misuse Decoder :=
  match mode with
  | .other bits => .error (.invalidMode bits.toNat)
  | .known mode => if data.isEmpty then .error .noData else .ok { mode, data, ip }

/-- What the prefixes of the last instruction say. -/
def prefixes (d : Decoder) : PrefixState :=
  d.reader.prefixes

/-- The instruction pointer of the next instruction. -/
def currentIp (d : Decoder) : UInt64 :=
  d.ip + d.position.toUInt64

/-- Whether any data remain. -/
def canDecode (d : Decoder) : Bool :=
  decide (d.position < d.data.length)

/-- Move to an offset, which has to lie in the data or at their end. -/
def setPosition (d : Decoder) (position : Int) : Except Misuse Decoder :=
  if position < 0 ∨ (d.data.length : Int) < position then
    .error (.positionOutOfRange position d.data.length)
  else .ok { d with position := position.toNat }

/-- Decode the next instruction and move past it. The reader is cleared first, and the decoder has
to be within its data. -/
def next (d : Decoder) : Except DecodeError Instruction × Decoder :=
  if d.data.length < d.position then (.error ⟨0, .misuse .outOfBounds⟩, d)
  else
    let decoded := decodeFrom d.mode (d.reader.reset (d.data.drop d.position)) d.currentIp
    match decoded.outcome with
    | .ok inst =>
      (.ok inst, { d with position := d.position + inst.length, reader := decoded.state })
    | .error e => (.error e, { d with reader := decoded.state })

end Decoder

end X86Decoder
