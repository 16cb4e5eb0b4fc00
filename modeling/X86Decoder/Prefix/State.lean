import X86Decoder.Encoding
import X86Decoder.Mode
import X86Decoder.Prefix.Legacy
import X86Decoder.Prefix.Rex

/-!
# Prefix state

What the prefixes of one instruction say, in one shape for all encodings. Bits that a prefix holds
complemented are stored as they act, so `r` extends the reg field whichever prefix it came from.
-/

namespace X86Decoder

/-- A repeat prefix; the last one wins. -/
inductive Repetition where
  | repe
  | repne
deriving DecidableEq

/-- What the prefixes of one instruction say. -/
structure PrefixState where
  /-- The encoding of the instruction. -/
  encoding : EncodingKind := .legacy
  /-- The opcode map of the instruction. -/
  map : OpcodeMap := .primary
  /-- The segment override in force, or no register. -/
  segment : Register := .none
  /-- A 66 prefix was present. -/
  operandSizeOverride : Bool := false
  /-- A 67 prefix was present. -/
  addressSizeOverride : Bool := false
  /-- A lock prefix was present. -/
  lock : Bool := false
  /-- The last repeat prefix. -/
  repetition : Option Repetition := none
  /-- The mandatory prefix. -/
  mandatory : Mandatory := .none
  /-- The REX prefix in force. -/
  rex : Option Rex := none
  /-- W of a REX, VEX, XOP or EVEX prefix. -/
  w : Bool := false
  /-- Extends the reg field by 8. -/
  r : Bool := false
  /-- Extends the index field by 8. -/
  x : Bool := false
  /-- Extends the rm, base or opcode register field by 8. -/
  b : Bool := false
  /-- The register number of the vvvv field. -/
  vvvv : UInt8 := 0
  /-- The vector length field. -/
  l : UInt8 := 0
  /-- Extends the reg field by 16. -/
  rHigh : Bool := false
  /-- Extends a register rm field by 16. -/
  xHigh : Bool := false
  /-- Extends the vvvv or vector index field by 16. -/
  vHigh : Bool := false
  /-- The opmask field. -/
  opmask : UInt8 := 0
  /-- Zeroes the masked elements. -/
  zeroing : Bool := false
  /-- The b bit of an EVEX prefix. -/
  broadcast : Bool := false
  /-- The vector length field as stored, which may hold a rounding mode. -/
  ll : UInt8 := 0
deriving DecidableEq

namespace PrefixState

/-- The state before the first prefix of an instruction. -/
def reset (_ : PrefixState) : PrefixState := {}

/-- Whether a REX prefix is in force. -/
def hasRex (p : PrefixState) : Bool :=
  p.rex.isSome

/-- The operand size of an instruction. In 64-bit mode it is 64 bits under W, or always for a form
that forces it; a 66 prefix makes it 16 bits, and a form may have a default of 64 bits. In the other
modes 66 toggles between 16 and 32 bits. -/
def operandSize (p : PrefixState) (mode : Mode) (default64 force64 : Bool) : WordSize :=
  match mode with
  | .bits64 =>
    if force64 || p.w then .w64
    else if p.operandSizeOverride then .w16
    else if default64 then .w64
    else .w32
  | .bits32 => if p.operandSizeOverride then .w16 else .w32
  | .bits16 => if p.operandSizeOverride then .w32 else .w16

/-- The address size of an instruction. -/
def addressSize (p : PrefixState) (mode : Mode) : WordSize :=
  match mode with
  | .bits64 => if p.addressSizeOverride then .w32 else .w64
  | .bits32 => if p.addressSizeOverride then .w16 else .w32
  | .bits16 => if p.addressSizeOverride then .w32 else .w16

/-- The operand size in bits in a stated mode. -/
def operandBits (p : PrefixState) (mode : StatedMode) (default64 force64 : Bool) : Int :=
  match mode with
  | .known mode => (p.operandSize mode default64 force64).bits
  | .other _ => if p.operandSizeOverride then 48 - mode.operandBits else mode.operandBits

/-- The address size in bits in a stated mode. -/
def addressBits (p : PrefixState) (mode : StatedMode) : Int :=
  match mode with
  | .known mode => (p.addressSize mode).bits
  | .other n => if p.addressSizeOverride then 48 - (n.toNat : Int) else n.toNat

/-- The vector length in bits, as a signed 64-bit number. -/
def vectorBits (p : PrefixState) : Int :=
  Int.bmod (128 <<< p.l.toNat : Nat) 0x10000000000000000

end PrefixState

end X86Decoder
