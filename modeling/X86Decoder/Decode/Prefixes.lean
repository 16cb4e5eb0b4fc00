import X86Decoder.Decode.Reader
import X86Decoder.Prefix.Evex
import X86Decoder.Prefix.Vex

/-!
# Reading prefixes and the opcode

An instruction starts with legacy and REX prefixes in any order. What follows is an opcode, perhaps
after an escape to another opcode map, or an extended prefix that selects the map itself.
-/

namespace X86Decoder

namespace PrefixState

/-- The state without a REX prefix. -/
def clearRex (p : PrefixState) : PrefixState :=
  { p with rex := none, w := false, r := false, x := false, b := false }

/-- The state after a legacy prefix. It cancels a REX prefix that came before. In 64-bit mode ES,
CS, SS and DS are ignored once FS or GS has been selected. The last of F2 and F3 is the mandatory
prefix, and 66 is only where neither has been seen. -/
def addLegacy (p : PrefixState) (mode : Mode) (legacy : LegacyPrefix) : PrefixState :=
  clearRex <|
    match legacy with
    | .operandSize =>
      { p with
        operandSizeOverride := true
        mandatory := if p.mandatory = .none then .p66 else p.mandatory }
    | .addressSize => { p with addressSizeOverride := true }
    | .es | .cs | .ss | .ds =>
      if mode = .bits64 ∧ (p.segment = .fs ∨ p.segment = .gs) then p
      else { p with segment := legacy.segment }
    | .fs | .gs => { p with segment := legacy.segment }
    | .lock => { p with lock := true }
    | .repne => { p with repetition := some .repne, mandatory := .pF2 }
    | .repe => { p with repetition := some .repe, mandatory := .pF3 }

/-- The state after a REX prefix. -/
def addRex (p : PrefixState) (rex : Rex) : PrefixState :=
  { p with rex := some rex, w := rex.w, r := rex.r, x := rex.x, b := rex.b }

/-- The state after a byte, if the byte is a prefix. REX prefixes exist in 64-bit mode only. -/
def add? (p : PrefixState) (mode : Mode) (b : UInt8) : Option PrefixState :=
  match LegacyPrefix.ofByte? b with
  | some legacy => some (p.addLegacy mode legacy)
  | none => if mode = .bits64 ∧ Rex.isRex b then some (p.addRex ⟨b⟩) else none

/-- The state after a VEX or XOP prefix. Outside 64-bit mode the bits that extend register numbers
are ignored, and the top bit of the vvvv field with them. -/
def addVex (p : PrefixState) (mode : Mode) (v : Vex) : PrefixState :=
  let long := mode == .bits64
  { p with
    r := if long then !v.r else p.r
    x := if long then !v.x else p.x
    b := if long then !v.b else p.b
    w := v.w
    vvvv := ~~~v.vvvv &&& (if long then 0b1111 else 0b111)
    l := Bits.ofBool v.l
    mandatory := Mandatory.ofNumber v.pp }

/-- The state after an EVEX prefix. Outside 64-bit mode the bits that extend register numbers are
ignored, and the top bit of the vvvv field with them. -/
def addEvex (p : PrefixState) (mode : Mode) (e : Evex) : PrefixState :=
  let long := mode == .bits64
  { p with
    r := if long then !e.r else p.r
    x := if long then !e.x else p.x
    b := if long then !e.b else p.b
    rHigh := if long then !e.rHigh else p.rHigh
    xHigh := if long then !e.x else p.xHigh
    vHigh := if long then !e.vHigh else p.vHigh
    vvvv :=
      if long then (~~~e.vvvv &&& 0b1111) + (if e.vHigh then 0 else 16)
      else ~~~e.vvvv &&& 0b111
    w := e.w
    mandatory := Mandatory.ofNumber e.pp
    opmask := e.aaa
    zeroing := e.z
    broadcast := e.broadcast
    ll := e.ll
    l := e.ll }

/-- What is wrong with an extended prefix after these prefixes, if anything. -/
def faultBefore? (p : PrefixState) (encoding : EncodingKind) : Option PrefixFault :=
  if p.hasRex then some (.rexBefore encoding)
  else if p.mandatory ≠ .none then some (.mandatoryBefore p.mandatory encoding)
  else none

end PrefixState

namespace Evex

/-- What is wrong with the fixed bits of the prefix, if anything. -/
def fixedFault? (e : Evex) : Option PrefixFault :=
  if e.reserved ≠ 0 then some (.reservedBits e.reserved)
  else if !e.on then some .fixedBitClear
  else none

/-- What is wrong with the masking of the prefix, if anything. -/
def maskingFault? (e : Evex) : Option PrefixFault :=
  if e.z && e.aaa == 0 then some .zeroingWithoutOpmask else none

end Evex

namespace Reader

/-- Read bytes as long as they are prefixes, and then the byte that is none. The bytes not yet read
are given beside the state. -/
def scanPrefixes (mode : Mode) :
    List UInt8 → ReadState → Except DecodeFault UInt8 × ReadState
  | [], s =>
    (.error (if maxLength ≤ s.consumed then .tooLong else .truncated), { s with rest := [] })
  | b :: rest, s =>
    if maxLength ≤ s.consumed then (.error .tooLong, { s with rest := b :: rest })
    else
      match s.prefixes.add? mode b with
      | some p => scanPrefixes mode rest { s with consumed := s.consumed + 1, prefixes := p }
      | none => (.ok b, { s with rest := rest, consumed := s.consumed + 1 })

/-- Read the legacy and REX prefixes and the byte after them. -/
def legacyPrefixes (mode : Mode) : Reader UInt8 :=
  ExceptT.mk fun s => scanPrefixes mode s.rest s

/-- Refuse the prefixes that may not stand before an extended prefix. -/
def checkBefore (encoding : EncodingKind) : Reader Unit := do
  let p ← prefixes
  checkPrefixes (p.faultBefore? encoding)

/-- The opcode map that a VEX or EVEX prefix selects by number. -/
def vexMap? (n : UInt8) : Option OpcodeMap :=
  match n.toNat with
  | 1 => some .map0F
  | 2 => some .map0F38
  | 3 => some .map0F3A
  | _ => none

/-- The opcode map that an XOP prefix selects by number. -/
def xopMap? (n : UInt8) : Option OpcodeMap :=
  match n.toNat with
  | 8 => some .xop8
  | 9 => some .xop9
  | 10 => some .xopA
  | _ => none

/-- Record the encoding and the opcode map, which has to exist. -/
def selectMap (encoding : EncodingKind) (n : UInt8) (map? : Option OpcodeMap) : Reader Unit := do
  modifyPrefixes fun p => { p with encoding := encoding }
  match map? with
  | some map => modifyPrefixes fun p => { p with map := map }
  | none => refusePrefixes (.opcodeMap encoding n)

/-- Read the payload of a VEX or XOP prefix, one byte in the short form and two in the other. -/
def vexPayload (short : Bool) : Reader Vex :=
  if short then Vex.ofShort <$> byte
  else do
    let p0 ← byte
    let p1 ← byte
    return ⟨p0, p1⟩

/-- Read the payload of an EVEX prefix. -/
def evexPayload : Reader Evex := do
  let p0 ← byte
  let p1 ← byte
  let p2 ← byte
  return ⟨p0, p1, p2⟩

/-- Read the rest of a prefix with the fields of VEX, which numbers opcode maps in its own way. -/
def vexLikePrefix (encoding : EncodingKind) (map? : UInt8 → Option OpcodeMap) (mode : Mode)
    (short : Bool) : Reader Unit := do
  checkBefore encoding
  let v ← vexPayload short
  selectMap encoding v.mmmmm (map? v.mmmmm)
  modifyPrefixes fun p => p.addVex mode v

/-- Read the rest of a VEX prefix of two or three bytes. -/
def vexPrefix (mode : Mode) (short : Bool) : Reader Unit :=
  vexLikePrefix .vex vexMap? mode short

/-- Read the rest of an XOP prefix. -/
def xopPrefix (mode : Mode) : Reader Unit :=
  vexLikePrefix .xop xopMap? mode false

/-- Read the rest of an EVEX prefix. -/
def evexPrefix (mode : Mode) : Reader Unit := do
  checkBefore .evex
  let e ← evexPayload
  checkPrefixes e.fixedFault?
  selectMap .evex e.mm (vexMap? e.mm)
  modifyPrefixes fun p => p.addEvex mode e
  checkPrefixes e.maskingFault?

/-- Whether the next byte can be read and passes a test. -/
def nextIs (test : UInt8 → Bool) : Reader Bool := do
  let next ← peek?
  return next.any test

/-- Whether one of the bytes C4, C5 and 62 starts an extended prefix. Outside 64-bit mode they are
also opcodes with a memory operand, so there the next byte has to have a register in the place of
the ModR/M byte. -/
def startsExtended (mode : Mode) : Reader Bool :=
  if mode = .bits64 then return true else nextIs fun b => (ModRM.mk b).isRegister

/-- Whether the byte 8F starts an XOP prefix. As an opcode it has a zero reg field, so opcode maps
from 8 on tell the prefix. -/
def startsXop : Reader Bool :=
  nextIs fun b => decide (8 ≤ (b &&& 0x1f).toNat)

/-- Read the rest of an extended prefix and the opcode after it, if the byte that was read starts
one. Otherwise that byte is the opcode. -/
def extendedOpcode (b : UInt8) (starts : Reader Bool) (rest : Reader Unit) : Reader UInt8 := do
  let extended ← starts
  if extended then
    rest
    byte
  else return b

/-- Read the opcode after an escape byte. -/
def escapedOpcode : Reader UInt8 := do
  let b ← byte
  if b = 0x38 then
    modifyPrefixes fun p => { p with map := .map0F38 }
    byte
  else if b = 0x3a then
    modifyPrefixes fun p => { p with map := .map0F3A }
    byte
  else
    modifyPrefixes fun p => { p with map := .map0F }
    return b

/-- Read the rest of the opcode that starts with the given byte, or that has an extended prefix
which does. -/
def opcodeFrom (mode : Mode) (b : UInt8) : Reader UInt8 :=
  if b = 0xc4 ∨ b = 0xc5 then
    extendedOpcode b (startsExtended mode) (vexPrefix mode (b == 0xc5))
  else if b = 0x62 then extendedOpcode b (startsExtended mode) (evexPrefix mode)
  else if b = 0x8f then extendedOpcode b startsXop (xopPrefix mode)
  else if b = 0x0f then escapedOpcode
  else return b

/-- Read the prefixes and the opcode. Without an extended prefix or an escape byte the opcode is in
the primary map. -/
def opcode (mode : Mode) : Reader UInt8 := do
  let b ← legacyPrefixes mode
  modifyPrefixes fun p => { p with encoding := .legacy, map := .primary }
  opcodeFrom mode b

end Reader

end X86Decoder
