import X86Decoder.Decode.Reader

/-!
# Reading a memory operand

The address of a ModR/M memory operand: base and index registers, the scale of the index, and a
displacement. Addresses of 16 bits have eight fixed pairs of registers; wider ones may have a SIB
byte, and in 64-bit mode may be relative to the instruction pointer.
-/

namespace X86Decoder

/-- The segment of a memory operand: the override if there is one, else the stack segment for an
address on the stack, else the data segment. -/
def PrefixState.memorySegment (p : PrefixState) (stack : Bool) : Register :=
  if p.segment ≠ .none then p.segment else if stack then .ss else .ds

/-- The base and index registers of the 16-bit addresses, by rm field. -/
def addressPairs16 : List (Register × Register) :=
  [(.bx, .si), (.bx, .di), (.bp, .si), (.bp, .di), (.si, .none), (.di, .none), (.bp, .none),
   (.bx, .none)]

/-- The base and index registers of a 16-bit address. -/
def addressPair16 (rm : UInt8) : Except Misuse (Register × Register) :=
  match addressPairs16[rm.toNat]? with
  | some pair => .ok pair
  | none => .error .outOfBounds

/-- Whether an address with this base is on the stack. -/
def isStackBase (base : Register) : Bool :=
  base == .bp || base == .esp || base == .ebp || base == .rsp || base == .rbp

/-- What the scale field multiplies an index by, which is one without an index. -/
def Sib.factor (s : Sib) (index : Register) : Int :=
  if index = .none then 1 else (1 <<< s.scale.toNat : Nat)

/-- A register number whose bit 3 is given apart. -/
def extended (high : Bool) (n : UInt8) : Nat :=
  n.toNat + (if high then 8 else 0)

namespace Reader

/-- Read a displacement of the given number of bytes, which may be zero. It is sign extended and
then cut to the address size. One byte under an EVEX prefix is multiplied by the unit of the
form. -/
def displacement (p : PrefixState) (f : Form) (size : Nat) (address : WordSize) :
    Reader (UInt64 × Span) := do
  if size = 0 then return (0, {})
  else
    let start ← position
    let raw ← number size
    let value := Word.signed (8 * size) raw
    let vectorBits := if f.scale.vectorBits = 0 then p.vectorBits else f.scale.vectorBits
    let unit :=
      if size = 1 ∧ p.encoding = .evex then
        f.scale.tuple.unit vectorBits f.scale.elementSize p.w p.broadcast
      else 1
    return (Word.truncate address.bits (UInt64.ofInt (value * unit)), ⟨start, size⟩)

/-- Read the rest of a memory operand with the given base, index, scale and displacement size. -/
def address (p : PrefixState) (f : Form) (width : WordSize) (base index : Register) (scale : Int)
    (size : Nat) : Reader (MemoryReference × Span) := do
  let (value, span) ← displacement p f size width
  return ({ segment := p.memorySegment (isStackBase base), base := base, index := index,
            scale := scale, displacement := value, displacementSize := size }, span)

/-- Read a memory operand with a 16-bit address. -/
def memory16 (p : PrefixState) (f : Form) (m : ModRM) : Reader (MemoryReference × Span) := do
  let (base, index) ← request (addressPair16 m.rm)
  if m.mod = 0 then
    if m.rm = 6 then address p f .w16 .none index 1 2 else address p f .w16 base index 1 0
  else if m.mod = 1 then address p f .w16 base index 1 1
  else address p f .w16 base index 1 2

/-- The index register of a SIB byte. Number 4 is no index, except among vector registers. -/
def indexRegister (p : PrefixState) (width : WordSize) (vsib : Option RegisterClass) (s : Sib) :
    Except Misuse Register :=
  let n := extended p.x s.index
  match vsib with
  | some cls => cls.family.member (n + if p.vHigh then 16 else 0 : Nat)
  | none => if n = 4 then .ok .none else Register.ofBits width.bits n

/-- The number of displacement bytes that the mod field asks for. -/
def displacementSize (m : ModRM) : Nat :=
  if m.mod = 1 then 1 else if m.mod = 2 then 4 else 0

/-- Read a memory operand with a SIB byte. -/
def memorySib (p : PrefixState) (f : Form) (m : ModRM) (width : WordSize) :
    Reader (MemoryReference × Span) := do
  let s ← Sib.mk <$> byte
  let index ← request (indexRegister p width f.vsib? s)
  if s.base = 5 ∧ m.mod = 0 then address p f width .none index (s.factor index) 4
  else
    let base ← request (Register.ofBits width.bits (extended p.b s.base))
    address p f width base index (s.factor index) (displacementSize m)

/-- Read a memory operand that is relative to the instruction pointer. Its target is known once the
length of the instruction is. -/
def memoryRelative (p : PrefixState) (f : Form) (width : WordSize) :
    Reader (MemoryReference × Span) := do
  let result ← address p f width (if width = .w32 then .eip else .rip) .none 1 4
  setRelative true
  return result

/-- Read a memory operand with a 32-bit or 64-bit address. -/
def memory32 (p : PrefixState) (mode : Mode) (f : Form) (m : ModRM) (width : WordSize) :
    Reader (MemoryReference × Span) := do
  if m.rm = 4 then memorySib p f m width
  else if f.vsib?.isSome then refuseModRM .vsibWithoutSib
  else if m.rm = 5 ∧ m.mod = 0 then
    if mode = .bits64 then memoryRelative p f width else address p f width .none .none 1 4
  else
    let base ← request (Register.ofBits width.bits (extended p.b m.rm))
    address p f width base .none 1 (displacementSize m)

/-- Read the memory operand of a ModR/M byte. -/
def memory (p : PrefixState) (mode : Mode) (f : Form) (m : ModRM) :
    Reader (MemoryReference × Span) :=
  match p.addressSize mode with
  | .w16 => if f.vsib?.isSome then refuseModRM .vsibIn16 else memory16 p f m
  | .w32 => memory32 p mode f m .w32
  | .w64 => memory32 p mode f m .w64

end Reader

end X86Decoder
