import X86Decoder.Proofs.Bits
import X86Decoder.Proofs.PositionIndependence

/-!
# Addresses by the tables of the architecture

What address the ModR/M byte, the SIB byte and the displacement stand for, stated over the bytes
themselves and the values that the registers hold. Reading a memory operand yields registers, a
scale and a displacement that come to the same address, modulo the address size.

* `Addressing.effective`: the address that bytes stand for.
* `MemoryReference.target`: the address that a memory operand stands for.
* `Reader.describes_memory`: reading a memory operand.
* `Reader.gathers_memory`: the same for a vector of indices.
-/

namespace X86Decoder

/-! ### Signed numbers -/

namespace Word

/-- The signed number whose bytes are given, lowest first, in two's complement. -/
def twosComplement (bs : List UInt8) : Int :=
  if 2 * littleEndian bs < Nat.pow 256 bs.length then littleEndian bs
  else (littleEndian bs : Int) - (Nat.pow 256 bs.length : Nat)

theorem littleEndian_lt (bs : List UInt8) : littleEndian bs < Nat.pow 256 bs.length := by
  induction bs with
  | nil => decide
  | cons b bs ih =>
    have hb := b.toNat_lt
    have hpow : Nat.pow 256 (bs.length + 1) = Nat.pow 256 bs.length * 256 := rfl
    rw [littleEndian, List.length_cons]
    omega

theorem signed_littleEndian {bs : List UInt8} (h : bs.length ≤ 8) :
    signed (8 * bs.length) (UInt64.ofNat (littleEndian bs)) = twosComplement bs := by
  have hlt := littleEndian_lt bs
  have hpow : Nat.pow 2 (8 * bs.length) = Nat.pow 256 bs.length := Nat.pow_mul 2 8 bs.length
  have hword : littleEndian bs < UInt64.size :=
    Nat.lt_of_lt_of_le hlt (Nat.pow_le_pow_right (by decide) h)
  rw [signed, UInt64.toNat_ofNat_of_lt' hword, hpow, twosComplement, Int.bmod,
    Int.emod_eq_of_lt (Int.natCast_nonneg _) (Int.ofNat_lt.2 hlt)]
  split <;> split <;> omega

/-- A number that is put into a word keeps its low bits. -/
theorem ofInt_modEq {bits : Nat} (h : bits ≤ 64) (z : Int) :
    ((UInt64.ofInt z).toNat : Int) ≡ z [ZMOD (Nat.pow 2 bits : Nat)] := by
  have hnonneg : 0 ≤ z % (Nat.pow 2 64 : Nat) := Int.emod_nonneg z (by decide)
  have hlt : z % (Nat.pow 2 64 : Nat) < (Nat.pow 2 64 : Nat) := Int.emod_lt_of_pos z (by decide)
  have hword : ((UInt64.ofInt z).toNat : Int) = z % (Nat.pow 2 64 : Nat) := by
    change ((UInt64.ofNat (z % (Nat.pow 2 64 : Nat)).toNat).toNat : Int) = _
    rw [UInt64.toNat_ofNat_of_lt' ((Int.toNat_lt hnonneg).2 hlt), Int.toNat_of_nonneg hnonneg]
  refine modEq_of_le h ?_
  rw [hword]
  exact Int.mod_modEq _ _

/-- The sign of a number of four bytes is that of a word with the same four bytes. -/
theorem signExtend_modEq {bits : Nat} (h : bits ≤ 64) {v : UInt64} {z : Int}
    (hv : (v.toNat : Int) ≡ z [ZMOD (Nat.pow 2 32 : Nat)])
    (hlow : -(Nat.pow 2 32 : Nat) ≤ 2 * z) (hhigh : 2 * z < (Nat.pow 2 32 : Nat)) :
    ((signExtend 32 v).toNat : Int) ≡ z [ZMOD (Nat.pow 2 bits : Nat)] := by
  -- A number within the bounds is the only one of its class.
  have hsigned : signed 32 v = z := by
    rw [signed, Int.bmod, hv.eq]
    change -4294967296 ≤ 2 * z at hlow
    change 2 * z < 4294967296 at hhigh
    change (if z % 4294967296 < (4294967296 + 1) / 2 then z % 4294967296
      else z % 4294967296 - 4294967296) = z
    split <;> omega
  rw [signExtend, hsigned]
  exact ofInt_modEq h z

theorem twosComplement_bounds (bs : List UInt8) :
    -(Nat.pow 256 bs.length : Nat) ≤ 2 * twosComplement bs ∧
      2 * twosComplement bs < (Nat.pow 256 bs.length : Nat) := by
  have hlt := littleEndian_lt bs
  rw [twosComplement]
  split <;> omega

end Word

/-! ### The tables -/

/-- The general purpose register of the given width that machine code numbers so. -/
def Register.numbered (width : WordSize) (n : Nat) : Register :=
  (Register.all.find? fun r =>
    r.family == .general && r.bits == width.bits && r.index == n).getD .none

/-- What a register adds to an address, which is nothing if there is none. -/
def Register.content (value : Register → Int) (r : Register) : Int :=
  if r = .none then 0 else value r

/-- What the bytes of an address do not say themselves. -/
structure Addressing where
  /-- The mode. -/
  mode : Mode
  /-- The address size. -/
  width : WordSize
  /-- Extends an index by 8. -/
  x : Bool
  /-- Extends a base by 8. -/
  b : Bool
  /-- What a displacement of one byte is counted in. -/
  unit : Int
  /-- The instruction pointer of the next instruction. -/
  next : UInt64

namespace Addressing

variable (a : Addressing) (value : Register → Int)

/-- A displacement of the given number of bytes. -/
def displacement (size : Nat) (bytes : List UInt8) : Int :=
  if size = 1 then Word.twosComplement (bytes.take size) * a.unit
  else Word.twosComplement (bytes.take size)

/-- The registers of a 16-bit address, by rm field. -/
def pair16 : Nat → Int
  | 0 => value .bx + value .si
  | 1 => value .bx + value .di
  | 2 => value .bp + value .si
  | 3 => value .bp + value .di
  | 4 => value .si
  | 5 => value .di
  | 6 => value .bp
  | _ => value .bx

/-- The number of displacement bytes that the mod field asks for: none, one or all. -/
def displacementSize (all mod : Nat) : Nat :=
  if mod = 1 then 1 else if mod = 2 then all else 0

/-- A 16-bit address. -/
def effective16 (modrm : UInt8) (bytes : List UInt8) : Int :=
  let mod := modrm.toNat / 64
  let rm := modrm.toNat % 8
  -- BP alone takes a displacement, and without one its place is that of a displacement alone.
  if mod = 0 ∧ rm = 6 then a.displacement 2 bytes
  else pair16 value rm + a.displacement (displacementSize 2 mod) bytes

/-- The base with the given number, and the displacement that the mod field asks for. -/
def based (mod n : Nat) (bytes : List UInt8) : Int :=
  value (.numbered a.width (n + if a.b then 8 else 0)) +
    a.displacement (displacementSize 4 mod) bytes

/-- A 32-bit or 64-bit address without the index. With mod 0 there is no base if its number would be
5, only a displacement of four bytes. -/
def origin (modrm : UInt8) (bytes : List UInt8) : Int :=
  let mod := modrm.toNat / 64
  let rm := modrm.toNat % 8
  -- The number of SP stands for a SIB byte, whose base may be SP.
  if rm = 4 then
    let n := (bytes.headD 0).toNat % 8
    if mod = 0 ∧ n = 5 then a.displacement 4 bytes.tail else a.based value mod n bytes.tail
  -- In 64-bit mode a displacement alone counts from the next instruction.
  else if mod = 0 ∧ rm = 5 then
    a.displacement 4 bytes + if a.mode = .bits64 then (a.next.toNat : Int) else 0
  else a.based value mod rm bytes

/-- The number in the index field of a SIB byte. -/
def indexNumber (sib : UInt8) : Nat :=
  sib.toNat / 8 % 8 + if a.x then 8 else 0

/-- The factor in the scale field of a SIB byte. -/
def scale (sib : UInt8) : Int :=
  (Nat.pow 2 (sib.toNat / 64) : Nat)

/-- The index of a 32-bit or 64-bit address, times its scale. -/
def scaledIndex (modrm : UInt8) (bytes : List UInt8) : Int :=
  let sib := bytes.headD 0
  -- Number 4 is no index, so SP cannot be one. With the extension it is R12, which can.
  if modrm.toNat % 8 = 4 ∧ a.indexNumber sib ≠ 4 then
    scale sib * value (.numbered a.width (a.indexNumber sib))
  else 0

/-- The address that the ModR/M byte and those after it stand for. -/
def effective (modrm : UInt8) (bytes : List UInt8) : Int :=
  match a.width with
  | .w16 => a.effective16 value modrm bytes
  | _ => a.origin value modrm bytes + a.scaledIndex value modrm bytes

end Addressing

/-- What a displacement of one byte is counted in: under an EVEX prefix the unit of the form. -/
def Form.displacementUnit (f : Form) (p : PrefixState) : Int :=
  if p.encoding = .evex then
    f.scale.tuple.unit (if f.scale.vectorBits = 0 then p.vectorBits else f.scale.vectorBits)
      f.scale.elementSize p.w p.broadcast
  else 1

/-- The width of addresses in a mode, without and with the prefix 67. -/
def Mode.addressWidth : Mode → Bool → WordSize
  | bits16, false => .w16
  | bits16, true => .w32
  | bits32, false => .w32
  | bits32, true => .w16
  | bits64, false => .w64
  | bits64, true => .w32

/-- What the prefixes and the form say about an address. -/
def PrefixState.addressing (p : PrefixState) (mode : Mode) (f : Form) (next : UInt64) :
    Addressing where
  mode := mode
  width := mode.addressWidth p.addressSizeOverride
  x := p.x
  b := p.b
  unit := f.displacementUnit p
  next := next

@[simp]
theorem PrefixState.mode_addressing (p : PrefixState) (mode : Mode) (f : Form) (next : UInt64) :
    (p.addressing mode f next).mode = mode := rfl

@[simp]
theorem PrefixState.width_addressing (p : PrefixState) (mode : Mode) (f : Form) (next : UInt64) :
    (p.addressing mode f next).width = p.addressSize mode := by
  unfold addressing addressSize
  cases mode <;> cases p.addressSizeOverride <;> rfl

/-- The address that a memory operand stands for. Relative to the instruction pointer, it is the
displacement. -/
def MemoryReference.target (memory : MemoryReference) (value : Register → Int) : Int :=
  if memory.base = .rip ∨ memory.base = .eip then memory.displacement.toNat
  else memory.base.content value + memory.scale * memory.index.content value +
    memory.displacement.toNat

/-- Once it is put at its place, the memory operand stands for the address that the bytes stand
for. -/
def Addressing.Describes (a : Addressing) (modrm : UInt8) (bytes : List UInt8)
    (memory : MemoryReference) : Prop :=
  ∀ value : Register → Int,
    (Body.placeMemory memory.base.isPointer a.next memory).target value ≡
      a.effective value modrm bytes [ZMOD (Nat.pow 2 a.width.bits : Nat)]

/-- The memory operand has the vector of indices that the SIB byte names, and what it adds to each
of them is the address that the bytes stand for without one. -/
structure Addressing.Gathers (a : Addressing) (family : RegisterFamily) (high : Bool)
    (modrm : UInt8) (bytes : List UInt8) (memory : MemoryReference) : Prop where
  /-- There is a SIB byte. -/
  sib : modrm.toNat % 8 = 4 ∧ bytes ≠ []
  /-- The address is not relative to the instruction pointer. -/
  isPointer_base : memory.base.isPointer = false
  family_index : memory.index.family = family
  index_index : memory.index.index = a.indexNumber (bytes.headD 0) + if high then 16 else 0
  scale : memory.scale = Addressing.scale (bytes.headD 0)
  origin : ∀ value : Register → Int,
    memory.base.content value + memory.displacement.toNat ≡ a.origin value modrm bytes
      [ZMOD (Nat.pow 2 a.width.bits : Nat)]

/-! ### Fields and registers -/

theorem ModRM.toNat_mod (m : ModRM) : m.mod.toNat = m.byte.toNat / 64 := by
  have hall := Bits.of_all_bytes (fun b => (ModRM.mk b).mod.toNat == b.toNat / 64) (by decide)
  exact eq_of_beq (hall m.byte)

theorem ModRM.toNat_rm (m : ModRM) : m.rm.toNat = m.byte.toNat % 8 := by
  have hall := Bits.of_all_bytes (fun b => (ModRM.mk b).rm.toNat == b.toNat % 8) (by decide)
  exact eq_of_beq (hall m.byte)

theorem Sib.toNat_base (s : Sib) : s.base.toNat = s.byte.toNat % 8 := ModRM.toNat_rm ⟨s.byte⟩

theorem Sib.toNat_scale (s : Sib) : s.scale.toNat = s.byte.toNat / 64 := ModRM.toNat_mod ⟨s.byte⟩

theorem Sib.index_le (s : Sib) : s.index.toNat ≤ 7 := Bits.toNat_getRun_le _ _ _

theorem Sib.toNat_index (s : Sib) : s.index.toNat = s.byte.toNat / 8 % 8 := by
  have hall := Bits.of_all_bytes (fun b => (Sib.mk b).index.toNat == b.toNat / 8 % 8) (by decide)
  exact eq_of_beq (hall s.byte)

/-- The mod field of a byte that names memory. -/
theorem ModRM.mod_eq_two {m : ModRM} (h : m.isRegister = false) (hzero : m.mod ≠ 0)
    (hone : m.mod ≠ 1) : m.mod = 2 := by
  have hthree : m.mod ≠ 3 := by
    intro hmod
    rw [isRegister, hmod] at h
    cases h
  have hlt := m.byte.toNat_lt
  have hmod := m.toNat_mod
  simp only [ne_eq, ← UInt8.toNat_inj] at hzero hone hthree ⊢
  change m.mod.toNat ≠ 0 at hzero
  change m.mod.toNat ≠ 1 at hone
  change m.mod.toNat ≠ 3 at hthree
  change m.mod.toNat = 2
  omega

/-- The registers of an address are numbered as machine code numbers them. -/
theorem Register.general_eq_numbered (width : WordSize) {n : Nat} (hn : n < 16) :
    Register.general (.ofWordSize width) n = .numbered width n ∧
      Register.general (.ofWordSize width) n ≠ .none := by
  have hall : ∀ width ∈ [WordSize.w16, .w32, .w64], ∀ n < 16,
      Register.general (.ofWordSize width) (n : Nat) = .numbered width n ∧
        Register.general (.ofWordSize width) (n : Nat) ≠ .none := by decide +kernel
  exact hall width (by cases width <;> decide) n hn

/-- The vector registers are numbered within their family. -/
theorem RegisterFamily.member_of_isVector {family : RegisterFamily} (h : family.isVector) {n : Nat}
    (hn : n < 32) {r : Register} (hr : family.member n = .ok r) :
    r.family = family ∧ r.index = n ∧ r ≠ .none := by
  have hall : ∀ family ∈ [RegisterFamily.xmm, .ymm, .zmm], ∀ n < 32,
      ∀ r ∈ (family.member (n : Nat)).toOption, r.family = family ∧ r.index = n ∧ r ≠ .none := by
    decide
  refine hall family ?_ n hn r (by rw [hr]; rfl)
  cases family <;> first | decide | cases h

theorem Register.content_of_ne (value : Register → Int) {r : Register} (h : r ≠ .none) :
    r.content value = value r :=
  if_neg h

/-- The registers of a 16-bit address. -/
theorem content_addressPair16 (value : Register → Int) {rm : UInt8} {pair : Register × Register}
    (h : addressPair16 rm = .ok pair) :
    pair.1.content value + pair.2.content value = Addressing.pair16 value rm.toNat := by
  rw [addressPair16] at h
  split at h
  · rename_i hfound
    cases h
    generalize rm.toNat = n at hfound ⊢
    rcases n with _ | _ | _ | _ | _ | _ | _ | _ | n <;> cases hfound <;>
      simp [Register.content, Register.none, Addressing.pair16] <;> rfl
  · cases h

/-! ### Displacements -/

namespace Reader

theorem rest_of_runOn_byte {s t : ReadState} {b : UInt8} (h : byte.runOn s = (.ok b, t)) :
    s.rest = b :: t.rest := by
  rw [runOn_byte] at h
  split at h
  · cases h
  · split at h <;> cases h
    assumption

/-- Bytes are read from the front. -/
theorem take_of_runOn_bytes {n : Nat} {s t : ReadState} {bs : List UInt8}
    (h : (bytes n).runOn s = (.ok bs, t)) : s.rest.take n = bs ∧ bs.length = n := by
  induction n generalizing s bs with
  | zero =>
    cases h
    exact ⟨rfl, rfl⟩
  | succ n ih =>
    obtain ⟨b, u, hbyte, hrest⟩ := exists_of_runOn_bind_ok h
    obtain ⟨bs', v, hbytes, hpure⟩ := exists_of_runOn_bind_ok hrest
    cases hpure
    obtain ⟨htake, hlength⟩ := ih hbytes
    rw [rest_of_runOn_byte hbyte, List.take_succ_cons, htake, List.length_cons, hlength]
    exact ⟨rfl, rfl⟩

theorem signed_of_runOn_number {size : Nat} {s t : ReadState} {v : UInt64}
    (h : (number size).runOn s = (.ok v, t)) :
    Word.signed (8 * size) v = Word.twosComplement (s.rest.take size) := by
  rw [number] at h
  split at h
  · cases h
  · rename_i hsize
    obtain ⟨bs, u, hbytes, hpure⟩ := exists_of_runOn_bind_ok h
    cases hpure
    obtain ⟨htake, rfl⟩ := take_of_runOn_bytes hbytes
    rw [htake, Word.signed_littleEndian (Nat.le_of_not_lt hsize)]

end Reader

/-- The memory operand has the given registers and scale, and a displacement that comes to the given
number. -/
structure MemoryReference.Formed (memory : MemoryReference) (width : WordSize)
    (base index : Register) (scale offset : Int) : Prop where
  base_eq : memory.base = base
  index_eq : memory.index = index
  scale_eq : memory.scale = scale
  displacement : (memory.displacement.toNat : Int) ≡ offset [ZMOD (Nat.pow 2 width.bits : Nat)]

namespace Reader

variable {p : PrefixState} {f : Form} {s t : ReadState} (mode : Mode) (next : UInt64)

theorem displacement_modEq {size : Nat} {width : WordSize} {result : UInt64 × Span}
    (h : (displacement p f size width).runOn s = (.ok result, t)) :
    (result.1.toNat : Int) ≡ (p.addressing mode f next).displacement size s.rest
      [ZMOD (Nat.pow 2 width.bits : Nat)] := by
  rw [displacement] at h
  split at h
  · rename_i hsize
    cases h
    rw [hsize]
    rfl
  · obtain ⟨start, u, hposition, hrest⟩ := exists_of_runOn_bind_ok h
    obtain ⟨raw, v, hnumber, hpure⟩ := exists_of_runOn_bind_ok hrest
    cases hposition
    cases hpure
    -- The product is cut down to a word and then to the address size, which keeps its low bits.
    refine (Word.truncate_modEq width.bits_le _).trans ((Word.ofInt_modEq width.bits_le _).trans ?_)
    rw [signed_of_runOn_number hnumber, Addressing.displacement]
    by_cases hone : size = 1
    · rw [if_pos hone]
      simp only [hone, true_and]
      rfl
    · rw [if_neg hone]
      simp only [hone, false_and, if_false, Int.mul_one]
      rfl

theorem formed_address {width : WordSize} {base index : Register} {scale : Int} {size : Nat}
    {result : MemoryReference × Span}
    (h : (address p f width base index scale size).runOn s = (.ok result, t)) :
    result.1.Formed width base index scale
      ((p.addressing mode f next).displacement size s.rest) := by
  obtain ⟨⟨value, span⟩, u, hdisplacement, hpure⟩ := exists_of_runOn_bind_ok h
  cases hpure
  exact ⟨rfl, rfl, rfl, displacement_modEq mode next hdisplacement⟩

end Reader

namespace MemoryReference.Formed

variable {memory : MemoryReference} {a : Addressing} {base index : Register} {scale offset : Int}
  {modrm : UInt8} {bytes : List UInt8}

/-- An address that is not relative. -/
theorem describes (h : memory.Formed a.width base index scale offset)
    (hbase : base.isPointer = false)
    (hsum : ∀ value, base.content value + scale * index.content value + offset =
      a.effective value modrm bytes) : a.Describes modrm bytes memory := by
  intro value
  have hne : ¬(base = .rip ∨ base = .eip) := by
    simpa [Register.isPointer, not_or] using hbase
  rw [h.base_eq, hbase, ← hsum value]
  change memory.target value ≡ _ [ZMOD _]
  rw [target, h.base_eq, if_neg hne, h.index_eq, h.scale_eq]
  exact h.displacement.add_left _

/-- An address relative to the instruction pointer. -/
theorem describes_relative (hwidth : a.width ≠ .w16)
    (h : memory.Formed a.width (if a.width = .w32 then .eip else .rip) .none 1
      (a.displacement 4 bytes))
    (hsum : ∀ value, a.displacement 4 bytes + a.next.toNat = a.effective value modrm bytes) :
    a.Describes modrm bytes memory := by
  intro value
  have hpointer : memory.base = .rip ∨ memory.base = .eip := by
    rw [h.base_eq]
    split <;> simp
  have hbits : Body.pointerBits memory.base = a.width.bits := by
    rw [h.base_eq]
    cases hw : a.width with
    | w16 => exact absurd hw hwidth
    | w32 | w64 => rfl
  have hle : 32 ≤ a.width.bits := by
    cases hw : a.width with
    | w16 => exact absurd hw hwidth
    | w32 | w64 => decide
  -- The displacement has four bytes, so it can be told from the low half of a word.
  have hbounds := Word.twosComplement_bounds (bytes.take 4)
  have hpow : Nat.pow 256 (bytes.take 4).length ≤ Nat.pow 2 32 :=
    Nat.pow_le_pow_right (show 0 < 256 by decide) (List.length_take_le 4 bytes)
  have hextend := Word.signExtend_modEq a.width.bits_le (Word.modEq_of_le hle h.displacement)
    (show -_ ≤ 2 * Word.twosComplement _ by omega) (show 2 * Word.twosComplement _ < _ by omega)
  have htarget := Body.displacement_placeMemory_modEq a.next memory
  rw [hbits] at htarget
  have hplaced : memory.base.isPointer = true := by
    rcases hpointer with hbase | hbase <;> rw [hbase] <;> decide
  rw [hplaced, target, Body.base_placeMemory, if_pos hpointer, ← hsum value, add_comm]
  exact htarget.trans (hextend.add_left _)

end MemoryReference.Formed

/-! ### Memory operands -/

namespace Addressing

variable (a : Addressing) (value : Register → Int) (m : ModRM) (bytes : List UInt8)

theorem effective_of_w16 (h : a.width = .w16) (modrm : UInt8) :
    a.effective value modrm bytes = a.effective16 value modrm bytes := by
  rw [effective, h]

theorem effective_of_ne_w16 (h : a.width ≠ .w16) (modrm : UInt8) :
    a.effective value modrm bytes =
      a.origin value modrm bytes + a.scaledIndex value modrm bytes := by
  rw [effective]
  split
  · rename_i hw
    exact absurd hw h
  · rfl

theorem effective16_byte :
    a.effective16 value m.byte bytes =
      if m.mod = 0 ∧ m.rm = 6 then a.displacement 2 bytes
      else pair16 value m.rm.toNat + a.displacement (displacementSize 2 m.mod.toNat) bytes := by
  simp only [effective16, ← m.toNat_mod, ← m.toNat_rm, ← UInt8.toNat_inj]
  rfl

theorem origin_of_rm_eq (h : m.rm = 4) (sib : UInt8) :
    a.origin value m.byte (sib :: bytes) =
      if (Sib.mk sib).base = 5 ∧ m.mod = 0 then a.displacement 4 bytes
      else a.based value m.mod.toNat (Sib.mk sib).base.toNat bytes := by
  have hrm : m.byte.toNat % 8 = 4 := by
    rw [← m.toNat_rm, h]
    rfl
  simp only [origin, hrm, if_true, List.headD_cons, List.tail_cons, ← m.toNat_mod,
    ← Sib.toNat_base ⟨sib⟩, ← UInt8.toNat_inj, and_comm]
  rfl

theorem origin_of_rm_ne (h : m.rm ≠ 4) :
    a.origin value m.byte bytes =
      if m.rm = 5 ∧ m.mod = 0 then
        a.displacement 4 bytes + if a.mode = .bits64 then (a.next.toNat : Int) else 0
      else a.based value m.mod.toNat m.rm.toNat bytes := by
  have hrm : m.byte.toNat % 8 ≠ 4 := by
    rw [← m.toNat_rm]
    exact fun heq => h (UInt8.toNat_inj.1 heq)
  simp only [origin, if_neg hrm]
  simp only [← m.toNat_mod, ← m.toNat_rm, ← UInt8.toNat_inj, and_comm]
  rfl

theorem scaledIndex_of_rm_ne (h : m.rm ≠ 4) : a.scaledIndex value m.byte bytes = 0 := by
  rw [scaledIndex, ← m.toNat_rm]
  exact if_neg fun hboth => h (UInt8.toNat_inj.1 hboth.1)

/-- An address of 32 or 64 bits that has no SIB byte. -/
theorem effective_of_rm_ne (hwidth : a.width ≠ .w16) (h : m.rm ≠ 4) :
    a.effective value m.byte bytes =
      if m.rm = 5 ∧ m.mod = 0 then
        a.displacement 4 bytes + if a.mode = .bits64 then (a.next.toNat : Int) else 0
      else a.based value m.mod.toNat m.rm.toNat bytes := by
  rw [effective_of_ne_w16 a value bytes hwidth, scaledIndex_of_rm_ne a value m bytes h,
    Int.add_zero, origin_of_rm_ne a value m bytes h]

end Addressing

namespace Reader

variable {p : PrefixState} {mode : Mode} {f : Form} {m : ModRM} {next : UInt64} {s t : ReadState}
  {result : MemoryReference × Span}

theorem of_runOn_request {α : Type} {r : Except Misuse α} {x : α}
    (h : (request r).runOn s = (.ok x, t)) : r = .ok x ∧ t = s := by
  cases r with
  | ok y =>
    cases h
    exact ⟨rfl, rfl⟩
  | error cause => cases h

theorem describes_memory16 (hwidth : (p.addressing mode f next).width = .w16)
    (hmod : m.isRegister = false) (h : (memory16 p f m).runOn s = (.ok result, t)) :
    (p.addressing mode f next).Describes m.byte s.rest result.1 := by
  obtain ⟨⟨base, index⟩, u, hrequest, haddress⟩ := exists_of_runOn_bind_ok h
  obtain ⟨hpair, rfl⟩ := of_runOn_request hrequest
  have heffective := fun value => ((p.addressing mode f next).effective_of_w16 value u.rest hwidth
    m.byte).trans (Addressing.effective16_byte _ value m u.rest)
  have hformed : ∀ {base size}, (address p f .w16 base index 1 size).runOn u = (.ok result, t) →
      result.1.Formed (p.addressing mode f next).width base index 1
        ((p.addressing mode f next).displacement size u.rest) := by
    intro base size haddress
    rw [hwidth]
    exact formed_address mode next haddress
  have hplain : ¬(m.mod = 0 ∧ m.rm = 6) →
      (address p f .w16 base index 1 (Addressing.displacementSize 2 m.mod.toNat)).runOn u =
        (.ok result, t) → (p.addressing mode f next).Describes m.byte u.rest result.1 := by
    intro hnot haddress
    refine (hformed haddress).describes (isPointer_of_addressPair16 hpair) fun value => ?_
    rw [heffective, if_neg hnot, Int.one_mul, content_addressPair16 value hpair]
  dsimp only at haddress
  -- The cases are those of the mod field. All but one go by the pair and the displacement's size.
  split at haddress
  · rename_i hzero
    split at haddress
    · rename_i hsix
      -- There is no base, and the pair that it would come from has no index.
      have hindex : index = .none := by
        rw [hsix] at hpair
        cases hpair
        rfl
      refine (hformed haddress).describes (by decide) fun value => ?_
      rw [heffective, if_pos ⟨hzero, hsix⟩, hindex]
      simp [Register.content]
    · rename_i hsix
      exact hplain (fun hboth => hsix hboth.2) (by rw [hzero]; exact haddress)
  · rename_i hzero
    refine hplain (fun hboth => hzero hboth.1) ?_
    split at haddress
    · rename_i hone
      rw [hone]
      exact haddress
    · rename_i hone
      rw [ModRM.mod_eq_two hmod hzero hone]
      exact haddress

theorem displacementSize_eq (m : ModRM) :
    displacementSize m = Addressing.displacementSize 4 m.mod.toNat := by
  simp only [displacementSize, ← UInt8.toNat_inj]
  rfl

/-- A base by number, with the displacement that the mod field asks for. -/
theorem content_base {n : UInt8} (hn : n.toNat ≤ 7) {base : Register}
    (h : Register.ofBits (p.addressing mode f next).width.bits (extended p.b n) = .ok base)
    (value : Register → Int) (bytes : List UInt8) :
    base.content value + (p.addressing mode f next).displacement (displacementSize m) bytes =
      (p.addressing mode f next).based value m.mod.toNat n.toNat bytes := by
  rw [Register.ofBits_wordSize] at h
  cases h
  obtain ⟨hnumbered, hne⟩ :=
    Register.general_eq_numbered (p.addressing mode f next).width (extended_lt hn p.b)
  rw [Register.content_of_ne value hne, hnumbered, displacementSize_eq]
  rfl

theorem isPointer_of_ofBits {width : WordSize} {n : UInt8} (hn : n.toNat ≤ 7) {high : Bool}
    {base : Register} (h : Register.ofBits width.bits (extended high n) = .ok base) :
    base.isPointer = false := by
  rw [Register.ofBits_wordSize] at h
  cases h
  exact Register.isPointer_general _ (extended_lt hn high)

/-- What an address with a SIB byte is formed of. -/
theorem formed_memorySib (next : UInt64) (hrm : m.rm = 4)
    (h : (memorySib p f m (p.addressing mode f next).width).runOn s = (.ok result, t)) :
    ∃ sib rest base index offset, s.rest = sib :: rest ∧
      indexRegister p (p.addressing mode f next).width f.vsib? ⟨sib⟩ = .ok index ∧
      result.1.Formed (p.addressing mode f next).width base index (Sib.factor ⟨sib⟩ index) offset ∧
      base.isPointer = false ∧ ∀ value, base.content value + offset =
        (p.addressing mode f next).origin value m.byte s.rest := by
  obtain ⟨sib, u, hsib, hindexed⟩ := exists_of_runOn_bind_ok h
  obtain ⟨b, v, hbyte, hpure⟩ := exists_of_runOn_bind_ok hsib
  cases hpure
  have hbytes := rest_of_runOn_byte hbyte
  obtain ⟨index, w, hrequest, hbased⟩ := exists_of_runOn_bind_ok hindexed
  obtain ⟨hindex, rfl⟩ := of_runOn_request hrequest
  rw [hbytes]
  split at hbased
  · rename_i hfive
    refine ⟨b, _, .none, index, _, rfl, hindex, formed_address mode next hbased, by decide,
      fun value => ?_⟩
    rw [Addressing.origin_of_rm_eq _ value m _ hrm, if_pos hfive]
    simp [Register.content]
  · rename_i hfive
    obtain ⟨base, u, hrequest', haddress⟩ := exists_of_runOn_bind_ok hbased
    obtain ⟨hbase, rfl⟩ := of_runOn_request hrequest'
    refine ⟨b, _, base, index, _, rfl, hindex, formed_address mode next haddress,
      isPointer_of_ofBits (Sib.base_le _) hbase, fun value => ?_⟩
    rw [Addressing.origin_of_rm_eq _ value m _ hrm, if_neg hfive,
      content_base (Sib.base_le _) hbase]

theorem factor_of_ne {sib : UInt8} {index : Register} (h : index ≠ .none) :
    Sib.factor ⟨sib⟩ index = Addressing.scale sib := by
  rw [Sib.factor, if_neg h, Sib.toNat_scale, Nat.one_shiftLeft]
  rfl

/-- The index of a SIB byte, times its scale. -/
theorem content_index {sib : UInt8} {index : Register}
    (h : indexRegister p (p.addressing mode f next).width none ⟨sib⟩ = .ok index) (hrm : m.rm = 4)
    (value : Register → Int) (rest : List UInt8) :
    Sib.factor ⟨sib⟩ index * index.content value =
      (p.addressing mode f next).scaledIndex value m.byte (sib :: rest) := by
  have hrm' : m.byte.toNat % 8 = 4 := by
    rw [← m.toNat_rm, hrm]
    rfl
  have hnumber : extended p.x (Sib.mk sib).index = (p.addressing mode f next).indexNumber sib := by
    rw [extended, Sib.toNat_index]
    rfl
  have hlt := extended_lt (Sib.mk sib).index_le p.x
  dsimp only [indexRegister] at h
  rw [hnumber] at h hlt
  rw [Addressing.scaledIndex, List.headD_cons]
  split at h
  · rename_i hfour
    cases h
    rw [if_neg fun hboth => hboth.2 hfour]
    simp [Register.content]
  · rename_i hfour
    rw [Register.ofBits_wordSize] at h
    cases h
    obtain ⟨hnumbered, hne⟩ := Register.general_eq_numbered (p.addressing mode f next).width hlt
    rw [if_pos ⟨hrm', hfour⟩, factor_of_ne hne, Register.content_of_ne value hne, hnumbered]

/-- A 32-bit or 64-bit address without a vector of indices. -/
theorem describes_memory32 (hwidth : (p.addressing mode f next).width ≠ .w16)
    (hvsib : f.vsib? = none)
    (h : (memory32 p mode f m (p.addressing mode f next).width).runOn s = (.ok result, t)) :
    (p.addressing mode f next).Describes m.byte s.rest result.1 := by
  rw [memory32] at h
  split at h
  · rename_i hrm
    obtain ⟨sib, rest, base, index, offset, hrest, hindex, hformed, hbase, horigin⟩ :=
      formed_memorySib next hrm h
    rw [hvsib] at hindex
    refine MemoryReference.Formed.describes hformed hbase fun value => ?_
    rw [Addressing.effective_of_ne_w16 _ value _ hwidth, ← horigin, hrest,
      ← content_index hindex hrm]
    omega
  · rename_i hrm
    have heffective := fun value => Addressing.effective_of_rm_ne (p.addressing mode f next) value m
      s.rest hwidth hrm
    rw [hvsib] at h
    split at h
    · cases h
    split at h
    · -- A displacement alone, which the mode makes relative or absolute.
      rename_i hfive
      split at h
      · rename_i hmode
        obtain ⟨formed, u, haddress, hmark⟩ := exists_of_runOn_bind_ok h
        cases hmark
        refine MemoryReference.Formed.describes_relative hwidth
          (formed_address mode next haddress) fun value => ?_
        rw [heffective, if_pos hfive, PrefixState.mode_addressing, if_pos hmode]
      · rename_i hmode
        refine (formed_address mode next h).describes (by decide) fun value => ?_
        rw [heffective, if_pos hfive, PrefixState.mode_addressing, if_neg hmode]
        simp [Register.content]
    · rename_i hfive
      obtain ⟨base, u, hrequest, haddress⟩ := exists_of_runOn_bind_ok h
      obtain ⟨hbase, rfl⟩ := of_runOn_request hrequest
      refine (formed_address mode next haddress).describes (isPointer_of_ofBits m.rm_le hbase)
        fun value => ?_
      rw [heffective, if_neg hfive, ← content_base m.rm_le hbase]
      simp [Register.content]

/-- A 32-bit or 64-bit address with a vector of indices. -/
theorem gathers_memory32 {cls : RegisterClass} (hvsib : f.vsib? = some cls)
    (hvector : cls.family.isVector)
    (h : (memory32 p mode f m (p.addressing mode f next).width).runOn s = (.ok result, t)) :
    (p.addressing mode f next).Gathers cls.family p.vHigh m.byte s.rest result.1 := by
  rw [memory32] at h
  split at h
  · rename_i hrm
    obtain ⟨sib, rest, base, index, offset, hrest, hindex, hformed, hbase, horigin⟩ :=
      formed_memorySib next hrm h
    have hlt := extended_lt (Sib.mk sib).index_le p.x
    rw [hvsib] at hindex
    obtain ⟨hfamily, hnumber, hne⟩ := RegisterFamily.member_of_isVector hvector
      (show _ < 32 by split <;> omega) hindex
    refine ⟨⟨?_, ?_⟩, ?_, ?_, ?_, ?_, fun value => ?_⟩
    · rw [← m.toNat_rm, hrm]
      rfl
    · rw [hrest]
      exact List.cons_ne_nil _ _
    · rw [hformed.base_eq, hbase]
    · rw [hformed.index_eq, hfamily]
    · rw [hformed.index_eq, hnumber, hrest, extended, Sib.toNat_index]
      rfl
    · rw [hformed.scale_eq, factor_of_ne hne, hrest]
      rfl
    · rw [hformed.base_eq, ← horigin]
      exact hformed.displacement.add_left _
  · -- Without a SIB byte there is no place for the vector.
    rw [hvsib] at h
    cases h

/-- Reading a memory operand without a vector of indices. -/
theorem describes_memory (next : UInt64) (hmod : m.isRegister = false) (hvsib : f.vsib? = none)
    (h : (memory p mode f m).runOn s = (.ok result, t)) :
    (p.addressing mode f next).Describes m.byte s.rest result.1 := by
  rw [memory, ← p.width_addressing mode f next] at h
  cases hwidth : (p.addressing mode f next).width with
  | w16 =>
    rw [hwidth, hvsib] at h
    exact describes_memory16 hwidth hmod h
  | w32 | w64 =>
    rw [hwidth] at h
    exact describes_memory32 (by rw [hwidth]; decide) hvsib (by rw [hwidth]; exact h)

/-- Reading a memory operand with a vector of indices. -/
theorem gathers_memory (next : UInt64) {cls : RegisterClass} (hvsib : f.vsib? = some cls)
    (hvector : cls.family.isVector) (h : (memory p mode f m).runOn s = (.ok result, t)) :
    (p.addressing mode f next).Gathers cls.family p.vHigh m.byte s.rest result.1 := by
  rw [memory, ← p.width_addressing mode f next] at h
  cases hwidth : (p.addressing mode f next).width with
  | w16 =>
    rw [hwidth, hvsib] at h
    cases h
  | w32 | w64 =>
    rw [hwidth] at h
    exact gathers_memory32 hvsib hvector (by rw [hwidth]; exact h)

end Reader

end X86Decoder
