import X86Decoder.Proofs.Consistency
import X86Decoder.Proofs.Constants.Tiling

/-!
# What constants stand for

The value of an operand as a number that the bytes at a place of the instruction stand for. An
immediate is a number without a sign, or one with a sign that is cut to the width of the operand;
and the target of a near branch counts from the next instruction.

* `Span.cut`: the bytes at a place.
* `OpKind.encoded`: the number that bytes stand for in an operand of a kind.
* `Frame.immediate_place_immediate`, `Frame.immediate_place_relative`, `Frame.immediate_place_far`:
  the value of an operand is this number.
* `Frame.register_of_is4`: the register that an immediate byte selects.
* `Frame.displacement_place`: the target of an address relative to the instruction pointer.
* `Frame.toNat_placeMemory`: the displacement of any address.
-/

namespace X86Decoder

open Reader (word)

/-! ### Bytes of the data -/

/-- The bytes at a place of the data. -/
def Span.cut (span : Span) (data : List UInt8) : List UInt8 :=
  (data.drop span.offset).take span.size

/-- Bytes that are counted from a place within the data. -/
theorem Span.cut_starting {data : List UInt8} {start offset size total : Nat}
    (h : offset + size ≤ total) :
    (Span.starting (start + offset) size).cut data =
      (((data.drop start).take total).drop offset).take size := by
  rw [List.drop_take, List.take_take, List.drop_drop, Nat.min_eq_left (by omega), cut,
    Span.size_starting, starting]
  split
  · rename_i hzero
    rw [hzero, List.take_zero, List.take_zero]
  · rfl

namespace Reader

/-- A frame is read from the front of the data. -/
theorem rest_of_runOn_frame {mode : Mode} {data : List UInt8} {c : Frame} {t : ReadState}
    (h : (frame mode).runOn { rest := data } = (.ok c, t)) : t.rest = data.drop t.consumed := by
  have hreaches := (selfDelimiting_frame mode).counts { rest := data }
  rw [h] at hreaches
  obtain ⟨taken, hrest, hconsumed, -⟩ := hreaches
  obtain rfl : data = taken ++ t.rest := hrest
  rw [hconsumed, Nat.zero_add, List.drop_left]

/-- Where there is room for the constants, they are all there. -/
theorem length_constants {mode : Mode} {data data' : List UInt8} {c : Frame} {t : ReadState}
    (h : (frame mode).runOn { rest := data } = (.ok c, t)) (hroom : t.Room c.size)
    (hlength : data'.length = data.length) :
    ((data'.drop t.consumed).take c.size).length = c.size := by
  have hle := hroom.1
  rw [rest_of_runOn_frame h, List.length_drop] at hle
  rw [List.length_take, List.length_drop, hlength, Nat.min_eq_left hle]

end Reader

/-! ### Numbers -/

namespace Word

/-- A number below the modulus is the remainder of what it is congruent to. -/
theorem eq_emod_of_modEq {a bits : Nat} {z : Int} (h : (a : Int) ≡ z [ZMOD (Nat.pow 2 bits : Nat)])
    (hlt : a < Nat.pow 2 bits) : (a : Int) = z % (Nat.pow 2 bits : Nat) := by
  rw [← h.eq]
  exact (Int.emod_eq_of_lt (Int.natCast_nonneg a) (Int.ofNat_lt.2 hlt)).symm

theorem truncate_lt {bits : Nat} (h : bits ≤ 64) (v : UInt64) :
    (truncate bits v).toNat < Nat.pow 2 bits := by
  rw [toNat_truncate h]
  exact Nat.mod_lt _ (Nat.pow_pos (by decide))

theorem toNat_ofInt (z : Int) : ((UInt64.ofInt z).toNat : Int) = z % (Nat.pow 2 64 : Nat) :=
  eq_emod_of_modEq (ofInt_modEq (Nat.le_refl 64) z) (UInt64.toNat_lt _)

theorem toNat_truncate_ofInt {bits : Nat} (h : bits ≤ 64) (z : Int) :
    ((truncate bits (UInt64.ofInt z)).toNat : Int) = z % (Nat.pow 2 bits : Nat) :=
  eq_emod_of_modEq ((truncate_modEq h _).trans (ofInt_modEq h z)) (truncate_lt h _)

theorem toNat_word {bs : List UInt8} (h : bs.length ≤ 8) : (word bs).toNat = littleEndian bs := by
  have hlt := Nat.lt_of_lt_of_le (littleEndian_lt bs) (Nat.pow_le_pow_right (by decide) h)
  rw [word, UInt64.toNat_ofNat_of_lt' hlt]

theorem toNat_toUInt16_word {bs : List UInt8} (h : bs.length = 2) :
    (word bs).toUInt16.toNat = littleEndian bs := by
  have hlt := littleEndian_lt bs
  rw [h] at hlt
  rw [UInt64.toNat_toUInt16, toNat_word (Nat.le_trans (Nat.le_of_eq h) (by decide))]
  exact Nat.mod_eq_of_lt hlt

/-- With all of its bits, a number is the same with or without a sign. -/
theorem littleEndian_eq_emod {bs : List UInt8} {bits : Nat} (hbits : 8 * bs.length = bits) :
    (littleEndian bs : Int) = twosComplement bs % (Nat.pow 2 bits : Nat) := by
  have hpow : Nat.pow 2 bits = Nat.pow 256 bs.length := hbits ▸ Nat.pow_mul 2 8 bs.length
  have hlt : littleEndian bs < Nat.pow 2 bits := hpow ▸ littleEndian_lt bs
  refine eq_emod_of_modEq ?_ hlt
  rw [twosComplement, hpow]
  split
  · rfl
  · exact (Int.modEq_sub_modulus_iff.2 rfl)

theorem signExtend_word {bs : List UInt8} {bits : Nat} (hlength : 8 * bs.length = bits)
    (h : bits ≤ 64) : signExtend bits (word bs) = UInt64.ofInt (twosComplement bs) := by
  rw [signExtend, ← hlength, word, signed_littleEndian (by omega)]

end Word

/-- The number that the given bytes stand for in an operand of a kind, if the next instruction is at
the given place. -/
def OpKind.encoded (kind : OpKind) (next : UInt64) (bs : List UInt8) : Int :=
  match kind with
  | .immediate8to16 => Word.twosComplement bs % (Nat.pow 2 16 : Nat)
  | .immediate8to32 => Word.twosComplement bs % (Nat.pow 2 32 : Nat)
  | .immediate8to64 | .immediate32to64 => Word.twosComplement bs % (Nat.pow 2 64 : Nat)
  | .nearBranch16 => (next.toNat + Word.twosComplement bs) % (Nat.pow 2 16 : Nat)
  | .nearBranch32 => (next.toNat + Word.twosComplement bs) % (Nat.pow 2 32 : Nat)
  | .nearBranch64 => (next.toNat + Word.twosComplement bs) % (Nat.pow 2 64 : Nat)
  | _ => Word.littleEndian bs

theorem OpKind.encoded_nearBranch (width : WordSize) (next : UInt64) (bs : List UInt8) :
    (OpKind.nearBranch width).encoded next bs =
      (next.toNat + Word.twosComplement bs) % (Nat.pow 2 width.bits : Nat) := by
  cases width <;> rfl

theorem DataWidth.bits_eq (width : DataWidth) : 8 * width.bytes = width.bits := by
  cases width <;> rfl

theorem WordSize.bits_eq (width : WordSize) : 8 * width.bytes = width.bits := by
  cases width <;> rfl

theorem DataWidth.bits_le (width : DataWidth) : width.bits ≤ 64 := by
  cases width <;> decide

/-- An immediate is extended as its kind says. -/
theorem Immediate.toNat_extend (immediate : Immediate) {bs : List UInt8}
    (h : bs.length = immediate.width.bytes) (next : UInt64) :
    ((immediate.extend (Reader.word bs)).toNat : Int) = immediate.kind.encoded next bs := by
  have hle : bs.length ≤ 8 := h ▸ immediate.width.bytes_le
  have hplain : ((Reader.word bs).toNat : Int) = Word.littleEndian bs := by
    rw [Word.toNat_word hle]
  cases immediate with
  | byte | secondByte | word | dword | qword => exact hplain
  | byteTo width =>
    have hbits : 8 * bs.length = 8 := by
      rw [h]
      rfl
    rw [extend, Word.signExtend_word hbits (by decide), Word.toNat_truncate_ofInt width.bits_le]
    cases width <;> rfl
  | dwordToQword =>
    have hbits : 8 * bs.length = 32 := by
      rw [h]
      rfl
    rw [extend, Word.signExtend_word hbits (by decide)]
    exact Word.toNat_ofInt _

namespace Body

/-- The target of a near branch fits into its width. -/
theorem immediate_placeOperand_lt (next : UInt64) {o : Operand} {width : WordSize}
    (h : o.kind = .nearBranch width) :
    (placeOperand next o).immediate.toNat < Nat.pow 2 width.bits := by
  cases width with
  | w16 =>
    rw [placeOperand, h]
    exact Word.truncate_lt (by decide) _
  | w32 =>
    rw [placeOperand, h]
    exact Word.truncate_lt (by decide) _
  | w64 => exact UInt64.toNat_lt _

/-- Only the target of a near branch depends on the place. -/
theorem placeOperand_of_ne_nearBranch (next : UInt64) {o : Operand}
    (h : o.kind.isNearBranch = false) : placeOperand next o = o := by
  rw [placeOperand]
  split <;> rename_i hkind <;> first | rfl | (rw [hkind] at h; cases h)

end Body

/-- A vector register is selected by its number. -/
theorem Reader.exists_value?_register (p : PrefixState) {spec : OperandSpec}
    (hvector : spec.family.isVector) {n : Nat} (hn : n < 32) :
    ∃ r, (register p spec n).value? = some r ∧ r ≠ .none ∧ r.family = spec.family ∧
      r.index = n := by
  obtain ⟨r, hr⟩ := RegisterFamily.exists_member_of_isVector hvector n
  obtain ⟨hfamily, hindex, hne⟩ := RegisterFamily.member_of_isVector hvector hn hr
  refine ⟨r, ?_, hne, hfamily, hindex⟩
  have hgeneral : spec.family ≠ .general := by
    intro h
    rw [h] at hvector
    cases hvector
  have hplain : ¬(spec.family = .mmx ∨ spec.family = .x87) := by
    rintro (h | h) <;> rw [h] at hvector <;> cases hvector
  have hrun : (register p spec n).runOn { rest := [] } = (.ok r, { rest := [] }) := by
    simp only [register, if_neg hgeneral, if_neg hplain, hr]
    exact congrArg (fun m => Reader.runOn m { rest := [] }) (if_neg hne)
  rw [value?, hrun]
  rfl

namespace Frame

variable {c : Frame} {bs : List UInt8} {v : Operand}

/-- The target of a near branch. -/
theorem immediate_place_relative (next : UInt64) {offset : DataWidth} {target : WordSize}
    (hlength : bs.length = offset.bytes) (hv : c.value (.relative offset target) bs = some v) :
    v.kind = .nearBranch target ∧
      ((Body.placeOperand next v).immediate.toNat : Int) = v.kind.encoded next bs := by
  cases hv
  refine ⟨rfl, ?_⟩
  rw [OpKind.encoded_nearBranch]
  refine Word.eq_emod_of_modEq ?_ (Body.immediate_placeOperand_lt next rfl)
  refine (Body.immediate_placeOperand_modEq next rfl).trans (Int.ModEq.add_left _ ?_)
  have hbits : 8 * bs.length = offset.bits := by rw [hlength, offset.bits_eq]
  change ((Word.signExtend offset.bits (word bs)).toNat : Int) ≡ _ [ZMOD _]
  rw [Word.signExtend_word hbits offset.bits_le]
  exact Word.ofInt_modEq target.bits_le _

/-- An immediate value is the same at every place. -/
theorem immediate_place_immediate (next : UInt64) {value : Immediate}
    (hlength : bs.length = value.width.bytes) (hv : c.value (.immediate value) bs = some v) :
    v.kind = value.kind ∧
      ((Body.placeOperand next v).immediate.toNat : Int) = v.kind.encoded next bs := by
  have hvalue := value.toNat_extend hlength next
  have hkind : value.kind.isNearBranch = false := by
    rcases value with _ | _ | _ | _ | _ | width | _ <;> first | rfl | (cases width <;> rfl)
  obtain rfl := Option.some.inj hv
  have hplace := Body.placeOperand_of_ne_nearBranch next
    (o := { kind := value.kind, immediate := value.extend (word bs) }) hkind
  rw [hplace]
  exact ⟨rfl, hvalue⟩

/-- The offset of a far branch is the same at every place. -/
theorem immediate_place_far (next : UInt64) {wide : Bool}
    (hlength : bs.length = (OperandSpec.far wide).size) (hv : c.value (.far wide) bs = some v) :
    v.kind = (OperandSpec.far wide).kind ∧
      ((Body.placeOperand next v).immediate.toNat : Int) =
        v.kind.encoded next (bs.take (OperandSpec.farOffset wide).bytes) := by
  have hle : (bs.take (OperandSpec.farOffset wide).bytes).length ≤ 8 :=
    Nat.le_trans (List.length_take_le _ _) (WordSize.bytes_le _)
  obtain rfl := Option.some.inj hv
  have hword := congrArg Int.ofNat (Word.toNat_word hle)
  cases wide <;> exact ⟨rfl, hword⟩

/-- The register that an immediate byte selects. -/
theorem register_of_is4 {cls : RegisterClass} (hvector : cls.family.isVector) (c : Frame)
    (bs : List UInt8) :
    ∃ r, c.value (.is4 cls) bs = some { register := r } ∧ r ≠ .none ∧ r.family = cls.family ∧
      r.index = (word bs).toNat / 16 % if c.mode = .bits64 then 16 else 8 := by
  have hlt : (word bs).toNat / 16 % (if c.mode = .bits64 then 16 else 8) < 32 := by
    split
    · exact Nat.lt_trans (Nat.mod_lt _ (by decide)) (by decide)
    · exact Nat.lt_trans (Nat.mod_lt _ (by decide)) (by decide)
  obtain ⟨r, hr, hne, hfamily, hindex⟩ :=
    @Reader.exists_value?_register c.prefixes (.is4 cls) hvector _ hlt
  refine ⟨r, ?_, hne, hfamily, hindex⟩
  rw [value, Reader.is4Register, hr]
  rfl

/-- A displacement is counted in a unit and cut to the address size. -/
theorem toNat_displacement (c : Frame) {size : Nat} (hsize : size ≠ 0) (hle : size ≤ 8)
    (hlength : bs.length = size) :
    ((c.displacement size bs).toNat : Int) =
      (Word.twosComplement bs * if size = 1 then c.form.displacementUnit c.prefixes else 1) %
        (Nat.pow 2 c.width.bits : Nat) := by
  have hsigned : Word.signed (8 * size) (word bs) = Word.twosComplement bs := by
    rw [← hlength, word, Word.signed_littleEndian (by omega)]
  rw [displacement, if_neg hsize, hsigned]
  exact Word.toNat_truncate_ofInt c.width.bits_le _

/-- The target of an address relative to the instruction pointer. -/
theorem displacement_place (next : UInt64) {memory : MemoryReference} (hwidth : c.width ≠ .w16)
    (hlength : bs.length = 4) (hmemory : memory.displacement = c.displacement 4 bs) :
    ((Body.placeMemory true next memory).displacement.toNat : Int) =
      (next.toNat + Word.twosComplement bs) %
        (Nat.pow 2 (Body.pointerBits memory.base) : Nat) := by
  have hbits : Body.pointerBits memory.base ≤ 64 := by
    rw [Body.pointerBits]
    split <;> decide
  have hwide : 32 ≤ c.width.bits := by
    cases hw : c.width with
    | w16 => exact absurd hw hwidth
    | w32 | w64 => decide
  -- The displacement is cut to the address size, which is enough to tell its sign again.
  have hdisplacement : (memory.displacement.toNat : Int) ≡ Word.twosComplement bs
      [ZMOD (Nat.pow 2 32 : Nat)] := by
    have hvalue := c.toNat_displacement (by decide) (by decide) hlength
    rw [if_neg (by decide), Int.mul_one, ← hmemory] at hvalue
    rw [hvalue]
    exact Word.modEq_of_le hwide (Int.mod_modEq _ _)
  obtain ⟨hlow, hhigh⟩ := Word.twosComplement_bounds bs
  rw [hlength] at hlow hhigh
  refine Word.eq_emod_of_modEq ((Body.displacement_placeMemory_modEq next memory).trans
    (Int.ModEq.add_left _ (Word.signExtend_modEq hbits hdisplacement hlow hhigh))) ?_
  rw [Body.placeMemory, Body.pointerBits]
  split
  · contradiction
  · split
    · exact Word.truncate_lt (by decide) _
    · exact UInt64.toNat_lt _

/-- The displacement of an address, relative or not, is cut to the address size. -/
theorem toNat_placeMemory {a : AddressPlan} (ha : a.Regular c.width) (hsize : a.size ≠ 0)
    (hlength : bs.length = a.size) {memory : MemoryReference} (hbase : memory.base = a.base)
    (hmemory : memory.displacement = c.displacement a.size bs) (next : UInt64) :
    ((Body.placeMemory a.relative next memory).displacement.toNat : Int) =
      ((if a.base.isPointer then (next.toNat : Int) else 0) +
        Word.twosComplement bs *
          if a.size = 1 then c.form.displacementUnit c.prefixes else 1) %
        (Nat.pow 2 c.width.bits : Nat) := by
  cases hpointer : a.base.isPointer with
  | false =>
    have hle : a.size ≤ 8 := by
      have hmem := ha.size_mem
      simp only [List.mem_cons, List.not_mem_nil, or_false] at hmem
      omega
    rw [ha.relative_eq, hpointer, if_neg Bool.false_ne_true, Int.zero_add,
      ← c.toNat_displacement hsize hle hlength, ← hmemory]
    rfl
  | true =>
    have hrelative : a.relative = true := ha.relative_eq.trans hpointer
    have hfour := ha.size_of_relative hrelative
    rw [hfour] at hlength hmemory
    rw [hrelative, hfour, if_pos rfl, if_neg (by decide), Int.mul_one,
      ← ha.bits_of_relative hrelative, ← hbase]
    exact displacement_place next (ha.width_of_relative hrelative) hlength hmemory

end Frame

end X86Decoder
