import X86Decoder.Form.Row
import X86Decoder.Proofs.Consistency
import X86Decoder.Proofs.Constants.Value

/-!
# Units of displacements

Under an EVEX prefix a displacement of one byte is counted in a unit, so that it can reach further.
The tuple of the form says which, from the vector length and from the bits W and b of the prefix. It
is meant to be the size of what is accessed, which the form states on its own.

* `Form.accessUnit`: what is accessed, as a unit.
* `Table.exists_isCoherent`: what the table has to say about units and about W.
* `Form.displacementUnit_eq`: the unit of a form is what it accesses.
* `decode_displacement_unit`: the displacement of a decoded instruction.
-/

namespace X86Decoder

/-! ### Forms -/

/-- The vector length that a length field selects is the one that it shifts to. -/
theorem PrefixState.vectorBits_eq {p : PrefixState} {length : VectorLength}
    (h : VectorLength.ofField? p.l = some length) : p.vectorBits = length.bits := by
  rw [VectorLength.ofField?] at h
  obtain ⟨hlt, -⟩ := List.getElem?_eq_some_iff.1 h
  have hcases : p.l.toNat = 0 ∨ p.l.toNat = 1 ∨ p.l.toNat = 2 := by
    simp only [List.length_cons, List.length_nil] at hlt
    omega
  have hshift : 128 <<< p.l.toNat = length.bits := by
    rcases hcases with hl | hl | hl <;> rw [hl] at h ⊢ <;> cases h <;> rfl
  unfold vectorBits
  rw [hshift]
  cases length <;> simp [VectorLength.bits, Int.bmod]

namespace Tuple

/-- Whether the unit depends on the vector length. -/
def usesVector : Tuple → Bool
  | full | half | fullMem | halfMem | quarterMem | eighthMem | movddup => true
  | none | oneScalar | oneFixed | two | four | eight | mem128 => false

theorem unit_of_not_usesVector {tuple : Tuple} (h : tuple.usesVector = false)
    (vectorBits vectorBits' elementSize : Int) (w broadcast : Bool) :
    tuple.unit vectorBits elementSize w broadcast =
      tuple.unit vectorBits' elementSize w broadcast := by
  cases tuple <;> first | rfl | cases h

end Tuple

namespace Form

/-- The size of what is accessed: of an element if the tuple is of one, and otherwise of all. -/
def accessUnit (f : Form) (size : MemorySize) : Nat :=
  if f.scale.tuple.isScalar then size.facts.elementSize else size.facts.size

/-- Whether the unit is the size of what is accessed, given the vector length and W. -/
def countsAccessAt (f : Form) (vectorBits : Int) (w : Bool) : Bool :=
  decide (f.scale.tuple.unit vectorBits f.scale.elementSize w false = f.accessUnit f.memory)
    && match f.broadcast with
      | .unknown => true
      | size =>
        decide (f.scale.tuple.unit vectorBits f.scale.elementSize w true = f.accessUnit size)

/-- Whether the unit is the size of what is accessed for every vector length and every W that the
form permits. -/
def countsAccess (f : Form) : Bool :=
  [false, true].all fun w => !f.constraint.extendedPart.w.allows w
    || if f.scale.vectorBits ≠ 0 then f.countsAccessAt f.scale.vectorBits w
      else
        match f.constraint.extendedPart.length with
        | some length => f.countsAccessAt length.bits w
        | none => !f.scale.tuple.usesVector && f.countsAccessAt 0 w

/-- Whether W makes no difference to what matches the form outside 64-bit mode. -/
def ignoresW (f : Form) : Bool :=
  f.has .wig32 ||
    match f.constraint.extendedPart.w with
    | .any => true
    | _ => false

/-- Whether the unit of a displacement follows W, as that of a scalar tuple does without an element
size of its own. -/
def scalesByW (f : Form) : Bool :=
  f.isEvex && f.scale.tuple.isScalar && decide (f.scale.elementSize = 0)

/-- Whether an instruction outside 64-bit mode cannot match both forms, whatever W is. -/
def excludes (f g : Form) : Bool :=
  decide (g.constraint.extendedPart.mandatory ≠ f.constraint.extendedPart.mandatory)
    || !(g.modes.has16 || g.modes.has32)

/-- Whether the unit of a form is what it accesses, and no form of the list that shares its slot
tells by W what the form does not. -/
def isCoherent (fs : List Form) (f : Form) : Bool :=
  (!f.isEvex || !f.acceptsMemory || f.countsAccess)
    && (!f.has .wig32
      || (f.scale.tuple.isScalar || decide (f.scale.tuple = .none))
        && fs.all fun g => decide (g.opcode ≠ f.opcode) || decide (g.encoding ≠ f.encoding)
          || g.ignoresW || f.excludes g)

end Form

namespace Table

theorem exists_isCoherent {f : Form} (hf : f ∈ forms) :
    ∃ fs, f.isCoherent fs ∧ ∀ g ∈ slot f.encoding f.map f.opcode, g ∈ fs :=
  of_all_sections (by decide +kernel) hf

theorem countsAccess_of_mem {f : Form} (hf : f ∈ forms) (hevex : f.encoding = .evex)
    (hmemory : f.acceptsMemory) : f.countsAccess := by
  obtain ⟨fs, hcoherent, -⟩ := exists_isCoherent hf
  have hcounts := (Bool.and_eq_true_iff.1 hcoherent).1
  simpa [Form.isEvex_iff.2 hevex, hmemory] using hcounts

end Table

namespace Form

variable {f : Form} {p : PrefixState} {mode : Mode} {m : ModRM}

theorem prefixMismatch_of_ne_legacy (h : f.encoding ≠ .legacy) :
    f.prefixMismatch p mode m = f.extendedMismatch f.constraint.extendedPart p mode m := by
  rw [prefixMismatch]
  cases hc : f.constraint with
  | legacy c => exact absurd (by rw [encoding, hc]; rfl) h
  | vex c | evex c | xop c => rfl

/-- What a form with an extended prefix demands of it. -/
theorem extendedMismatch_eq_none_iff {c : ExtendedConstraint} :
    f.extendedMismatch c p mode m = none ↔
      p.mandatory = c.mandatory ∧ (c.w.allows p.w ∨ f.has .wig32 ∧ mode ≠ .bits64) ∧
        ∀ length ∈ c.length, VectorLength.ofField?
          (if p.encoding = .evex ∧ p.broadcast ∧ f.modrm.present ∧ m.isRegister then 2 else p.l) =
            some length := by
  have hdemand : ∀ (reason : Mismatch) (met : Bool), demand reason met = none ↔ met := by
    intro reason met
    cases met <;> simp [demand]
  rw [extendedMismatch, Option.orElse_eq_none, Option.orElse_eq_none, hdemand, hdemand, hdemand]
  cases c.length with
  | none => simp
  | some length => simp [and_assoc]

/-- Under an EVEX prefix with a W that the form permits, what is accessed is the unit. -/
theorem displacementUnit_eq (hf : f ∈ Table.forms) (hmatch : f.mismatch p (.known mode) m = none)
    (hencoding : f.encoding = p.encoding) (hevex : p.encoding = .evex) (hmemory : f.namesMemory m)
    (hw : mode = .bits64 ∨ f.has .wig32 = false)
    (hbroadcast : p.broadcast → f.broadcast ≠ .unknown) :
    f.displacementUnit p = f.accessUnit (if p.broadcast then f.broadcast else f.memory) := by
  have hformEvex : f.encoding = .evex := hencoding.trans hevex
  have haccepts := acceptsMemory_of_namesMemory (modrmMismatch_of_mismatch hmatch) hmemory
  have hcounts := Table.countsAccess_of_mem hf hformEvex haccepts
  have hregister : m.isRegister = false := by
    simp only [namesMemory, Bool.and_eq_true, Bool.not_eq_true'] at hmemory
    exact hmemory.1.2
  rw [mismatch, Option.orElse_eq_none, Option.orElse_eq_none,
    prefixMismatch_of_ne_legacy (by rw [hformEvex]; decide), extendedMismatch_eq_none_iff] at hmatch
  obtain ⟨-, ⟨-, hallows, hlength⟩, -⟩ := hmatch
  have hallows : f.constraint.extendedPart.w.allows p.w := by
    rcases hallows with hallows | ⟨hwig, hmode⟩
    · exact hallows
    · rcases hw with hw | hw
      · exact absurd hw hmode
      · rw [hw] at hwig
        cases hwig
  have hat : ∀ vectorBits, f.countsAccessAt vectorBits p.w →
      f.scale.tuple.unit vectorBits f.scale.elementSize p.w p.broadcast =
        f.accessUnit (if p.broadcast then f.broadcast else f.memory) := by
    intro vectorBits h
    obtain ⟨hmemory, hrest⟩ := Bool.and_eq_true_iff.1 h
    cases hb : p.broadcast with
    | false => exact of_decide_eq_true hmemory
    | true =>
      split at hrest
      · rename_i hunknown
        exact absurd hunknown (hbroadcast hb)
      · exact of_decide_eq_true hrest
  have hcounts := List.all_eq_true.1 hcounts p.w (by cases p.w <;> decide)
  rw [hallows, Bool.not_true, Bool.false_or] at hcounts
  rw [displacementUnit, if_pos hevex]
  split at hcounts
  · rename_i hfixed
    rw [if_neg hfixed]
    exact hat _ hcounts
  · rename_i hzero
    rw [if_pos (not_not.1 hzero)]
    split at hcounts
    · rename_i length hsome
      have hfield := hlength length hsome
      rw [if_neg (by simp [hregister])] at hfield
      rw [PrefixState.vectorBits_eq hfield]
      exact hat _ hcounts
    · obtain ⟨huses, hcounts⟩ := Bool.and_eq_true_iff.1 hcounts
      rw [Tuple.unit_of_not_usesVector (by simpa using huses) _ 0]
      exact hat _ hcounts

end Form

/-! ### Instructions -/

/-- A byte has the same sign by itself. -/
theorem Word.twosComplement_singleton (b : UInt8) : twosComplement [b] = b.toInt8.toInt := by
  have hall := Bits.of_all_bytes (fun b => decide (twosComplement [b] = b.toInt8.toInt)) (by decide)
  exact of_decide_eq_true (hall b)

namespace Frame

variable {mode : Mode} {data : List UInt8} {c : Frame} {t : ReadState} {draft : Draft}
  (hframe : (Reader.frame mode).runOn { rest := data } = (.ok c, t)) (hroom : t.Room c.size)
  (hdraft : c.settled t.consumed (t.rest.take c.size) = some draft)

include hframe hroom hdraft

theorem wellFormed_of_settled :
    Body.WellFormed
      ⟨c.form, c.prefixes, c.isMemory, draft, c.relative, t.consumed + c.size⟩ := by
  obtain ⟨hregular, rfl, hrelative⟩ := Reader.regular_of_runOn_frame hframe
  obtain ⟨u, hconstants⟩ :=
    (Reader.exists_runOn_constants_iff hregular).2 ⟨hroom, draft, hdraft, rfl⟩
  have hbody := Reader.runOn_bind_of_ok (f := Reader.constants) hframe
  rw [← Reader.body_eq_frame_bind, hconstants, hrelative] at hbody
  exact (Reader.ensures_body c.mode rfl).of_ok hbody

/-- Under an EVEX prefix a displacement of one byte is that of the address that the ModR/M byte
names. -/
theorem exists_address_of_evex (hevex : c.prefixes.encoding = .evex)
    (hsize : draft.constants.displacement.size = 1) :
    ∃ a, c.address = some a ∧ a.size = 1 := by
  obtain ⟨hregular, -, -⟩ := Reader.regular_of_runOn_frame hframe
  cases haddress : c.address with
  | some a =>
    obtain ⟨-, hspan⟩ := memory_of_settled hregular hdraft haddress
    rw [hspan, Span.size_starting] at hsize
    exact ⟨a, rfl, hsize⟩
  | none =>
    -- Then there is no memory at all, and nothing has a displacement.
    have hbody := wellFormed_of_settled hframe hroom hdraft
    have hisMemory : c.isMemory = false := by rw [isMemory, haddress, Option.isSome_none]
    have hempty : (c.instruction 0 t.consumed draft).memory = {} :=
      hbody.memory_eq_default (hbody.hasMemory_eq_false_of_evex hevex hisMemory)
    have hmemory : (c.instruction 0 t.consumed draft).memory.displacementSize =
        draft.memory.displacementSize := Body.displacementSize_placeMemory ..
    obtain ⟨displacement, first, second, hconstants, -, -, hdisplacement, -⟩ :=
      exists_tiling_of_settled hregular hdraft
    rw [hconstants, ConstantOffsets.tiling, Span.size_starting] at hsize
    rw [hempty, hdisplacement, hsize] at hmemory
    exact absurd hmemory (by decide)

/-- What a memory operand accesses under an EVEX prefix. -/
theorem memorySize_of_evex (hevex : c.prefixes.encoding = .evex) (hisMemory : c.isMemory = true)
    (ip : UInt64) :
    (c.instruction ip t.consumed draft).memory.size =
      if c.prefixes.broadcast then c.form.broadcast else c.form.memory := by
  have hbody := wellFormed_of_settled hframe hroom hdraft
  have hany : (c.instruction ip t.consumed draft).hasMemory :=
    hbody.hasMemory_of_isMemory hisMemory
  rw [instruction, Body.hasMemory_place_eq_any] at hany
  change Body.memorySize _ = _
  rw [Body.memorySize, hany]
  simp [Body.broadcasts, hevex, hisMemory]

/-- A displacement of one byte is counted in the unit and cut to the address size. -/
theorem exists_displacement_byte {a : AddressPlan} (haddress : c.address = some a)
    (hsize : a.size = 1) (ip : UInt64) :
    draft.constants.displacement = ⟨t.consumed, 1⟩ ∧
      ∃ b, data[t.consumed]? = some b ∧
        ((c.instruction ip t.consumed draft).memory.displacement.toNat : Int) =
          b.toInt8.toInt * c.form.displacementUnit c.prefixes %
            (Nat.pow 2 c.width.bits : Nat) := by
  obtain ⟨hregular, rfl, -⟩ := Reader.regular_of_runOn_frame hframe
  obtain ⟨hmemory, hspan⟩ := memory_of_settled hregular hdraft haddress
  have hdisplacementSize : c.displacementSize = 1 := by
    rw [displacementSize, haddress, Option.elim_some, hsize]
  refine ⟨by rw [hspan, hsize]; rfl, ?_⟩
  -- The displacement is the first of the constants, for which there is room.
  obtain ⟨b, rest, hrest⟩ : ∃ b rest, t.rest = b :: rest := by
    refine List.exists_cons_of_length_pos (Nat.lt_of_lt_of_le ?_ hroom.1)
    rw [size, hdisplacementSize]
    omega
  have hbytes : (t.rest.take c.size).take c.displacementSize = [b] := by
    rw [List.take_take, size, hdisplacementSize, Nat.min_eq_left (Nat.le_add_right _ _), hrest]
    rfl
  refine ⟨b, ?_, ?_⟩
  · rw [← List.head?_drop, ← Reader.rest_of_runOn_frame hframe, hrest, List.head?_cons]
  have ha := hregular.address a haddress
  have hpointer : a.base.isPointer = false := by
    refine Bool.eq_false_of_not_eq_true fun hpointer => ?_
    have hfour := ha.size_of_relative (ha.relative_eq.trans hpointer)
    omega
  have hbase : draft.memory.base = a.base := by
    rw [(registers_of_settled hdraft).1, haddress]
    rfl
  have hdisplacement : draft.memory.displacement = c.displacement a.size [b] := by
    rw [← hbytes]
    simpa only [MemoryReference.unsegmented, opening, haddress] using
      congrArg MemoryReference.displacement hmemory
  have hplace := toNat_placeMemory ha (by omega) (by rw [hsize]; rfl) hbase hdisplacement
    (c.instruction ip t.consumed draft).nextIp
  rw [hpointer, if_neg Bool.false_ne_true, Int.zero_add, if_pos hsize,
    Word.twosComplement_singleton] at hplace
  have hrelative : c.relative = a.relative := by rw [relative, haddress, Option.elim_some]
  rw [← hplace, ← hrelative]
  rfl

end Frame

theorem exists_form_of_decode {mode : Mode} {data : List UInt8} {ip : UInt64} {inst : Instruction}
    (h : (decode mode data ip).outcome = .ok inst) : ∃ f, Table.form? inst.code = some f := by
  obtain ⟨c, t, hframe, -, draft, -, rfl⟩ := decode_eq_ok_iff.1 h
  exact ⟨c.form, Table.form?_code (Reader.regular_of_runOn_frame hframe).1.mem_forms⟩

/-- Under an EVEX prefix a displacement of one byte is counted in what is accessed: in an element if
the tuple of the form is of one, and otherwise in all of the memory operand, which a broadcast makes
smaller. What comes out is cut to the address size. Forms that ignore W outside 64-bit mode are left
out there, since the unit does not ignore it. -/
theorem decode_displacement_unit {mode : Mode} {data : List UInt8} {ip : UInt64}
    {inst : Instruction} {f : Form} (h : (decode mode data ip).outcome = .ok inst)
    (hevex : inst.encoding = .evex) (hsize : inst.constants.displacement.size = 1)
    (hform : Table.form? inst.code = some f) (hw : mode = .bits64 ∨ f.has .wig32 = false) :
    inst.memory.size = (if inst.broadcast then f.broadcast else f.memory) ∧
    ∃ b, data[inst.constants.displacement.offset]? = some b ∧
      (inst.memory.displacement.toNat : Int) =
        b.toInt8.toInt * f.accessUnit inst.memory.size %
          (Nat.pow 2 ((decode mode data ip).prefixes.addressSize mode).bits : Nat) := by
  obtain ⟨c, t, hframe, hroom, draft, hdraft, rfl⟩ := decode_eq_ok_iff.1 h
  rw [Reader.prefixes_of_runOn_frame hframe]
  have hevex : c.prefixes.encoding = .evex := hevex
  have hbody := Frame.wellFormed_of_settled hframe hroom hdraft
  obtain ⟨a, haddress, ha⟩ := Frame.exists_address_of_evex hframe hroom hdraft hevex hsize
  obtain ⟨hregular, rfl, -⟩ := Reader.regular_of_runOn_frame hframe
  obtain rfl : c.form = f :=
    Option.some.inj ((Table.form?_code hregular.mem_forms).symm.trans hform)
  have hisMemory : c.isMemory = true := by rw [Frame.isMemory, haddress, Option.isSome_some]
  have hmemorySize := Frame.memorySize_of_evex hframe hroom hdraft hevex hisMemory ip
  have hbroadcast : (c.instruction ip t.consumed draft).broadcast = c.prefixes.broadcast := by
    change Body.broadcasts _ = _
    simp [Body.broadcasts, hevex, hisMemory]
  refine ⟨by rw [hmemorySize, hbroadcast], ?_⟩
  obtain ⟨hspan, b, hb, hdisplacement⟩ :=
    Frame.exists_displacement_byte hframe hroom hdraft haddress ha ip
  obtain ⟨op, hlookup⟩ := hregular.lookup
  obtain ⟨hmem, hencoding, -, -, hmatch⟩ := Table.lookup_ok hlookup
  have hunit := Form.displacementUnit_eq hmem hmatch hencoding hevex
    (hregular.isMemory_eq.symm.trans hisMemory) hw fun hb => ?_
  · refine ⟨b, ?_, ?_⟩
    · change data[draft.constants.displacement.offset]? = _
      rw [hspan, hb]
    · rw [hdisplacement, hunit, hmemorySize]
      rfl
  · have hchecks := (Body.checks_of_checkForm hbody.checkForm hevex).1
    change Body.checkBroadcast c.form c.prefixes c.isMemory = none at hchecks
    rw [hisMemory] at hchecks
    exact Body.broadcast_ne_unknown hchecks hb

/-! ### Additions and moves of vectors -/

/-- An addition with a VEX prefix of two bytes, `vaddps xmm0, xmm0, [rip + 0x12345678]`. -/
def vaddpsShort : Instruction where
  code := ⟨1394⟩
  mode := some .bits64
  encoding := .vex
  ip := 0x1000
  nextIp := 0x1008
  length := 8
  operands := [{ register := ⟨125⟩ }, { register := ⟨125⟩ }, { kind := .memory }]
  memory :=
    { segment := .ds, base := .rip, scale := 1, displacement := 0x12346680, displacementSize := 4
      size := .packed128Float32 }
  constants := { displacement := ⟨4, 4⟩ }

/-- An addition that broadcasts, `vaddps zmm0, zmm0, dword bcst [rax - 4]`. -/
def vaddpsBroadcast : Instruction where
  code := ⟨1402⟩
  mode := some .bits64
  encoding := .evex
  nextIp := 7
  length := 7
  operands := [{ register := ⟨189⟩ }, { register := ⟨189⟩ }, { kind := .memory }]
  memory :=
    { segment := .ds, base := .rax, scale := 1, displacement := 0xfffffffffffffffc
      displacementSize := 1, size := .broadcast512Float32 }
  broadcast := true
  constants := { displacement := ⟨6, 1⟩ }

/-- A move of 32 bits outside 64-bit mode, `vmovd xmm0, dword ptr [eax + 4]`. -/
def vmovd : Instruction where
  code := ⟨1639⟩
  mode := some .bits32
  encoding := .evex
  nextIp := 7
  length := 7
  operands := [{ register := ⟨125⟩ }, { kind := .memory }]
  memory :=
    { segment := .ds, base := .eax, scale := 1, displacement := 4, displacementSize := 1
      size := .uint32 }
  constants := { displacement := ⟨6, 1⟩ }

/-- An addition between registers with a rounding mode, `vaddps zmm1, zmm2, zmm3, ru-sae`. -/
def vaddpsRounding : Instruction where
  code := ⟨1402⟩
  mode := some .bits64
  encoding := .evex
  nextIp := 6
  length := 6
  operands := [{ register := ⟨190⟩ }, { register := ⟨191⟩ }, { register := ⟨192⟩ }]
  rounding := .up
  sae := true

/-- The table is evaluated once for all specimens. -/
theorem decode_specimens :
    (decode .bits64 [0xc5, 0xf8, 0x58, 0x05, 0x78, 0x56, 0x34, 0x12] 0x1000).outcome =
        .ok vaddpsShort ∧
      (decode .bits64 [0x62, 0xf1, 0x7c, 0x58, 0x58, 0x40, 0xff] 0).outcome =
        .ok vaddpsBroadcast ∧
      (decode .bits32 [0x62, 0xf1, 0x7d, 0x08, 0x6e, 0x40, 0x01] 0).outcome = .ok vmovd ∧
      (decode .bits32 [0x62, 0xf1, 0xfd, 0x08, 0x6e, 0x40, 0x01] 0).outcome =
        .ok { vmovd with memory := { vmovd.memory with displacement := 8 } } ∧
      (∃ f, Table.form? vmovd.code = some f ∧ f.has .wig32 ∧ f.scalesByW) ∧
      (decode .bits64 [0x62, 0xf1, 0x6c, 0x58, 0x58, 0xcb] 0).outcome = .ok vaddpsRounding ∧
      ∃ f, Table.form? vaddpsRounding.code = some f ∧ f.has .rounding := by
  let short : List UInt8 := [0xc5, 0xf8, 0x58, 0x05, 0x78, 0x56, 0x34, 0x12]
  let broadcast : List UInt8 := [0x62, 0xf1, 0x7c, 0x58, 0x58, 0x40, 0xff]
  let clear : List UInt8 := [0x62, 0xf1, 0x7d, 0x08, 0x6e, 0x40, 0x01]
  let set : List UInt8 := [0x62, 0xf1, 0xfd, 0x08, 0x6e, 0x40, 0x01]
  let rounding : List UInt8 := [0x62, 0xf1, 0x6c, 0x58, 0x58, 0xcb]
  let p : PrefixState := { encoding := .evex, map := .map0F, mandatory := .p66 }
  have hshort : (Reader.opcode .bits64).runOn { rest := short } =
      (.ok 0x58, { rest := short.drop 3, consumed := 3
                   prefixes := { encoding := .vex, map := .map0F } }) := rfl
  have hbroadcast : (Reader.opcode .bits64).runOn { rest := broadcast } =
      (.ok 0x58, { rest := broadcast.drop 5, consumed := 5
                   prefixes := { encoding := .evex, map := .map0F, broadcast := true
                                 ll := 2, l := 2 } }) := rfl
  have hclear : (Reader.opcode .bits32).runOn { rest := clear } =
      (.ok 0x6e, { rest := clear.drop 5, consumed := 5, prefixes := p }) := rfl
  have hset : (Reader.opcode .bits32).runOn { rest := set } =
      (.ok 0x6e, { rest := set.drop 5, consumed := 5, prefixes := { p with w := true } }) := rfl
  have hrounding : (Reader.opcode .bits64).runOn { rest := rounding } =
      (.ok 0x58, { rest := rounding.drop 5, consumed := 5
                   prefixes := { encoding := .evex, map := .map0F, vvvv := 2, broadcast := true
                                 ll := 2, l := 2 } }) := rfl
  have htests : ((((((Reader.body .bits64).runOn { rest := short }).1.toOption.any fun body =>
        decide (body.place .bits64 0x1000 = vaddpsShort)) &&
      (((Reader.body .bits64).runOn { rest := broadcast }).1.toOption.any fun body =>
        decide (body.place .bits64 0 = vaddpsBroadcast))) &&
      (((Reader.body .bits32).runOn { rest := clear }).1.toOption.any fun body =>
        decide (body.place .bits32 0 = vmovd) &&
          (body.form.has .wig32 && body.form.scalesByW))) &&
      (((Reader.body .bits32).runOn { rest := set }).1.toOption.any fun body =>
        decide (body.place .bits32 0 =
          { vmovd with memory := { vmovd.memory with displacement := 8 } }))) &&
      (((Reader.body .bits64).runOn { rest := rounding }).1.toOption.any fun body =>
        decide (body.place .bits64 0 = vaddpsRounding) && body.form.has .rounding) := by
    simp only [Reader.body, Reader.selector, bind_assoc, Reader.runOn_bind_of_ok hshort,
      Reader.runOn_bind_of_ok hbroadcast, Reader.runOn_bind_of_ok hclear,
      Reader.runOn_bind_of_ok hset, Reader.runOn_bind_of_ok hrounding, Reader.withModRM,
      Reader.modrm, Reader.form, Table.lookupChecked, Table.lookup, Table.hasModRM,
      Table.slot_eq_filter, Table.forms_eq]
    decide +kernel
  rw [Bool.and_eq_true, Bool.and_eq_true, Bool.and_eq_true, Bool.and_eq_true] at htests
  obtain ⟨⟨⟨⟨hfirst, hsecond⟩, hthird⟩, hfourth⟩, hfifth⟩ := htests
  obtain ⟨first, _, hfirst, hshort⟩ := Reader.exists_of_any_runOn hfirst
  obtain ⟨second, _, hsecond, hbroadcast⟩ := Reader.exists_of_any_runOn hsecond
  obtain ⟨third, _, hthird, htest⟩ := Reader.exists_of_any_runOn hthird
  obtain ⟨fourth, _, hfourth, hset⟩ := Reader.exists_of_any_runOn hfourth
  obtain ⟨fifth, _, hfifth, htest'⟩ := Reader.exists_of_any_runOn hfifth
  rw [Bool.and_eq_true, Bool.and_eq_true] at htest
  obtain ⟨hclear, hwig, hscales⟩ := htest
  obtain ⟨hrounding, hhas⟩ := Bool.and_eq_true_iff.1 htest'
  have hmem := ((Reader.ensures_body .bits32 rfl).of_ok hthird).mem_forms
  have hmem' := ((Reader.ensures_body .bits64 rfl).of_ok hfifth).mem_forms
  have hvmovd := of_decide_eq_true hclear
  have hvaddps := of_decide_eq_true hrounding
  refine ⟨?_, ?_, ?_, ?_, ⟨third.form, ?_, hwig, hscales⟩, ?_, fifth.form, ?_, hhas⟩
  · exact decodeFrom_eq_ok_iff.2 ⟨_, _, hfirst, (of_decide_eq_true hshort).symm⟩
  · exact decodeFrom_eq_ok_iff.2 ⟨_, _, hsecond, (of_decide_eq_true hbroadcast).symm⟩
  · exact decodeFrom_eq_ok_iff.2 ⟨_, _, hthird, hvmovd.symm⟩
  · exact decodeFrom_eq_ok_iff.2 ⟨_, _, hfourth, (of_decide_eq_true hset).symm⟩
  · rw [← hvmovd]
    exact Table.form?_code hmem
  · exact decodeFrom_eq_ok_iff.2 ⟨_, _, hfifth, hvaddps.symm⟩
  · rw [← hvaddps]
    exact Table.form?_code hmem'

theorem decode_vaddps_vmovd :
    (decode .bits64 [0xc5, 0xf8, 0x58, 0x05, 0x78, 0x56, 0x34, 0x12] 0x1000).outcome =
        .ok vaddpsShort ∧
      (decode .bits64 [0x62, 0xf1, 0x7c, 0x58, 0x58, 0x40, 0xff] 0).outcome =
        .ok vaddpsBroadcast ∧
      (decode .bits32 [0x62, 0xf1, 0x7d, 0x08, 0x6e, 0x40, 0x01] 0).outcome = .ok vmovd ∧
      (decode .bits32 [0x62, 0xf1, 0xfd, 0x08, 0x6e, 0x40, 0x01] 0).outcome =
        .ok { vmovd with memory := { vmovd.memory with displacement := 8 } } ∧
      ∃ f, Table.form? vmovd.code = some f ∧ f.has .wig32 ∧ f.scalesByW := by
  obtain ⟨hshort, hbroadcast, hclear, hset, hform, -⟩ := decode_specimens
  exact ⟨hshort, hbroadcast, hclear, hset, hform⟩

theorem decode_displacement_unit_broadcast :
    (decode .bits64 [0x62, 0xf1, 0x7c, 0x58, 0x58, 0x40, 0xff] 0).outcome = .ok vaddpsBroadcast ∧
    ∃ f, Table.form? vaddpsBroadcast.code = some f ∧ f.broadcast = .broadcast512Float32 ∧
      (0xfffffffffffffffc : Int) =
        -1 * f.accessUnit .broadcast512Float32 % (Nat.pow 2 64 : Nat) := by
  obtain ⟨-, hdecode, -⟩ := decode_vaddps_vmovd
  obtain ⟨f, hform⟩ := exists_form_of_decode hdecode
  obtain ⟨hsize, b, hb, hdisplacement⟩ :=
    decode_displacement_unit hdecode rfl rfl hform (.inl rfl)
  cases hb
  rw [prefixes_decode] at hdisplacement
  exact ⟨hdecode, f, hform, hsize.symm, hdisplacement⟩

end X86Decoder
