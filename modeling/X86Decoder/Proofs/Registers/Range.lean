import X86Decoder.Proofs.Registers.Operand

/-!
# The registers of an instruction

Every register of a decoded instruction is of the family that its operand declares, and its number
and width are those that the mode and the prefixes allow. This holds of the register operands, and
of the base and the index of an address.

* `AddressPlan.Fits`: the registers of an address.
* `Reader.quiet_plan_fits`: the ModR/M and SIB bytes name such registers.
* `decode_registers_fit`: all registers of a decoded instruction.
-/

namespace X86Decoder

/-! ### Addresses -/

/-- The base and the index of an address are registers that exist. -/
structure AddressPlan.Fits (a : AddressPlan) (mode : Mode) (p : PrefixState) : Prop where
  base : a.base.Fits mode p.encoding p.hasRex
  index : a.index.Fits mode p.encoding p.hasRex
  isPointer_base : mode ≠ .bits64 → a.base.isPointer = false

namespace Register.Fits

variable {mode : Mode} {p : PrefixState} (hp : p.Reaches mode) {r : Register}

include hp

/-- A register of fewer than eight that is narrow and no byte register exists everywhere. -/
theorem of_narrow (hindex : r.index < 8) (hbits : r.bits ≤ 32) (hrex : r ∉ rexBytes) :
    r.Fits mode p.encoding p.hasRex :=
  .of_lt hp (Nat.lt_of_lt_of_le hindex (eight_le_registerLimit ..)) (fun _ _ => hbits)
    fun h => absurd h hrex

theorem of_none : Register.none.Fits mode p.encoding p.hasRex :=
  of_narrow hp (by decide) (by decide) (by decide)

/-- The instruction pointers are narrow in number, but not in width. -/
theorem of_isPointer (hmode : mode = .bits64) (hr : r.isPointer) :
    r.Fits mode p.encoding p.hasRex := by
  have hpointers : ∀ r ∈ [rip, eip], r.index < 8 ∧ r ∉ rexBytes := by decide
  have hmem : r ∈ [rip, eip] := by simpa [isPointer] using hr
  obtain ⟨hindex, hrex⟩ := hpointers r hmem
  exact .of_lt hp (Nat.lt_of_lt_of_le hindex (eight_le_registerLimit ..)) (fun h => absurd hmode h)
    fun h => absurd h hrex

end Register.Fits

namespace Reader

variable {mode : Mode} {p : PrefixState} (hp : p.Reaches mode)

include hp

/-- A register that is numbered by a field of three bits and one more. -/
theorem quiet_generalRegister_fits {width : WordSize} (hwidth : mode ≠ .bits64 → width ≠ .w64)
    {n : UInt8} (hn : n.toNat ≤ 7) {high : Bool} (hhigh : mode ≠ .bits64 → high = false) :
    (request (Register.ofBits width.bits (extended high n))).Quiet fun r =>
      r.Fits mode p.encoding p.hasRex ∧ r.isPointer = false := by
  refine quiet_request fun r hr => ?_
  rw [Register.ofBits_wordSize] at hr
  cases hr
  have hne : DataWidth.ofWordSize width ≠ .w8 := by cases width <;> decide
  obtain ⟨-, hbits, hindex, hrex⟩ := Register.general_spec hne (extended_lt hn high)
  refine ⟨.of_lt hp ?_ (fun hmode _ => ?_) fun h => absurd h hrex,
    Register.isPointer_general _ (extended_lt hn high)⟩
  · rw [hindex]
    exact PrefixState.Reaches.number_lt hn hhigh fun _ => rfl
  · rw [hbits]
    have hnarrow := hwidth hmode
    cases width <;> first | decide | exact absurd rfl hnarrow

theorem quiet_indexRegister_fits {width : WordSize} (hwidth : mode ≠ .bits64 → width ≠ .w64)
    (vsib : Option RegisterClass) (s : Sib) :
    (request (indexRegister p width vsib s)).Quiet fun r => r.Fits mode p.encoding p.hasRex := by
  have hx : mode ≠ .bits64 → p.x = false := fun hmode => (hp.rex hmode).2.2.1
  have hindex : s.index.toNat ≤ 7 := Bits.toNat_getRun_le _ _ _
  cases vsib with
  | some cls =>
    refine quiet_request fun r hr => ?_
    have hlt := PrefixState.Reaches.number_lt hindex hx fun h => (hp.high h).2.2
    by_cases hnone : r = .none
    · rw [hnone]
      exact Register.Fits.of_none hp
    · obtain ⟨hfamily, hnumber, hrex⟩ := RegisterFamily.member_spec
        (Nat.lt_of_lt_of_le hlt (registerLimit_le ..)) hr hnone
      refine .of_lt hp (by rwa [hnumber]) (fun _ hgeneral => ?_) fun h => absurd h hrex
      -- The general purpose registers are no numbered family.
      have hmember : cls.family = .general := hfamily.symm.trans hgeneral
      rw [indexRegister, hmember] at hr
      cases hr
  | none =>
    dsimp only [indexRegister]
    split
    · exact quiet_pure (Register.Fits.of_none hp)
    · exact (quiet_generalRegister_fits hp hwidth hindex hx).mono fun _ h => h.1

theorem quiet_plan16_fits (m : ModRM) : (plan16 m).Quiet fun a => a.Fits mode p := by
  have hall : ∀ pair ∈ addressPairs16,
      (pair.1.index < 8 ∧ pair.1.bits ≤ 32 ∧ pair.1 ∉ Register.rexBytes) ∧
        pair.2.index < 8 ∧ pair.2.bits ≤ 32 ∧ pair.2 ∉ Register.rexBytes := by decide
  have hpair : (request (addressPair16 m.rm)).Quiet fun pair => AddressPlan.Fits
      { base := pair.1, index := pair.2, scale := 1, size := 0 } mode p := by
    refine quiet_request fun pair hfound => ?_
    have hpointer := isPointer_of_addressPair16 hfound
    rw [addressPair16] at hfound
    split at hfound <;> cases hfound
    rename_i hfound
    obtain ⟨hbase, hindex⟩ := hall pair (List.mem_of_getElem? hfound)
    exact ⟨Register.Fits.of_narrow hp hbase.1 hbase.2.1 hbase.2.2,
      Register.Fits.of_narrow hp hindex.1 hindex.2.1 hindex.2.2, fun _ => hpointer⟩
  refine hpair.bind fun pair ha => ?_
  -- A displacement alone takes the place of one pair.
  split
  · split
    · exact quiet_pure ⟨Register.Fits.of_none hp, ha.index, fun _ => rfl⟩
    · exact quiet_pure ⟨ha.base, ha.index, ha.isPointer_base⟩
  · split <;> exact quiet_pure ⟨ha.base, ha.index, ha.isPointer_base⟩

theorem quiet_plan32_fits (f : Form) (m : ModRM) {width : WordSize}
    (hwidth : mode ≠ .bits64 → width ≠ .w64) :
    (plan32 p mode f m width).Quiet fun a => a.Fits mode p := by
  have hb : mode ≠ .bits64 → p.b = false := fun hmode => (hp.rex hmode).2.2.2
  have hnone := Register.Fits.of_none hp
  rw [plan32]
  split
  · refine (quiet_byte.bind fun b _ => quiet_pure trivial).bind fun s (_ : True) => ?_
    refine (quiet_indexRegister_fits hp hwidth f.vsib? s).bind fun index hindex => ?_
    split
    · exact quiet_pure ⟨hnone, hindex, fun _ => rfl⟩
    · exact (quiet_generalRegister_fits hp hwidth s.base_le hb).bind fun base hbase =>
        quiet_pure ⟨hbase.1, hindex, fun _ => hbase.2⟩
  split
  · exact quiet_throw _
  split
  · split
    · -- Only in 64-bit mode is there an address relative to the instruction pointer.
      rename_i hmode
      refine quiet_pure ⟨Register.Fits.of_isPointer hp hmode ?_, hnone, fun h => absurd hmode h⟩
      cases width <;> rfl
    · exact quiet_pure ⟨hnone, hnone, fun _ => rfl⟩
  · exact (quiet_generalRegister_fits hp hwidth m.rm_le hb).bind fun base hbase =>
      quiet_pure ⟨hbase.1, hnone, fun _ => hbase.2⟩

theorem quiet_plan_fits (f : Form) (m : ModRM) :
    (plan p mode f m).Quiet fun a => a.Fits mode p := by
  rw [plan]
  split
  · split
    · exact quiet_throw _
    · exact quiet_plan16_fits hp m
  · exact quiet_plan32_fits hp f m fun _ => by decide
  · rename_i haddress
    refine quiet_plan32_fits hp f m fun hmode => ?_
    -- Addresses of 64 bits exist in 64-bit mode only.
    cases mode with
    | bits64 => exact absurd rfl hmode
    | bits16 | bits32 =>
      simp only [PrefixState.addressSize] at haddress
      split at haddress <;> cases haddress

end Reader

theorem Body.index_placeMemory (relative : Bool) (next : UInt64) (memory : MemoryReference) :
    (placeMemory relative next memory).index = memory.index := by
  rw [placeMemory]
  split
  · rfl
  · split <;> rfl

/-! ### Instructions -/

namespace Frame

variable {mode : Mode} {data : List UInt8} {c : Frame} {t : ReadState}

theorem reaches_of_runOn_frame (h : (Reader.frame mode).runOn { rest := data } = (.ok c, t)) :
    c.prefixes.Reaches mode ∧ c.prefixes.RexHoldsB := by
  obtain ⟨op, u, -, -, -, hopcode, hprefixes, -⟩ := Reader.exists_opcode_of_runOn_frame h
  rw [hprefixes]
  exact ⟨(Reader.leads_opcode mode).ok _ _ _ hopcode (PrefixState.unextended_empty mode),
    Reader.rexHoldsB_of_opcode hopcode⟩

/-- The registers of the address that the ModR/M byte names. -/
theorem fits_of_runOn_frame (h : (Reader.frame mode).runOn { rest := data } = (.ok c, t))
    {a : AddressPlan} (ha : c.address = some a) : a.Fits mode c.prefixes := by
  have hp := (reaches_of_runOn_frame h).1
  obtain ⟨-, u, m, f, v, -, hprefixes, hframe⟩ := Reader.exists_opcode_of_runOn_frame h
  rw [hprefixes] at hp ⊢
  obtain ⟨_, _, -, hrest⟩ := Reader.exists_of_runOn_bind_ok hframe
  obtain ⟨a?, _, hplan, hend⟩ := Reader.exists_of_runOn_bind_ok hrest
  have haddress : a? = some a := by
    cases hend
    exact ha
  rw [Reader.plan?, haddress] at hplan
  split at hplan
  · obtain ⟨a', _, hread, hsome⟩ := Reader.exists_of_runOn_bind_ok hplan
    cases hsome
    exact (Reader.quiet_plan_fits hp f m).ok _ _ _ hread
  · cases hplan

end Frame

/-- The registers of an instruction stay inside their family and mode. Every register operand holds
a register of the family, and for general purpose registers of the width, that its form declares;
and the register operands, the base and the index exist in the mode and with the prefixes at hand.
-/
theorem decode_registers_fit {mode : Mode} {data : List UInt8} {ip : UInt64} {inst : Instruction}
    (h : (decode mode data ip).outcome = .ok inst) :
    (∃ f, Table.form? inst.code = some f ∧
      ∀ (i : Nat) (o : Operand), inst.operands[i]? = some o → o.kind = .register →
        ∃ declared : FormOperand, f.operands[i]? = some declared ∧ o.register ≠ .none ∧
          o.register.family = declared.spec.family ∧
          (declared.spec.family = .general → o.register.bits = declared.spec.bits) ∧
          o.register.Fits mode inst.encoding (decode mode data ip).prefixes.hasRex) ∧
    inst.memory.base.Fits mode inst.encoding (decode mode data ip).prefixes.hasRex ∧
    inst.memory.index.Fits mode inst.encoding (decode mode data ip).prefixes.hasRex ∧
    (mode ≠ .bits64 → inst.memory.base ≠ .rip ∧ inst.memory.base ≠ .eip) := by
  obtain ⟨c, t, hframe, -, draft, hdraft, rfl⟩ := decode_eq_ok_iff.1 h
  obtain ⟨hregular, rfl, -⟩ := Reader.regular_of_runOn_frame hframe
  obtain ⟨hp, hrex⟩ := Frame.reaches_of_runOn_frame hframe
  rw [Reader.prefixes_of_runOn_frame hframe]
  refine ⟨⟨c.form, Table.form?_code hregular.mem_forms, fun i o ho hkind => ?_⟩, ?_⟩
  · have hget : (draft.operands.map
        (Body.placeOperand (c.instruction ip t.consumed draft).nextIp))[i]? = some o := ho
    rw [List.getElem?_map] at hget
    obtain ⟨v, hv, rfl⟩ := Option.map_eq_some_iff.1 hget
    rw [Body.kind_placeOperand] at hkind
    rw [Body.placeOperand_of_ne_nearBranch _ (by rw [hkind]; rfl)]
    obtain ⟨os, declared, os', heq, rfl, hvalue⟩ := Frame.exists_value_of_settled hdraft hv
    have hmem : declared ∈ c.form.operands := heq ▸ List.mem_append_right os List.mem_cons_self
    have hselects := Frame.selects_of_value hregular hrex hp hmem hvalue hkind
    refine ⟨declared, by rw [heq, List.getElem?_append_right (Nat.le_refl _), Nat.sub_self]; rfl,
      hselects.ne_none, hselects.family_eq, hselects.bits_eq, ?_⟩
    refine .of_lt hp hselects.index_lt (fun hmode hfamily => ?_) hselects.rex_of_mem
    -- The width of the register is the one that the form declares.
    rw [hselects.family_eq] at hfamily
    rw [hselects.bits_eq hfamily]
    exact (hregular.bounds hrex hmem).1 hmode hfamily
  · have hbase : (c.instruction ip t.consumed draft).memory.base = draft.memory.base :=
      Body.base_placeMemory ..
    have hindex : (c.instruction ip t.consumed draft).memory.index = draft.memory.index :=
      Body.index_placeMemory ..
    obtain ⟨hplanBase, hplanIndex⟩ := Frame.registers_of_settled hdraft
    rw [hbase, hindex, hplanBase, hplanIndex]
    have hnone : Register.none.Fits c.mode c.prefixes.encoding c.prefixes.hasRex :=
      Register.Fits.of_none hp
    cases haddress : c.address with
    | none => exact ⟨hnone, hnone, fun _ => by decide⟩
    | some a =>
      have hfits := Frame.fits_of_runOn_frame hframe haddress
      refine ⟨hfits.base, hfits.index, fun hmode => ?_⟩
      simpa [Register.isPointer] using hfits.isPointer_base hmode

/-- R8 is extended by a REX prefix, and the base RIP is one of 64-bit mode. -/
theorem decode_registers_fit_imul :
    (decode .bits64 [0x4c, 0x69, 0x05, 0x78, 0x56, 0x34, 0x12, 0xf0, 0xff, 0xff, 0xff]
        0x1000).outcome = .ok imul ∧
      (Register.general .w64 8).Fits .bits64 .legacy true ∧
      Register.rip.Fits .bits64 .legacy true := by
  obtain ⟨⟨f, -, hoperands⟩, hbase, -⟩ := decode_registers_fit decode_imul_call.1
  obtain ⟨declared, -, -, -, -, hfits⟩ := hoperands 0 _ rfl rfl
  rw [prefixes_decode] at hfits hbase
  exact ⟨decode_imul_call.1, hfits, hbase⟩

end X86Decoder
