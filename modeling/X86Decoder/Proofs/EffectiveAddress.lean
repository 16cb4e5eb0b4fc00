import X86Decoder.Proofs.Addressing
import X86Decoder.Proofs.Decodable

/-!
# Effective addresses

The memory operand of a decoded instruction stands for the address that its bytes stand for by the
tables of the architecture. The operands that are resolved after the address has been read leave it
alone, since no form has both a ModR/M memory operand and an absolute offset.

* `Table.hasOneAddress`: the operands of a form name one address at most.
* `Reader.exists_memory_of_body`: the address of a body is the one that was read after the opcode.
* `decode_effective_address`: the address of a decoded instruction.
-/

namespace X86Decoder

/-! ### Forms -/

/-- Whether an operand that the ModR/M byte encodes is the only one that names an address. -/
def Form.hasOneAddress (f : Form) : Bool :=
  f.operands.all fun o =>
    match o.spec with
    | .rm _ | .rmRegister _ | .rmMemory =>
      f.vsib?.isNone && f.operands.all fun o => !o.spec.isMoffs
    | .vsib cls _ => decide (f.vsib? = some cls) && f.operands.all fun o => !o.spec.isMoffs
    | _ => true

namespace Table

theorem hasOneAddress {f : Form} (hf : f ∈ forms) : f.hasOneAddress := by
  have hall : forms.all Form.hasOneAddress := by
    rw [forms_eq]
    decide +kernel
  exact List.all_eq_true.1 hall f hf

section OneAddress

variable {f : Form} {o : FormOperand} (hf : f ∈ forms) (ho : o ∈ f.operands)

include hf ho

/-- An operand in the rm field has no vector of indices beside it. -/
theorem vsib?_of_rm (h : o.spec.encoding = .rm) : f.vsib? = none := by
  have htest := List.all_eq_true.1 (hasOneAddress hf) o ho
  cases hspec : o.spec <;> rw [hspec] at h htest <;> cases h <;>
    exact Option.isNone_iff_eq_none.1 (Bool.and_eq_true_iff.1 htest).1

/-- The vector of indices of an operand is that of the form. -/
theorem vsib?_of_vsib {cls : RegisterClass} {element : DataWidth}
    (h : o.spec = .vsib cls element) : f.vsib? = some cls := by
  have htest := List.all_eq_true.1 (hasOneAddress hf) o ho
  rw [h] at htest
  exact of_decide_eq_true (Bool.and_eq_true_iff.1 htest).1

/-- There is no absolute offset beside a ModR/M memory operand. -/
theorem isMoffs_eq_false (h : o.spec.encoding = .rm ∨ o.spec.encoding = .vsib) :
    ∀ o ∈ f.operands, o.spec.isMoffs = false := by
  have htest := List.all_eq_true.1 (hasOneAddress hf) o ho
  have hall : f.operands.all fun o => !o.spec.isMoffs := by
    cases hspec : o.spec <;> rw [hspec] at h htest <;>
      first
      | exact (Bool.and_eq_true_iff.1 htest).2
      | rcases h with h | h <;> cases h
  intro o ho
  simpa using List.all_eq_true.1 hall o ho

end OneAddress

end Table

/-! ### Bodies -/

namespace Reader

variable {mode : Mode} {p : PrefixState} {op : UInt8} {m : ModRM} {f : Form} {s t : ReadState}

/-- An opcode that has a ModR/M byte is followed by it. -/
theorem rest_of_runOn_modrm (hpresent : Table.hasModRM p.encoding p.map op)
    (h : (modrm p op).runOn s = (.ok m, t)) : s.rest = m.byte :: t.rest := by
  rw [modrm] at h
  split at h
  · cases h
  · obtain ⟨b, u, hbyte, hpure⟩ := exists_of_runOn_bind_ok h
    cases hpure
    exact rest_of_runOn_byte hbyte

/-- Looking up a form reads nothing. -/
theorem eq_of_runOn_form (h : (form p mode op m).runOn s = (.ok f, t)) : t = s := by
  obtain ⟨found, u, hrequest, hfound⟩ := exists_of_runOn_bind_ok h
  obtain ⟨-, rfl⟩ := of_runOn_request hrequest
  split at hfound
  · cases hfound
    rfl
  · split at hfound <;> cases hfound

/-- The address of a body whose ModR/M byte names memory has been read first, and its operands have
left it alone. -/
theorem exists_memory_of_formBody {body : Body} (hmoffs : ∀ o ∈ f.operands, o.spec.isMoffs = false)
    (h : (formBody p mode m f).runOn s = (.ok body, t)) :
    body.prefixes = p ∧ body.isMemory = f.namesMemory m ∧ (f.namesMemory m →
      ∃ result u, (memory p mode f m).runOn s = (.ok result, u) ∧
        body.draft.memory.unsegmented = result.1.unsegmented) := by
  obtain ⟨_, u, hcheck, hdraft⟩ := exists_of_runOn_bind_ok h
  obtain ⟨start, v, hstart, hoperands⟩ := exists_of_runOn_bind_ok hdraft
  obtain ⟨final, w, hfinal, hrelative⟩ := exists_of_runOn_bind_ok hoperands
  obtain ⟨_, _, -, hposition⟩ := exists_of_runOn_bind_ok hrelative
  obtain ⟨_, _, -, hbody⟩ := exists_of_runOn_bind_ok hposition
  cases hbody
  refine ⟨rfl, rfl, fun hmemory => ?_⟩
  -- The check of the form has read nothing, so the address is read from the same state.
  obtain rfl : s = u := by
    cases hfault : Body.checkForm f p (f.namesMemory m) <;> rw [hfault] at hcheck <;> cases hcheck
    rfl
  rw [draft, if_pos hmemory] at hstart
  obtain ⟨result, x, hread, hpure⟩ := exists_of_runOn_bind_ok hstart
  cases hpure
  have hkept := (quiet_operands_unsegmented p mode m _ hmoffs _).ok _ _ _ hfinal
  exact ⟨result, _, hread, hkept⟩

/-- The address of a body has been read from the bytes after the opcode and the ModR/M byte. -/
theorem exists_memory_of_body {data : List UInt8} {body : Body}
    (h : (Reader.body mode).runOn { rest := data } = (.ok body, t))
    (hmoffs : ∀ o ∈ body.form.operands, o.spec.isMoffs = false) (hmemory : body.isMemory) :
    body.prefixes = ((opcode mode).runOn { rest := data }).2.prefixes ∧
    ∃ m result u v, ((opcode mode).runOn { rest := data }).2.rest = m.byte :: u.rest ∧
      m.isRegister = false ∧ (memory body.prefixes mode body.form m).runOn u = (.ok result, v) ∧
      body.draft.memory.unsegmented = result.1.unsegmented := by
  obtain ⟨⟨p, op, m⟩, u, hselector, hrest⟩ := exists_of_runOn_bind_ok h
  obtain ⟨f, v, hform, hbody⟩ := exists_of_runOn_bind_ok hrest
  obtain ⟨op', w, hopcode, hwith⟩ := exists_of_runOn_bind_ok hselector
  obtain ⟨p', w', hprefixes, hmodrm⟩ := exists_of_runOn_bind_ok hwith
  obtain ⟨m', u', hread, hselected⟩ := exists_of_runOn_bind_ok hmodrm
  cases hprefixes
  cases hselected
  obtain rfl := form_of_formBody hbody
  obtain ⟨hp, hnames, hexists⟩ := exists_memory_of_formBody hmoffs hbody
  rw [hnames] at hmemory
  obtain ⟨result, x, hresult, hkept⟩ := hexists hmemory
  obtain rfl := eq_of_runOn_form hform
  -- The form has a ModR/M byte, and so has every form that shares its opcode.
  obtain ⟨hmem, hencoding, hmap, hop, -⟩ := Table.lookup_ok (lookup_of_form hform)
  have hpresent := Table.hasModRM_eq hmem
  simp only [Form.namesMemory, Bool.and_eq_true, Bool.not_eq_true'] at hmemory
  rw [hencoding, hmap, hop, hmemory.1.1] at hpresent
  rw [hp, hopcode]
  exact ⟨rfl, m, result, v, x, rest_of_runOn_modrm hpresent hread, hmemory.1.2, hresult, hkept⟩

end Reader

/-! ### Instructions -/

/-- The bytes after the prefixes and the opcode. -/
def addressBytes (mode : Mode) (data : List UInt8) : List UInt8 :=
  ((Reader.opcode mode).runOn { rest := data }).2.rest

/-- The segment plays no part in an address. -/
theorem Body.target_placeMemory_unsegmented (relative : Bool) (next : UInt64)
    (memory : MemoryReference) (value : Register → Int) :
    (placeMemory relative next memory.unsegmented).target value =
      (placeMemory relative next memory).target value := by
  cases relative with
  | false => rfl
  | true =>
    by_cases hbase : memory.base = .eip <;>
      simp only [placeMemory, MemoryReference.unsegmented, MemoryReference.target, hbase, if_true,
        if_false, Bool.not_true, Bool.false_eq_true]

namespace Addressing

variable {a : Addressing} {modrm : UInt8} {bytes : List UInt8} {memory memory' : MemoryReference}

theorem Describes.of_unsegmented (h : a.Describes modrm bytes memory')
    (hkept : memory.unsegmented = memory'.unsegmented) : a.Describes modrm bytes memory := by
  intro value
  have hbase : memory.unsegmented.base = memory'.unsegmented.base := by rw [hkept]
  change memory.base = memory'.base at hbase
  rw [← Body.target_placeMemory_unsegmented, hkept, Body.target_placeMemory_unsegmented, hbase]
  exact h value

theorem Gathers.of_unsegmented {family : RegisterFamily} {high : Bool}
    (h : a.Gathers family high modrm bytes memory')
    (hkept : memory.unsegmented = memory'.unsegmented) :
    a.Gathers family high modrm bytes memory := by
  obtain ⟨segment, base, index, scale, displacement, displacementSize, size⟩ := memory
  obtain ⟨segment', base', index', scale', displacement', displacementSize', size'⟩ := memory'
  cases hkept
  exact ⟨h.sib, h.isPointer_base, h.family_index, h.index_index, h.scale, h.origin⟩

end Addressing

/-- An operand in the rm field that may be a register is in memory if the ModR/M byte names
memory. -/
theorem OperandSpec.inMemory_of_memoryOnly {spec : OperandSpec} {isMemory : Bool}
    (hencoding : spec.encoding = .rm ∨ spec.encoding = .vsib) (honly : spec.memoryOnly = false) :
    spec.inMemory isMemory = isMemory := by
  cases spec <;> simp_all [encoding, memoryOnly, inMemory, OperandSpec.isMemory]

/-- An operand that the ModR/M byte encodes is in memory only if that byte names memory. -/
theorem Body.WellFormed.isMemory_of_kind {body : Body} (h : body.WellFormed) {mode : Mode}
    {ip : UInt64} {i : Nat} {o : FormOperand} {operand : Operand}
    (ho : body.form.operands[i]? = some o)
    (hoperand : (body.place mode ip).operands[i]? = some operand) (hkind : operand.kind = .memory)
    (hencoding : o.spec.encoding = .rm ∨ o.spec.encoding = .vsib) : body.isMemory := by
  have hflags : ((body.place mode ip).operands.map fun operand => operand.kind.isMemory)[i]? =
      (body.form.operands.map fun o => o.spec.inMemory body.isMemory)[i]? := by
    rw [h.isMemory_operands_place]
  rw [List.getElem?_map, List.getElem?_map, ho, hoperand, Option.map_some, Option.map_some, hkind,
    Option.some.injEq] at hflags
  -- A form that asks for memory is found under ModR/M bytes that name memory only.
  cases honly : o.spec.memoryOnly with
  | true => exact h.isMemory_of_memoryOnly o (List.mem_of_getElem? ho) honly
  | false =>
    rw [OperandSpec.inMemory_of_memoryOnly hencoding honly] at hflags
    exact hflags.symm

/-- A ModR/M memory operand of a decoded instruction stands for the address that the tables of the
architecture give to the bytes after the opcode, whatever the registers hold. For a vector of
indices this is so of the base and the displacement, and the index is the vector register that the
SIB byte names. -/
theorem decode_effective_address {mode : Mode} {data : List UInt8} {ip : UInt64}
    {inst : Instruction} {f : Form} {i : Nat} {o : FormOperand} {operand : Operand}
    (hinst : (decode mode data ip).outcome = .ok inst) (hform : Table.form? inst.code = some f)
    (ho : f.operands[i]? = some o) (hoperand : inst.operands[i]? = some operand)
    (hkind : operand.kind = .memory)
    (hencoding : o.spec.encoding = .rm ∨ o.spec.encoding = .vsib) :
    ∃ modrm bytes, addressBytes mode data = modrm :: bytes ∧
      let p := (decode mode data ip).prefixes
      let a := p.addressing mode f inst.nextIp
      (o.spec.encoding = .rm → ∀ value : Register → Int,
        inst.memory.target value ≡ a.effective value modrm bytes
          [ZMOD (Nat.pow 2 a.width.bits : Nat)]) ∧
      ∀ cls element, o.spec = .vsib cls element →
        a.Gathers cls.family p.vHigh modrm bytes inst.memory := by
  obtain ⟨body, t, hbody, rfl⟩ := decodeFrom_eq_ok_iff.1 hinst
  have hwell := (Reader.ensures_body mode rfl).of_ok hbody
  obtain rfl : body.form = f :=
    Option.some.inj ((Table.form?_code hwell.mem_forms).symm.trans hform)
  have hmem := List.mem_of_getElem? ho
  obtain ⟨hprefixes, m, result, u, v, hbytes, hregister, hread, hkept⟩ :=
    Reader.exists_memory_of_body hbody (Table.isMoffs_eq_false hwell.mem_forms hmem hencoding)
      (hwell.isMemory_of_kind ho hoperand hkind hencoding)
  obtain ⟨hrelative, -⟩ := Reader.relative_of_runOn_body rfl hbody
  rw [prefixes_decode, ← hprefixes]
  refine ⟨m.byte, u.rest, hbytes, fun hrm value => ?_, fun cls element hspec => ?_⟩
  · -- The place turns an offset from the instruction pointer into an address.
    have hvsib := Table.vsib?_of_rm hwell.mem_forms hmem hrm
    have hdescribes := Reader.describes_memory (body.place mode ip).nextIp hregister hvsib hread
    have htarget := hdescribes.of_unsegmented hkept value
    rw [← hrelative] at htarget
    exact htarget
  · have hvsib := Table.vsib?_of_vsib hwell.mem_forms hmem hspec
    have hvector := (Table.sound hwell.mem_forms).isVector_of_vsib? hvsib
    have hgathers := (Reader.gathers_memory (body.place mode ip).nextIp hvsib hvector
      hread).of_unsegmented hkept
    -- An address that is not relative is the same at every place.
    have hplaced : (body.place mode ip).memory =
        { body.draft.memory with size := body.memorySize } := by
      rw [Body.place, hrelative, hgathers.isPointer_base]
      rfl
    rw [hplaced]
    exact ⟨hgathers.sib, hgathers.isPointer_base, hgathers.family_index, hgathers.index_index,
      hgathers.scale, hgathers.origin⟩

/-- An addition of vectors of 512 bits. Its displacement of one byte is counted in 64 bytes. -/
theorem decode_effective_address_vaddps :
    ∃ inst, (decode .bits64 [0x62, 0xf1, 0x7c, 0x48, 0x58, 0x44, 0x8b, 0xff] 0).outcome = .ok inst ∧
      ∀ value : Register → Int, inst.memory.target value ≡
        value (.numbered .w64 3) + 4 * value (.numbered .w64 1) - 64
          [ZMOD (Nat.pow 2 64 : Nat)] := by
  let data : List UInt8 := [0x62, 0xf1, 0x7c, 0x48, 0x58, 0x44, 0x8b, 0xff]
  let p : PrefixState := { encoding := .evex, map := .map0F, ll := 2, l := 2 }
  have hop : (Reader.opcode .bits64).runOn { rest := data } =
      (.ok 0x58, { rest := [0x44, 0x8b, 0xff], consumed := 5, prefixes := p }) := rfl
  -- The third operand is in the rm field and in memory, and its unit is 64.
  have htest : ((Reader.body .bits64).runOn { rest := data }).1.toOption.any fun body =>
      (body.form.operands[2]?.any fun o => o.spec.isRm) &&
      (body.draft.operands[2]?.any fun o => o.kind == .memory) &&
      body.form.displacementUnit p == 64 := by
    rw [Reader.body, Reader.selector, bind_assoc, Reader.runOn_bind_of_ok hop]
    simp only [Reader.withModRM, Reader.modrm, Reader.form, Table.lookupChecked, Table.lookup,
      Table.hasModRM, Table.slot_eq_filter, Table.forms_eq]
    decide +kernel
  obtain ⟨body, t, hbody, hall⟩ := Reader.exists_of_any_runOn htest
  simp only [Bool.and_eq_true, Option.any_eq_true] at hall
  obtain ⟨⟨⟨o, ho, hrm⟩, operand, hoperand, hkind⟩, hunit⟩ := hall
  have hinst : (decode .bits64 data 0).outcome = .ok (body.place .bits64 0) :=
    decodeFrom_eq_ok_iff.2 ⟨body, t, hbody, rfl⟩
  have hplaced : (body.place .bits64 0).operands[2]? =
      some (Body.placeOperand (body.place .bits64 0).nextIp operand) := by
    rw [Body.place, List.getElem?_map, hoperand]
    rfl
  have hform := Table.form?_code ((Reader.ensures_body .bits64 rfl).of_ok hbody).mem_forms
  obtain ⟨modrm, bytes, hbytes, htarget, -⟩ := decode_effective_address hinst hform ho hplaced
    ((Body.kind_placeOperand _ _).trans (eq_of_beq hkind)) (.inl (OperandSpec.isRm_iff.1 hrm))
  rw [addressBytes, hop] at hbytes
  cases hbytes
  rw [prefixes_decode, hop] at htarget
  refine ⟨_, hinst, fun value => (htarget (OperandSpec.isRm_iff.1 hrm) value).trans ?_⟩
  change value (.numbered .w64 3) + -1 * body.form.displacementUnit p +
    4 * value (.numbered .w64 1) ≡ _ [ZMOD _]
  rw [eq_of_beq hunit]
  exact congrArg (· % _) (by omega)

end X86Decoder
