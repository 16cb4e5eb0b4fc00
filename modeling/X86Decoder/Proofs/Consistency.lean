import Mathlib.Data.Option.Basic
import X86Decoder.Proofs.Totality

/-!
# Decoded instructions are consistent

The fields of a decoded instruction are filled in at different places, from the prefixes, the form
and the memory that was read. They agree with each other nevertheless, partly because of what the
form permits and partly because of what holds of every form of the table.

* `Instruction.Consistent`: how the fields of an instruction agree.
* `Body.WellFormed.consistent`: a well-formed body is consistent wherever it is placed.
* `Decoder.next_consistent`: every instruction that a decoder yields is consistent.
-/

namespace X86Decoder

/-- How the fields of a decoded instruction agree with each other and with the form. -/
structure Instruction.Consistent (inst : Instruction) : Prop where
  /-- The instruction has the operands of its form, at most four. -/
  operands : ∃ f, Table.form? inst.code = some f ∧ inst.operands.length = f.operands.length ∧
    inst.operands.length ≤ 4
  /-- The displacement is of a size that exists. -/
  displacementSize_mem : inst.memory.displacementSize ∈ [0, 1, 2, 4, 8]
  /-- A displacement takes bytes. -/
  displacement_eq_zero : inst.memory.displacementSize = 0 → inst.memory.displacement = 0
  /-- Zeroing goes with an opmask and not with a destination in memory. -/
  zeroing : inst.zeroing → inst.opmask ≠ .none ∧
    ∀ operand ∈ inst.operands.head?, operand.kind.isMemory = false
  /-- A rounding mode suppresses exceptions. -/
  rounding : inst.rounding ≠ .none → inst.sae
  /-- Exceptions are suppressed by an EVEX prefix and between registers. -/
  sae : inst.sae → inst.encoding = .evex ∧ inst.hasMemory = false
  /-- A broadcast is one by the size of the memory. -/
  broadcast_iff : inst.broadcast ↔ inst.memory.size.isBroadcast
  /-- A broadcast is from memory. -/
  broadcast : inst.broadcast → inst.hasMemory ∧ inst.sae = false
  /-- Under an EVEX prefix a vector of indices goes with an opmask. -/
  vsib : inst.encoding = .evex → ∀ f, Table.form? inst.code = some f →
    (∃ o ∈ f.operands, o.spec.encoding = .vsib) → inst.opmask ≠ .none
  /-- One repeat prefix is in force at most. -/
  repetition : ¬ (inst.repetition = some .repe ∧ inst.repetition = some .repne)
  /-- Without an operand in memory nothing is recorded about memory. -/
  memory_eq_default : inst.hasMemory = false → inst.memory = {}
  /-- An operand with an address has a scale that exists, and none to speak of without an index. -/
  scale : (∃ operand ∈ inst.operands, operand.kind = .memory ∨ operand.kind = .memory64) →
    inst.memory.scale ∈ [1, 2, 4, 8] ∧ (inst.memory.index = .none → inst.memory.scale = 1)

/-- An operand that has to be memory is in the rm field or has a vector of indices. -/
theorem OperandSpec.encoding_of_memoryOnly {spec : OperandSpec} (h : spec.memoryOnly) :
    spec.encoding = .rm ∨ spec.encoding = .vsib := by
  cases spec with
  | rmMemory => exact .inl rfl
  | vsib index element => exact .inr rfl
  | _ => cases h

namespace Body

/-! ### What the form permits -/

section CheckForm

variable {f : Form} {p : PrefixState} {isMemory : Bool}

/-- Under an EVEX prefix all checks have passed. -/
theorem checks_of_checkForm (h : checkForm f p isMemory = none) (hevex : p.encoding = .evex) :
    checkBroadcast f p isMemory = none ∧ checkOpmask f p = none ∧
      checkZeroing f p isMemory = none := by
  rw [checkForm, if_neg (not_not.2 hevex), Option.orElse_eq_none, Option.orElse_eq_none,
    Option.orElse_eq_none] at h
  exact h.2

/-- A broadcast from memory needs a form that has one. -/
theorem broadcast_ne_unknown (h : checkBroadcast f p true = none) (hb : p.broadcast) :
    f.broadcast ≠ .unknown := by
  intro hunknown
  simp [checkBroadcast, hb, hunknown] at h

theorem opmask_ne_zero_of_noK0 (h : checkOpmask f p = none) (hf : f.has .noK0) : p.opmask ≠ 0 := by
  intro hzero
  simp [checkOpmask, hzero, hf] at h

theorem zeroing_of_checkZeroing (h : checkZeroing f p isMemory = none) (hz : p.zeroing) :
    f.has .zeroing ∧ (isMemory && firstIsRm f) = false := by
  rw [checkZeroing, hz] at h
  cases hf : f.has .zeroing with
  | false => simp [hf] at h
  | true =>
    cases hrm : isMemory && firstIsRm f with
    | false => exact ⟨rfl, rfl⟩
    | true => simp [hf, hrm] at h

end CheckForm

/-! ### Bodies at their place -/

theorem kind_placeOperand (next : UInt64) (operand : Operand) :
    (placeOperand next operand).kind = operand.kind := by
  rw [placeOperand]
  split <;> rfl

/-- The register that an opmask field names is one. -/
theorem after_k0_ne_none {n : Nat} (hn : n < 8) : Register.k0.after n ≠ .none := by
  have hall : ∀ n < 8, Register.k0.after (n : Nat) ≠ .none := by decide
  exact hall n hn

theorem hasMemory_place_eq_any (body : Body) (mode : Mode) (ip : UInt64) :
    (body.place mode ip).hasMemory =
      body.draft.operands.any fun operand => operand.kind.isMemory := by
  simp [Instruction.hasMemory, place, kind_placeOperand, List.any_map, Function.comp_def]

namespace WellFormed

variable {body : Body} {mode : Mode} {ip : UInt64}

theorem sound (h : body.WellFormed) : body.form.Sound := Table.sound h.mem_forms

theorem length_operands (h : body.WellFormed) :
    body.draft.operands.length = body.form.operands.length := by
  simpa using congrArg List.length h.isMemory_operands

/-- The operands of the instruction that are in memory are those of the form. -/
theorem isMemory_operands_place (h : body.WellFormed) :
    (body.place mode ip).operands.map (fun operand => operand.kind.isMemory) =
      body.form.operands.map fun o => o.spec.inMemory body.isMemory := by
  rw [← h.isMemory_operands]
  simp [place, kind_placeOperand]

theorem hasMemory_place (h : body.WellFormed) :
    (body.place mode ip).hasMemory =
      body.form.operands.any fun o => o.spec.inMemory body.isMemory := by
  have hany : ((body.place mode ip).operands.map fun operand => operand.kind.isMemory).any id =
      (body.form.operands.map fun o => o.spec.inMemory body.isMemory).any id := by
    rw [h.isMemory_operands_place]
  simpa [Instruction.hasMemory, List.any_map, Function.comp_def] using hany

/-- Memory that the ModR/M byte names is an operand. -/
theorem hasMemory_of_isMemory (h : body.WellFormed) (hmemory : body.isMemory) :
    (body.place mode ip).hasMemory := by
  obtain ⟨o, ho, hspec⟩ := h.sound.exists_memory (h.acceptsMemory hmemory)
  rw [h.hasMemory_place, List.any_eq_true]
  refine ⟨o, ho, ?_⟩
  rcases hspec with hrm | hvsib
  · simp [OperandSpec.inMemory, hmemory, hrm]
  · cases hcase : o.spec <;> simp [hcase, OperandSpec.encoding] at hvsib
    simp [OperandSpec.inMemory, OperandSpec.isMemory]

/-- Between registers an instruction with an EVEX prefix has no memory at all. -/
theorem hasMemory_eq_false_of_evex (h : body.WellFormed) (hevex : body.prefixes.encoding = .evex)
    (hmemory : body.isMemory = false) : (body.place mode ip).hasMemory = false := by
  rw [h.hasMemory_place, List.any_eq_false]
  intro o ho hin
  have hspec : o.spec.isMemory := by simpa [OperandSpec.inMemory, hmemory] using hin
  -- The operand would have to be memory that the ModR/M byte names, but it names none.
  have honly := h.sound.memoryOnly_of_evex (h.encoding.trans hevex) o ho hspec
  rw [h.isMemory_of_memoryOnly o ho honly] at hmemory
  cases hmemory

/-- Under an EVEX prefix an opmask field in use names an opmask register. -/
theorem opmask_place_ne_none (h : body.WellFormed) (hevex : body.prefixes.encoding = .evex)
    (hopmask : body.prefixes.opmask ≠ 0) : (body.place mode ip).opmask ≠ .none := by
  have hplace : (body.place mode ip).opmask = Register.k0.after body.prefixes.opmask.toNat := by
    simp [place, hevex, hopmask]
  rw [hplace]
  exact after_k0_ne_none (h.valid.opmask_lt hevex)

/-- A destination in memory is not zeroed. A first operand in memory is in the rm field, since
vectors of addresses are not zeroed either. -/
theorem head_isMemory_eq_false (h : body.WellFormed) (hevex : body.prefixes.encoding = .evex)
    (hzeroing : body.prefixes.zeroing) {operand : Operand}
    (hoperand : operand ∈ (body.place mode ip).operands.head?) :
    operand.kind.isMemory = false := by
  obtain ⟨-, -, hcheck⟩ := checks_of_checkForm h.checkForm hevex
  obtain ⟨hform, hrm⟩ := zeroing_of_checkZeroing hcheck hzeroing
  -- The first operand of the instruction is that of the form.
  have hhead : (body.form.operands.map fun o => o.spec.inMemory body.isMemory).head? =
      some operand.kind.isMemory := by
    rw [← h.isMemory_operands_place, List.head?_map, Option.mem_def.1 hoperand]
    rfl
  cases hos : body.form.operands with
  | nil =>
    rw [hos] at hhead
    cases hhead
  | cons o os =>
    have hmem : o ∈ body.form.operands := by rw [hos]; exact List.mem_cons_self
    rw [hos, List.map_cons, List.head?_cons, Option.some.injEq] at hhead
    have hfirst : firstIsRm body.form = (o.spec.encoding == .rm) := by rw [firstIsRm, hos]
    rw [← hhead, OperandSpec.inMemory, ← hfirst, hrm, Bool.or_false]
    cases hspec : o.spec.isMemory with
    | false => rfl
    | true =>
      -- The check has refused the rm field, and the table has no zeroing with vectors of indices.
      have honly := h.sound.memoryOnly_of_evex (h.encoding.trans hevex) o hmem hspec
      rcases OperandSpec.encoding_of_memoryOnly honly with henc | henc
      · simp [hfirst, henc, h.isMemory_of_memoryOnly o hmem honly] at hrm
      · exact absurd henc (h.sound.head_ne_vsib hform o (by rw [hos]; rfl))

/-- A broadcast is one by the memory size of the form, and nothing else is. -/
theorem broadcasts_iff (h : body.WellFormed) :
    body.broadcasts ↔ body.memorySize.isBroadcast := by
  rw [memorySize]
  cases hb : body.broadcasts with
  | true =>
    -- The check has passed only forms with a memory size for broadcasts.
    simp only [broadcasts, Bool.and_eq_true, beq_iff_eq] at hb
    obtain ⟨⟨hevex, hbit⟩, hmemory⟩ := hb
    obtain ⟨hcheck, -, -⟩ := checks_of_checkForm h.checkForm hevex
    rw [hmemory] at hcheck
    have hform := h.sound.isBroadcast_broadcast (broadcast_ne_unknown hcheck hbit)
    simp [hform]
  | false =>
    -- No other memory size of the table is that of a broadcast.
    have hunknown : MemorySize.unknown.isBroadcast = false := by decide
    simp only [Bool.false_eq_true, ↓reduceIte, false_iff]
    split
    · simp [h.sound.isBroadcast_memory]
    · simp [hunknown]

/-- The memory of the instruction is that of the draft, but for the data accessed and for the
displacement of a relative address. -/
theorem exists_memory_place_eq (h : body.WellFormed) (mode : Mode) (ip : UInt64) :
    ∃ value, (body.place mode ip).memory =
        { body.draft.memory with displacement := value, size := body.memorySize } ∧
      (body.draft.memory.displacementSize = 0 → value = body.draft.memory.displacement) := by
  obtain ⟨value, hplace, hvalue⟩ := exists_placeMemory_eq body.relative
    (nextIp mode ip body.length) body.draft.memory
  refine ⟨value, ?_, fun hsize => hvalue ?_⟩
  · change { placeMemory _ _ _ with size := body.memorySize } = _
    rw [hplace]
  · -- A target takes the place of a displacement only where there is one.
    cases hrelative : body.relative with
    | false => rfl
    | true => exact absurd hsize (h.displacementSize_ne_zero hrelative)

theorem memory_eq_default (h : body.WellFormed)
    (hmemory : (body.place mode ip).hasMemory = false) : (body.place mode ip).memory = {} := by
  have hisMemory : body.isMemory = false := by
    cases hisMemory : body.isMemory with
    | false => rfl
    | true =>
      rw [h.hasMemory_of_isMemory hisMemory] at hmemory
      cases hmemory
  rw [hasMemory_place_eq_any] at hmemory
  have hdraft : body.draft.memory = {} := by
    refine h.coherent.eq_default hisMemory fun operand hoperand => ?_
    simpa using List.any_eq_false.1 hmemory operand hoperand
  have hsize : body.memorySize = .unknown := by
    simp [memorySize, broadcasts, hisMemory, hmemory]
  obtain ⟨value, hplace, hvalue⟩ := h.exists_memory_place_eq mode ip
  rw [hplace, hvalue (by rw [hdraft]), hdraft, hsize]

/-- A well-formed body is consistent wherever it is placed. -/
theorem consistent (h : body.WellFormed) (mode : Mode) (ip : UInt64) :
    (body.place mode ip).Consistent := by
  obtain ⟨value, hmemory, hvalue⟩ := h.exists_memory_place_eq mode ip
  exact {
    operands := by
      refine ⟨body.form, Table.form?_code h.mem_forms, ?_, ?_⟩
      · simp [place, h.length_operands]
      · have hle : body.form.operands.length ≤ 4 := h.sound.length_operands
        simpa [place, h.length_operands] using hle
    displacementSize_mem := by
      rw [hmemory]
      exact h.coherent.displacementSize_mem
    displacement_eq_zero := by
      rw [hmemory]
      intro hsize
      exact (hvalue hsize).trans (h.coherent.displacement_eq_zero hsize)
    zeroing := by
      intro hzeroing
      simp only [place, Bool.and_eq_true, beq_iff_eq] at hzeroing
      obtain ⟨hevex, hz⟩ := hzeroing
      exact ⟨h.opmask_place_ne_none hevex (h.valid.opmask_ne_zero hevex hz),
        fun _ => h.head_isMemory_eq_false hevex hz⟩
    rounding := by
      intro hne
      dsimp only [place] at hne ⊢
      split at hne
      · rename_i hrounding
        exact (Bool.and_eq_true_iff.1 hrounding).1
      · exact absurd rfl hne
    sae := by
      intro hsae
      simp only [place, Bool.and_eq_true, beq_iff_eq, Bool.not_eq_true'] at hsae
      obtain ⟨⟨hevex, -⟩, hisMemory⟩ := hsae
      exact ⟨hevex, h.hasMemory_eq_false_of_evex hevex hisMemory⟩
    broadcast_iff := by
      rw [hmemory]
      exact h.broadcasts_iff
    broadcast := by
      intro hbroadcast
      have hisMemory : body.isMemory := (Bool.and_eq_true_iff.1 hbroadcast).2
      refine ⟨h.hasMemory_of_isMemory hisMemory, ?_⟩
      simp [place, hisMemory]
    vsib := by
      rintro hevex f hf ⟨o, ho, henc⟩
      obtain rfl : body.form = f := Option.some.inj ((Table.form?_code h.mem_forms).symm.trans hf)
      obtain ⟨-, hcheck, -⟩ := checks_of_checkForm h.checkForm hevex
      have hnoK0 := h.sound.noK0 (h.encoding.trans hevex) o ho henc
      exact h.opmask_place_ne_none hevex (opmask_ne_zero_of_noK0 hcheck hnoK0)
    repetition := by
      rintro ⟨hrepe, hrepne⟩
      rw [hrepe] at hrepne
      cases hrepne
    memory_eq_default := h.memory_eq_default
    scale := by
      rintro ⟨operand, hoperand, hkind⟩
      obtain ⟨o, ho, rfl⟩ := List.mem_map.1 hoperand
      rw [kind_placeOperand] at hkind
      have haddress : o.kind.hasAddress := by
        rcases hkind with hkind | hkind <;> rw [hkind] <;> rfl
      have haddressed := h.coherent.addressed (.inr ⟨o, ho, haddress⟩)
      rw [hmemory]
      exact ⟨haddressed.scale_mem, haddressed.scale_eq_one⟩ }

end WellFormed

end Body

/-- Every instruction that a decoder yields is consistent. -/
theorem Decoder.next_consistent (d : Decoder) (inst : Instruction) (hnext : d.next.1 = .ok inst) :
    inst.Consistent := by
  -- A decoder outside its data yields nothing.
  have hposition : d.position ≤ d.data.length := by
    refine Nat.not_lt.1 fun hlt => ?_
    rw [Decoder.next, if_pos hlt] at hnext
    cases hnext
  obtain ⟨body, hbody, rfl⟩ := exists_body_of_next hposition hnext
  exact hbody.consistent d.mode d.currentIp

/-- An addition of vectors under an opmask that zeroes the masked elements. -/
theorem Decoder.next_consistent_vaddps :
    let d : Decoder := { mode := .bits64, data := [0x62, 0xf1, 0x6c, 0xc9, 0x58, 0xcb], ip := 0 }
    ∃ inst, d.next.1 = .ok inst ∧ inst.zeroing ∧ inst.Consistent := by
  intro d
  let p : PrefixState :=
    { encoding := .evex, map := .map0F, vvvv := 2, opmask := 1, zeroing := true, ll := 2, l := 2 }
  have hop : (Reader.opcode d.mode).runOn { rest := d.data } =
      (.ok 0x58, { rest := [0xcb], consumed := 5, prefixes := p }) := rfl
  have hmodrm : Table.hasModRM .evex .map0F 0x58 := by
    rw [Table.hasModRM, Table.slot_eq_filter, Table.forms_eq]
    decide +kernel
  have hselector : (Reader.selector d.mode).runOn { rest := d.data } =
      (.ok (p, 0x58, ⟨0xcb⟩), { rest := [], consumed := 6, prefixes := p }) :=
    Reader.runOn_selector hop (by decide) hmodrm
  have hzeroing : ((Reader.body d.mode).runOn { rest := d.data }).1.toOption.any
      fun body => (body.place d.mode 0).zeroing := by
    rw [Reader.runOn_body hselector, Reader.form, Table.lookupChecked, Table.lookup,
      Table.slot_eq_filter, Table.forms_eq]
    decide +kernel
  obtain ⟨body, t, hbody, htest⟩ := Reader.exists_of_any_runOn hzeroing
  have hnext : d.next.1 = .ok (body.place d.mode d.currentIp) :=
    (Decoder.next_eq_ok_iff (Nat.zero_le _)).2 ⟨body, t, hbody, rfl⟩
  exact ⟨_, hnext, htest, Decoder.next_consistent d _ hnext⟩

end X86Decoder
