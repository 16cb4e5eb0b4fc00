import Mathlib.Data.Option.Basic
import X86Decoder.Decode.Basic
import X86Decoder.Proofs.Numbering

/-!
# The form table

The index of the table groups its forms by slot, so a lookup yields a form of the table that
matches the instruction. `Form.Sound` collects what the decoder relies on in a form, and every form
of the table has it.

* `Table.slot_eq_filter`: the forms of a slot, in table order.
* `Table.lookup_ok`: what a successful lookup yields.
* `Table.sound`: every form of the table is sound.
-/

namespace X86Decoder

namespace FormIndex

/-- The encoding, the opcode map and the opcode are the digits of a slot's number. -/
theorem slotNumber?_digits {e : EncodingKind} {m : OpcodeMap} {o : UInt8} {n : Nat}
    (h : slotNumber? e m o = some n) :
    e ∈ EncodingKind.all ∧ m ∈ OpcodeMap.all ∧ e.number = n / 256 / 7 ∧ m.number = n / 256 % 7 ∧
      o.toNat = n % 256 := by
  have ho := o.toNat_lt
  cases e <;> cases m <;> simp only [slotNumber?, EncodingKind.number, OpcodeMap.number,
    Option.some.injEq, reduceCtorEq] at h <;>
    refine ⟨by decide, by decide, ?_, ?_, by omega⟩ <;>
    simp only [EncodingKind.number, OpcodeMap.number] <;> omega

/-- The number of a slot determines the slot. -/
theorem slotNumber?_inj {e e' : EncodingKind} {m m' : OpcodeMap} {o o' : UInt8} {n : Nat}
    (h : slotNumber? e m o = some n) (h' : slotNumber? e' m' o' = some n) :
    e = e' ∧ m = m' ∧ o = o' := by
  obtain ⟨he, hm, henumber, hmnumber, honumber⟩ := slotNumber?_digits h
  obtain ⟨he', hm', henumber', hmnumber', honumber'⟩ := slotNumber?_digits h'
  have hencoding : ∀ e ∈ EncodingKind.all, ∀ e' ∈ EncodingKind.all,
      e.number = e'.number → e = e' := by decide
  have hmap : ∀ m ∈ OpcodeMap.all, ∀ m' ∈ OpcodeMap.all, m.number = m'.number → m = m' := by
    decide
  refine ⟨hencoding e he e' he' ?_, hmap m hm m' hm' ?_, UInt8.toNat_inj.1 ?_⟩
  · rw [henumber, henumber']
  · rw [hmnumber, hmnumber']
  · rw [honumber, honumber']

/-- The number of a slot is below the number of slots. -/
theorem slotNumber?_lt {e : EncodingKind} {m : OpcodeMap} {o : UInt8} {n : Nat}
    (h : slotNumber? e m o = some n) : n < slotCount := by
  have ho := o.toNat_lt
  cases e <;> cases m <;> simp only [slotNumber?, EncodingKind.number, OpcodeMap.number,
    Option.some.injEq, reduceCtorEq] at h <;> simp only [slotCount] <;> omega

/-- Whether there is a slot does not depend on the opcode. -/
theorem isSome_slotNumber? (e : EncodingKind) (m : OpcodeMap) (o : UInt8) :
    (slotNumber? e m o).isSome = (slotNumber? e m 0).isSome := by
  cases e <;> cases m <;> simp only [slotNumber?, Option.isSome_some, Option.isSome_none]

/-- A slot of the index holds the forms with its number, in the order of the list. -/
theorem getElem?_slots_ofForms {n : Nat} (hn : n < slotCount) (forms : List Form) :
    (ofForms forms).slots[n]? =
      some (forms.filter fun f => slotNumber? f.encoding f.map f.opcode == some n) := by
  induction forms with
  | nil => simp [ofForms, hn]
  | cons f forms ih =>
    rw [ofForms] at ih ⊢
    rw [List.foldr_cons, add]
    cases hslot : slotNumber? f.encoding f.map f.opcode with
    | none => simp [ih, hslot]
    | some k =>
      by_cases hk : k = n
      · simp [Array.getElem?_modify, ih, hslot, hk]
      · simp [Array.getElem?_modify, ih, hslot, hk]

end FormIndex

namespace OperandSpec

/-- Whether an operand is in the rm field. -/
def isRm : OperandSpec → Bool
  | rm _ | rmRegister _ | rmMemory => true
  | _ => false

theorem isRm_iff {spec : OperandSpec} : spec.isRm ↔ spec.encoding = .rm := by
  cases spec <;> simp [isRm, encoding]

/-- Whether an operand has a vector of indices. -/
def isVsib : OperandSpec → Bool
  | vsib _ _ => true
  | _ => false

theorem isVsib_iff {spec : OperandSpec} : spec.isVsib ↔ spec.encoding = .vsib := by
  cases spec <;> simp [isVsib, encoding]

end OperandSpec

namespace Form

/-- Whether the form can match a ModR/M byte that names memory for it. -/
def acceptsMemory (f : Form) : Bool :=
  f.modrm.present && !f.has .modIgnored && !f.has .registerOnly
    && match f.modrm.byte? with
      | none => true
      | some b => !(ModRM.mk b).isRegister

/-- What the decoder relies on in a form. -/
structure Sound (f : Form) : Prop where
  /-- There is a place for every operand. -/
  length_operands : f.operands.length ≤ Instruction.maxOperands
  /-- A form with an operand that has to be memory matches only ModR/M bytes that name memory. -/
  memoryOnly : ∀ o ∈ f.operands, o.spec.memoryOnly →
    f.modrm.present ∧ f.has .memoryOnly ∧ !f.has .modIgnored
  /-- A vector of indices is in a vector register. -/
  isVector : ∀ o ∈ f.operands, o.spec.encoding = .vsib → o.spec.family.isVector
  /-- The memory that a ModR/M byte names is an operand. -/
  exists_memory : f.acceptsMemory →
    ∃ o ∈ f.operands, o.spec.encoding = .rm ∨ o.spec.encoding = .vsib
  /-- Under an EVEX prefix all memory is named by the ModR/M byte. -/
  memoryOnly_of_evex : f.encoding = .evex → ∀ o ∈ f.operands, o.spec.isMemory →
    o.spec.memoryOnly
  /-- Masked elements of a vector of addresses are not zeroed. -/
  head_ne_vsib : f.has .zeroing → ∀ o ∈ f.operands.head?, o.spec.encoding ≠ .vsib
  /-- The memory size without a broadcast is not that of a broadcast. -/
  isBroadcast_memory : f.memory.isBroadcast = false
  /-- The memory size of a broadcast, where there is one, is that of a broadcast. -/
  isBroadcast_broadcast : f.broadcast ≠ .unknown → f.broadcast.isBroadcast
  /-- Under an EVEX prefix a vector of indices goes with an opmask. -/
  noK0 : f.encoding = .evex → ∀ o ∈ f.operands, o.spec.encoding = .vsib → f.has .noK0
  /-- Under an EVEX prefix there is a ModR/M byte. -/
  present_of_evex : f.encoding = .evex → f.modrm.present
  /-- A ModR/M byte that can name memory names all of it. -/
  memoryOnly_of_acceptsMemory : f.acceptsMemory → ∀ o ∈ f.operands, o.spec.isMemory →
    o.spec.memoryOnly
  /-- Not both a register and memory are demanded. -/
  registerOnly_eq_false : f.has .memoryOnly → f.has .registerOnly = false
  /-- Neither is demanded beside a fixed ModR/M byte. -/
  kind_of_byte : ∀ b ∈ f.modrm.byte?, f.has .registerOnly = false ∧ f.has .memoryOnly = false
  /-- A register is demanded where the pattern of the ModR/M byte has one. -/
  registerOnly_of_registers : ∀ n, f.modrm = .registers n → f.has .registerOnly

/-- Whether the form has an EVEX prefix. -/
def isEvex (f : Form) : Bool :=
  match f.constraint with
  | .evex _ => true
  | _ => false

theorem isEvex_iff {f : Form} : f.isEvex ↔ f.encoding = .evex := by
  rw [isEvex, encoding]
  cases f.constraint <;> simp [Constraint.encoding]

/-- A test for soundness. It tells constructors apart by `match`, which evaluates faster than a
comparison does. -/
def isSound (f : Form) : Bool :=
  decide (f.operands.length ≤ Instruction.maxOperands)
    && f.operands.all (fun o => !o.spec.memoryOnly
      || (f.modrm.present && f.has .memoryOnly && !f.has .modIgnored))
    && f.operands.all (fun o => !o.spec.isVsib || o.spec.family.isVector)
    && (!f.acceptsMemory || f.operands.any fun o => o.spec.isRm || o.spec.isVsib)
    && (!f.isEvex || f.operands.all fun o => !o.spec.isMemory || o.spec.memoryOnly)
    && (!f.has .zeroing || f.operands.head?.all fun o => !o.spec.isVsib)
    && !f.memory.isBroadcast
    && (match f.broadcast with | .unknown => true | size => size.isBroadcast)
    && (!f.isEvex || f.operands.all fun o => !o.spec.isVsib || f.has .noK0)
    && (!f.isEvex || f.modrm.present)
    && (!f.acceptsMemory || f.operands.all fun o => !o.spec.isMemory || o.spec.memoryOnly)
    && (match f.modrm with
      | .byte _ => !f.has .registerOnly && !f.has .memoryOnly
      | .registers _ => f.has .registerOnly && !f.has .memoryOnly
      | _ => !(f.has .registerOnly && f.has .memoryOnly))

theorem sound_of_isSound {f : Form} (h : f.isSound) : f.Sound := by
  simp only [isSound, Bool.and_eq_true] at h
  obtain ⟨⟨⟨⟨⟨⟨⟨⟨⟨⟨⟨hlength, hmemory⟩, hvector⟩, hexists⟩, hisMemory⟩, hhead⟩, hsize⟩, hbroadcast⟩,
    hnoK0⟩, hpresent⟩, haccepts⟩, hkind⟩ := h
  refine ⟨?_, ?_, ?_, ?_, ?_, ?_, ?_, ?_, ?_, ?_, ?_, ?_, ?_, ?_⟩
  · simpa using hlength
  · intro o ho hspec
    have := List.all_eq_true.1 hmemory o ho
    simpa [hspec, and_assoc] using this
  · intro o ho hspec
    have := List.all_eq_true.1 hvector o ho
    simpa [OperandSpec.isVsib_iff.2 hspec] using this
  · intro haccepts
    simpa [haccepts, OperandSpec.isRm_iff, OperandSpec.isVsib_iff] using hexists
  · intro hencoding o ho hspec
    simp only [isEvex_iff.2 hencoding, Bool.not_true, Bool.false_or] at hisMemory
    have := List.all_eq_true.1 hisMemory o ho
    simpa [hspec] using this
  · intro hzeroing o ho hspec
    simp [hzeroing, Option.mem_def.1 ho, OperandSpec.isVsib_iff.2 hspec] at hhead
  · simpa using hsize
  · intro hne
    split at hbroadcast
    · rename_i hunknown
      exact absurd hunknown hne
    · exact hbroadcast
  · intro hencoding o ho hspec
    simp only [isEvex_iff.2 hencoding, Bool.not_true, Bool.false_or] at hnoK0
    have := List.all_eq_true.1 hnoK0 o ho
    simpa [OperandSpec.isVsib_iff.2 hspec] using this
  · intro hencoding
    simpa [isEvex_iff.2 hencoding] using hpresent
  · intro hmem o ho hspec
    simp only [hmem, Bool.not_true, Bool.false_or] at haccepts
    have := List.all_eq_true.1 haccepts o ho
    simpa [hspec] using this
  · intro honly
    cases hregister : f.has .registerOnly with
    | false => rfl
    | true => split at hkind <;> simp [honly, hregister] at hkind
  · intro b hb
    cases hpattern : f.modrm <;> rw [hpattern] at hb hkind <;> cases hb
    simpa using hkind
  · intro n hpattern
    rw [hpattern] at hkind
    exact (Bool.and_eq_true_iff.1 hkind).1

/-- A form that matches an instruction matches its ModR/M byte. -/
theorem modrmMismatch_of_mismatch {f : Form} {p : PrefixState} {mode : Mode} {m : ModRM}
    (h : f.mismatch p (.known mode) m = none) : f.modrmMismatch m = none := by
  rw [mismatch, Option.orElse_eq_none, Option.orElse_eq_none] at h
  exact h.2.2

/-- What a form with a ModR/M byte demands of it. -/
theorem modrmMismatch_eq_none_iff {f : Form} {m : ModRM} (hpresent : f.modrm.present) :
    f.modrmMismatch m = none ↔
      (∀ b ∈ f.modrm.byte?, m.byte = b) ∧ (∀ n ∈ f.modrm.reg?, m.reg = n) ∧
        (f.has .modIgnored ∨
          (f.has .registerOnly → m.isRegister) ∧ (f.has .memoryOnly → m.isRegister = false)) := by
  rw [modrmMismatch]
  cases hpattern : f.modrm with
  | absent => simp [hpattern, ModRMPattern.present] at hpresent
  | any | reg _ | byte _ | registers _ =>
    cases hignored : f.has .modIgnored <;> cases hregisterOnly : f.has .registerOnly <;>
      cases hmemoryOnly : f.has .memoryOnly <;> cases hregister : m.isRegister <;>
      simp [demand, ModRMPattern.present, ModRMPattern.byte?, ModRMPattern.reg?]

/-- A sound form with an operand that has to be memory matches only where memory is named. -/
theorem Sound.namesMemory {f : Form} (hf : f.Sound) {m : ModRM}
    (hmatch : f.modrmMismatch m = none) {o : FormOperand} (ho : o ∈ f.operands)
    (hspec : o.spec.memoryOnly) : f.namesMemory m := by
  obtain ⟨hpresent, honly, hignored⟩ := hf.memoryOnly o ho hspec
  obtain ⟨-, -, hmod⟩ := (modrmMismatch_eq_none_iff hpresent).1 hmatch
  have hregister : m.isRegister = false := by
    rcases hmod with h | ⟨-, h⟩
    · simp [h] at hignored
    · exact h honly
  simp [Form.namesMemory, hpresent, hregister, hignored]

/-- A form that matches where memory is named accepts memory. -/
theorem acceptsMemory_of_namesMemory {f : Form} {m : ModRM} (hmatch : f.modrmMismatch m = none)
    (hmemory : f.namesMemory m) : f.acceptsMemory := by
  simp only [Form.namesMemory, Bool.and_eq_true, Bool.not_eq_true'] at hmemory
  obtain ⟨⟨hpresent, hregister⟩, hignored⟩ := hmemory
  obtain ⟨hbyte, -, hmod⟩ := (modrmMismatch_eq_none_iff hpresent).1 hmatch
  have honly : f.has .registerOnly = false := by
    rcases hmod with h | ⟨h, -⟩
    · rw [h] at hignored
      cases hignored
    · cases honly : f.has .registerOnly with
      | false => rfl
      | true => rw [h honly] at hregister; cases hregister
  rw [acceptsMemory, hpresent, hignored, honly]
  cases hfixed : f.modrm.byte? with
  | none => rfl
  | some b =>
    have hb : m = ⟨b⟩ := congrArg ModRM.mk (hbyte b hfixed)
    simp [← hb, hregister]

end Form

namespace Table

/-- What is tested of the whole table, in one go. -/
theorem forms_tested :
    (forms.all fun f => f.isSound && covers f.encoding f.map) ∧
      ∀ b ∈ [(0xc4 : UInt8), 0xc5, 0x62, 0x8f], forms.any fun f =>
        decide (f.encoding = .legacy ∧ f.map = .primary ∧ f.opcode = b) && f.modrm.present := by
  rw [forms_eq]
  decide +kernel

/-- Every form of the table is sound. -/
theorem sound {f : Form} (hf : f ∈ forms) : f.Sound :=
  Form.sound_of_isSound (Bool.and_eq_true_iff.1 (List.all_eq_true.1 forms_tested.1 f hf)).1

/-- The table has a slot for each of its forms. -/
theorem covers_of_mem {f : Form} (hf : f ∈ forms) : covers f.encoding f.map :=
  (Bool.and_eq_true_iff.1 (List.all_eq_true.1 forms_tested.1 f hf)).2

/-- The forms of a slot are those of the table with its encoding, opcode map and opcode, in table
order. -/
theorem slot_eq_filter (e : EncodingKind) (m : OpcodeMap) (o : UInt8) :
    slot e m o = forms.filter fun f => f.encoding = e ∧ f.map = m ∧ f.opcode = o := by
  rw [slot, FormIndex.slot?]
  cases hn : FormIndex.slotNumber? e m o with
  | none =>
    -- There is no such slot, and no form that would be in it.
    have hcovers : covers e m = false := by
      rw [covers, ← FormIndex.isSome_slotNumber? e m o, hn, Option.isSome_none]
    refine (List.filter_eq_nil_iff.2 fun f hf => ?_).symm
    rw [decide_eq_true_iff]
    rintro ⟨rfl, rfl, -⟩
    rw [covers_of_mem hf] at hcovers
    cases hcovers
  | some n =>
    -- The forms with the number of the slot are those of the slot, since the number determines it.
    rw [Option.bind_some, index, FormIndex.getElem?_slots_ofForms (FormIndex.slotNumber?_lt hn),
      Option.getD_some]
    refine List.filter_congr fun f _ => ?_
    rw [Bool.eq_iff_iff, beq_iff_eq, decide_eq_true_iff]
    constructor
    · intro hf
      exact FormIndex.slotNumber?_inj hf hn
    · rintro ⟨he, hm, ho⟩
      rw [he, hm, ho, hn]

/-- The opcodes that may also start an extended prefix have a ModR/M byte. -/
theorem hasModRM_of_mem {b : UInt8} (hb : b ∈ [0xc4, 0xc5, 0x62, 0x8f]) :
    hasModRM .legacy .primary b := by
  rw [hasModRM, slot_eq_filter, List.any_filter]
  exact forms_tested.2 b hb

/-- The first form that matches is one of the list, and it matches. -/
theorem firstMatch_ok {p : PrefixState} {mode : StatedMode} {m : ModRM} {f : Form} :
    ∀ {fs : List Form} {closest : Option Mismatch}, firstMatch p mode m fs closest = .ok f →
      f ∈ fs ∧ f.mismatch p mode m = none
  | [], closest, h => by
    rw [firstMatch] at h
    cases h
  | g :: fs, closest, h => by
    rw [firstMatch] at h
    split at h
    · rename_i hg
      cases h
      exact ⟨List.mem_cons_self, hg⟩
    · obtain ⟨hmem, hmatch⟩ := firstMatch_ok h
      exact ⟨List.mem_cons_of_mem g hmem, hmatch⟩

/-- A lookup yields a form of the table that the instruction matches. -/
theorem lookup_ok {p : PrefixState} {mode : StatedMode} {o : UInt8} {m : ModRM} {f : Form}
    (h : lookup p mode o m = .ok f) :
    f ∈ forms ∧ f.encoding = p.encoding ∧ f.map = p.map ∧ f.opcode = o ∧
      f.mismatch p mode m = none := by
  rw [lookup] at h
  split at h
  · rename_i g hg
    cases h
    obtain ⟨hmem, hmatch⟩ := firstMatch_ok hg
    rw [slot_eq_filter, List.mem_filter, decide_eq_true_iff] at hmem
    exact ⟨hmem.1, hmem.2.1, hmem.2.2.1, hmem.2.2.2, hmatch⟩
  · cases h

end Table

end X86Decoder
