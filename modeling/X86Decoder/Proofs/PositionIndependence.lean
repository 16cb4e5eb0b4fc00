import X86Decoder.Proofs.Consistency
import X86Decoder.Proofs.Quiet
import X86Decoder.Proofs.Word

/-!
# Position independence

The bytes of an instruction say what it is, and its place enters only where something is counted
from the instruction pointer: the next instruction, the target of a near branch and a relative
address. So the same bytes at two places are the same instruction up to these, and these are as far
apart as the places, as far as the words that hold them are wide.

* `Instruction.unplaced`: an instruction without what its place decides.
* `Instruction.Shifted`: two instructions that differ by their places only.
* `Decoder.next_position_independent`: a decoder yields such instructions at any two places.
-/

namespace X86Decoder

theorem WordSize.bits_le (width : WordSize) : width.bits ≤ 64 := by
  cases width <;> decide

theorem Mode.bits_le (mode : Mode) : mode.bits ≤ 64 := mode.addressSize.bits_le

/-- Whether an operand is the target of a near branch. -/
def OpKind.isNearBranch : OpKind → Bool
  | nearBranch16 | nearBranch32 | nearBranch64 => true
  | _ => false

/-- The operand without the target of a near branch. -/
def Operand.unplaced (operand : Operand) : Operand :=
  if operand.kind.isNearBranch then { operand with immediate := 0 } else operand

/-- The memory without the target of a relative address. -/
def MemoryReference.unplaced (memory : MemoryReference) : MemoryReference :=
  if memory.base.isPointer then { memory with displacement := 0 } else memory

namespace Instruction

/-- The instruction without what its place decides. -/
def unplaced (inst : Instruction) : Instruction :=
  { inst with
    ip := 0
    nextIp := 0
    operands := inst.operands.map Operand.unplaced
    memory := inst.memory.unplaced }

/-- The instructions differ at most by their places, and what is counted from the instruction
pointer differs by as much as the places do, modulo the powers of two that it is cut to. -/
structure Shifted (mode : Mode) (ip₁ ip₂ : UInt64) (inst₁ inst₂ : Instruction) : Prop where
  unplaced : inst₁.unplaced = inst₂.unplaced
  nextIp : (inst₂.nextIp.toNat : Int) - inst₁.nextIp.toNat ≡ ip₂.toNat - ip₁.toNat
    [ZMOD (Nat.pow 2 mode.bits : Nat)]
  nearBranch : ∀ (i : Nat) (o₁ o₂ : Operand) (width : WordSize), inst₁.operands[i]? = some o₁ →
    inst₂.operands[i]? = some o₂ → o₁.kind = .nearBranch width →
      (o₂.immediate.toNat : Int) - o₁.immediate.toNat ≡ ip₂.toNat - ip₁.toNat
        [ZMOD (Nat.pow 2 (min width.bits mode.bits) : Nat)]
  rip : inst₁.memory.base = .rip →
    (inst₂.memory.displacement.toNat : Int) - inst₁.memory.displacement.toNat ≡
      ip₂.toNat - ip₁.toNat [ZMOD (Nat.pow 2 64 : Nat)]
  eip : inst₁.memory.base = .eip →
    (inst₂.memory.displacement.toNat : Int) - inst₁.memory.displacement.toNat ≡
      ip₂.toNat - ip₁.toNat [ZMOD (Nat.pow 2 32 : Nat)]

/-- Only how far apart the places are matters, modulo the width of a word. -/
theorem Shifted.of_modEq {mode : Mode} {ip₁ ip₂ ip₁' ip₂' : UInt64} {inst₁ inst₂ : Instruction}
    (h : Shifted mode ip₁' ip₂' inst₁ inst₂)
    (hip : (ip₂'.toNat : Int) - ip₁'.toNat ≡ ip₂.toNat - ip₁.toNat [ZMOD (Nat.pow 2 64 : Nat)]) :
    Shifted mode ip₁ ip₂ inst₁ inst₂ where
  unplaced := h.unplaced
  nextIp := h.nextIp.trans (Word.modEq_of_le mode.bits_le hip)
  nearBranch i o₁ o₂ width h₁ h₂ hkind :=
    (h.nearBranch i o₁ o₂ width h₁ h₂ hkind).trans
      (Word.modEq_of_le (Nat.le_trans (Nat.min_le_right ..) mode.bits_le) hip)
  rip hbase := (h.rip hbase).trans hip
  eip hbase := (h.eip hbase).trans (Word.modEq_of_le (by decide) hip)

end Instruction

/-! ### Bodies -/

/-- A body records the mark that reading its memory left. -/
theorem Reader.relative_of_runOn_formBody {p : PrefixState} {mode : Mode} {m : ModRM} {f : Form}
    {s t : ReadState} {body : Body} (h : (formBody p mode m f).runOn s = (.ok body, t)) :
    body.relative = t.relative := by
  obtain ⟨_, _, -, hdraft⟩ := exists_of_runOn_bind_ok h
  obtain ⟨_, _, -, hoperands⟩ := exists_of_runOn_bind_ok hdraft
  obtain ⟨_, _, -, hrelative⟩ := exists_of_runOn_bind_ok hoperands
  cases hrelative
  rfl

/-- The memory of a body that can be read is marked as relative exactly if its base is an
instruction pointer, and that is so in 64-bit mode only. -/
theorem Reader.relative_of_runOn_body {mode : Mode} {s t : ReadState} {body : Body}
    (hs : s.relative = false) (h : (Reader.body mode).runOn s = (.ok body, t)) :
    body.relative = body.draft.memory.base.isPointer ∧
      (body.draft.memory.base.isPointer → mode = .bits64) := by
  obtain ⟨⟨p, op, m⟩, u, hselector, -⟩ := exists_of_runOn_bind_ok h
  rw [runOn_body hselector] at h
  obtain ⟨f, v, hform, hbody⟩ := exists_of_runOn_bind_ok h
  have hu : u.relative = s.relative := ((ensures_selector mode s).of_ok hselector).1
  have hv : v.relative = u.relative := ((quiet_form p mode op m).agree_of_runOn hform).relative
  have ht := (marks_formBody p mode m f).relative v t body hbody
  rw [hv, hu, hs, Bool.false_or] at ht
  exact ⟨(relative_of_runOn_formBody hbody).trans ht,
    (marks_formBody p mode m f).bits64 v t body hbody⟩

namespace Body

theorem unplaced_placeOperand (next : UInt64) (o : Operand) :
    (placeOperand next o).unplaced = o.unplaced := by
  rw [placeOperand]
  split <;> rename_i hkind <;> simp [Operand.unplaced, OpKind.isNearBranch, hkind]

theorem base_placeMemory (relative : Bool) (next : UInt64) (memory : MemoryReference) :
    (placeMemory relative next memory).base = memory.base := by
  rw [placeMemory]
  split
  · rfl
  · split <;> rfl

theorem unplaced_placeMemory (next : UInt64) (memory : MemoryReference) (size : MemorySize) :
    { placeMemory memory.base.isPointer next memory with size := size }.unplaced =
      { memory with size := size }.unplaced := by
  cases hpointer : memory.base.isPointer with
  | false => rfl
  | true =>
    rw [placeMemory]
    split
    · rfl
    · split <;> simp [MemoryReference.unplaced, hpointer]

/-- What a place adds to the instruction pointer, modulo what the mode can hold. -/
theorem nextIp_modEq (mode : Mode) (ip : UInt64) (length : Nat) :
    ((nextIp mode ip length).toNat : Int) ≡ ip.toNat + length.toUInt64.toNat
      [ZMOD (Nat.pow 2 mode.bits : Nat)] :=
  (Word.truncate_modEq mode.bits_le _).trans (Word.add_modEq mode.bits_le _ _)

theorem immediate_placeOperand_modEq (next : UInt64) {o : Operand} {width : WordSize}
    (h : o.kind = .nearBranch width) :
    ((placeOperand next o).immediate.toNat : Int) ≡ next.toNat + o.immediate.toNat
      [ZMOD (Nat.pow 2 width.bits : Nat)] := by
  have hsum := Word.add_modEq width.bits_le next o.immediate
  cases width with
  | w16 =>
    rw [placeOperand, h]
    exact (Word.truncate_modEq (by decide) _).trans hsum
  | w32 =>
    rw [placeOperand, h]
    exact (Word.truncate_modEq (by decide) _).trans hsum
  | w64 =>
    rw [placeOperand, h]
    exact hsum

/-- The width of an address relative to the given instruction pointer. -/
def pointerBits (base : Register) : Nat :=
  if base = .eip then 32 else 64

theorem displacement_placeMemory_modEq (next : UInt64) (memory : MemoryReference) :
    ((placeMemory true next memory).displacement.toNat : Int) ≡
      next.toNat + (Word.signExtend 32 memory.displacement).toNat
      [ZMOD (Nat.pow 2 (pointerBits memory.base) : Nat)] := by
  by_cases hbase : memory.base = .eip
  · simp only [placeMemory, pointerBits, hbase, if_true]
    exact (Word.truncate_modEq (by decide) _).trans (Word.add_modEq (by decide) _ _)
  · simp only [placeMemory, pointerBits, hbase, if_false]
    exact Word.add_modEq (by decide) _ _

section Place

variable {body : Body} {mode : Mode}
  (hrelative : body.relative = body.draft.memory.base.isPointer)
  (hmode : body.draft.memory.base.isPointer → mode = .bits64)

include hrelative hmode

/-- The targets of a relative address at two places are as far apart as the places. -/
theorem displacement_place_modEq (hpointer : body.draft.memory.base.isPointer)
    (ip₁ ip₂ : UInt64) :
    ((body.place mode ip₂).memory.displacement.toNat : Int) -
        (body.place mode ip₁).memory.displacement.toNat ≡ ip₂.toNat - ip₁.toNat
      [ZMOD (Nat.pow 2 (pointerBits body.draft.memory.base) : Nat)] := by
  obtain rfl := hmode hpointer
  have hbits : pointerBits body.draft.memory.base ≤ Mode.bits64.bits := by
    rw [pointerBits]
    split <;> decide
  have htarget : ∀ ip : UInt64,
      ((body.place .bits64 ip).memory.displacement.toNat : Int) ≡
        ip.toNat + (body.length.toUInt64.toNat +
          (Word.signExtend 32 body.draft.memory.displacement).toNat)
        [ZMOD (Nat.pow 2 (pointerBits body.draft.memory.base) : Nat)] := by
    intro ip
    have hnext := Word.modEq_of_le hbits (nextIp_modEq .bits64 ip body.length)
    rw [place, hrelative, hpointer, ← add_assoc]
    exact (displacement_placeMemory_modEq _ _).trans (hnext.add_right _)
  exact Word.sub_modEq_sub (htarget ip₁) (htarget ip₂)

/-- A body at two places. -/
theorem shifted_place (ip₁ ip₂ : UInt64) :
    Instruction.Shifted mode ip₁ ip₂ (body.place mode ip₁) (body.place mode ip₂) where
  unplaced := by
    simp only [Instruction.unplaced, place, List.map_map, Function.comp_def, unplaced_placeOperand,
      hrelative, unplaced_placeMemory]
  nextIp := Word.sub_modEq_sub (nextIp_modEq mode ip₁ _) (nextIp_modEq mode ip₂ _)
  nearBranch i o₁ o₂ width h₁ h₂ hkind := by
    -- Both operands come from the same one, whose offset is counted from the next instruction.
    rw [place, List.getElem?_map] at h₁ h₂
    obtain ⟨o, ho, rfl⟩ := Option.map_eq_some_iff.1 h₁
    rw [ho] at h₂
    cases h₂
    rw [kind_placeOperand] at hkind
    have htarget : ∀ ip : UInt64,
        ((placeOperand (nextIp mode ip body.length) o).immediate.toNat : Int) ≡
          ip.toNat + (body.length.toUInt64.toNat + o.immediate.toNat)
          [ZMOD (Nat.pow 2 (min width.bits mode.bits) : Nat)] := by
      intro ip
      have hnext := Word.modEq_of_le (Nat.min_le_right width.bits mode.bits)
        (nextIp_modEq mode ip body.length)
      rw [← add_assoc]
      exact (Word.modEq_of_le (Nat.min_le_left ..) (immediate_placeOperand_modEq _ hkind)).trans
        (hnext.add_right _)
    exact Word.sub_modEq_sub (htarget ip₁) (htarget ip₂)
  rip hbase := by
    rw [place, base_placeMemory] at hbase
    have hpointer : body.draft.memory.base.isPointer := by rw [hbase]; decide
    have htargets := displacement_place_modEq hrelative hmode hpointer ip₁ ip₂
    rwa [hbase] at htargets
  eip hbase := by
    rw [place, base_placeMemory] at hbase
    have hpointer : body.draft.memory.base.isPointer := by rw [hbase]; decide
    have htargets := displacement_place_modEq hrelative hmode hpointer ip₁ ip₂
    rwa [hbase] at htargets

end Place

end Body

/-! ### Decoders -/

namespace Decoder

/-- A decoder with its data at another place yields the same instruction up to the place, or fails
in the same way. -/
theorem next_position_independent (d : Decoder) (ip₁ ip₂ : UInt64) :
    (∃ e, { d with ip := ip₁ }.next.1 = .error e ∧ { d with ip := ip₂ }.next.1 = .error e) ∨
    ∃ inst₁ inst₂, { d with ip := ip₁ }.next.1 = .ok inst₁ ∧
      { d with ip := ip₂ }.next.1 = .ok inst₂ ∧
      Instruction.Shifted d.mode ip₁ ip₂ inst₁ inst₂ := by
  by_cases hposition : d.position ≤ d.data.length
  · rcases hrun : (Reader.body d.mode).runOn { rest := d.data.drop d.position } with
      ⟨fault | body, t⟩
    · have herror : ∀ ip, { d with ip := ip }.next.1 = .error ⟨t.consumed, fault⟩ := by
        intro ip
        rw [next_fst (d := { d with ip := ip }) hposition, decoded, decode, decodeFrom_eq_error_iff]
        exact ⟨t, hrun, rfl⟩
      exact .inl ⟨_, herror ip₁, herror ip₂⟩
    · have hok : ∀ ip, { d with ip := ip }.next.1 =
          .ok (body.place d.mode (ip + d.position.toUInt64)) :=
        fun ip => (next_eq_ok_iff (d := { d with ip := ip }) hposition).2 ⟨body, t, hrun, rfl⟩
      obtain ⟨hrelative, hmode⟩ := Reader.relative_of_runOn_body rfl hrun
      -- The instruction is as far from the start of the data at both places.
      have hip := Word.sub_modEq_sub (Word.add_modEq (Nat.le_refl 64) ip₁ d.position.toUInt64)
        (Word.add_modEq (Nat.le_refl 64) ip₂ d.position.toUInt64)
      exact .inr ⟨_, _, hok ip₁, hok ip₂, (Body.shifted_place hrelative hmode _ _).of_modEq hip⟩
  · have herror : ∀ ip, { d with ip := ip }.next.1 = .error ⟨0, .misuse .outOfBounds⟩ := by
      intro ip
      rw [next, if_pos (Nat.lt_of_not_le hposition)]
    exact .inl ⟨_, herror ip₁, herror ip₂⟩

end Decoder

end X86Decoder
