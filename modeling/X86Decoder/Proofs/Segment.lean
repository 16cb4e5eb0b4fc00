import X86Decoder.Proofs.Constants.Tiling

/-!
# Segments of memory operands

An instruction records one segment, though up to two of its operands may be in memory. One that can
be in any segment is in the segment of the override, or else in the one that goes with the base of
its address. The destination of a string instruction is always in ES, so it is recorded only where
there is no other operand, and the order of the two does not matter.

No form has a ModR/M memory operand beside one that is implied, so nothing replaces the segment of
an address (`Form.Sound.memoryOnly_of_acceptsMemory`).

* `Draft.dueSegment`: the segment that the operands of a draft ask for, whatever their order.
* `Draft.Segmented`: the invariant of a draft, with one lemma for each way to add an operand.
* `Frame.segmented_settleAll`: all operands keep it.
* `decode_segment`: the segment of a decoded instruction.
-/

namespace X86Decoder

/-- Whether an operand is at ES:rDI. -/
def OpKind.isDestination : OpKind → Bool
  | memoryESDI | memoryESEDI | memoryESRDI => true
  | _ => false

theorem OpKind.isDestination_iff (kind : OpKind) :
    kind.isDestination ↔ kind ∈ [.memoryESDI, .memoryESEDI, .memoryESRDI] := by
  cases kind <;> simp [isDestination]

/-- An override names a segment, and so do the defaults. -/
theorem PrefixState.memorySegment_ne_none (p : PrefixState) (stack : Bool) :
    p.memorySegment stack ≠ .none := by
  rw [memorySegment]
  split
  · assumption
  · cases stack <;> decide

namespace Draft

/-- The segment that the operands of a draft ask for: that of the address if one of them can be in
any segment, and ES if there is only the destination of a string instruction. -/
def dueSegment (c : Frame) (draft : Draft) : Register :=
  if c.isMemory || draft.operands.any fun o => o.kind.isMemory && !o.kind.isDestination then
    c.prefixes.memorySegment (isStackBase draft.memory.base)
  else if draft.operands.any fun o => o.kind.isDestination then .es
  else .none

/-- The destination of a string instruction asks for a segment only where nothing else does. -/
theorem dueSegment_push_destination {c : Frame} (hc : c.isMemory = false) (draft : Draft)
    {o : Operand} (ho : o.kind.isDestination) :
    (draft.push o).dueSegment c =
      if draft.dueSegment c = .none then .es else draft.dueSegment c := by
  simp only [dueSegment, push, hc, List.any_append, List.any_cons, List.any_nil, ho, Bool.not_true,
    Bool.and_false, Bool.or_false, Bool.false_or, Bool.or_true]
  split
  · rw [if_neg (c.prefixes.memorySegment_ne_none _)]
  · cases draft.operands.any fun o => o.kind.isDestination <;> rfl

/-- What holds of the memory of a draft while the operands of a frame are added. -/
structure Segmented (c : Frame) (draft : Draft) : Prop where
  segment : draft.memory.segment = draft.dueSegment c
  /-- Only an address that the ModR/M byte names has a base. -/
  base : c.isMemory = false → draft.memory.base = .none
  /-- The ModR/M byte names memory only beside operands that are not implied. -/
  isDestination : c.isMemory → ∀ o ∈ draft.operands, o.kind.isDestination = false

namespace Segmented

variable {c : Frame} {draft next : Draft} {o : Operand}

/-- An operand that is in memory only where the ModR/M byte names it leaves the segment alone. -/
theorem push (h : draft.Segmented c) (hmemory : next.memory = draft.memory)
    (hoperands : next.operands = draft.operands) (hkind : o.kind.isMemory → c.isMemory)
    (hdestination : o.kind.isDestination = false) : (next.push o).Segmented c where
  segment := by
    have hdue : (next.push o).dueSegment c = draft.dueSegment c := by
      simp only [dueSegment, Draft.push, hmemory, hoperands, List.any_append, List.any_cons,
        List.any_nil, hdestination, Bool.or_false, Bool.not_false, Bool.and_true]
      cases hc : c.isMemory with
      | true => rfl
      | false =>
        have hnone : o.kind.isMemory = false := by simpa [hc] using hkind
        rw [hnone, Bool.or_false]
    rw [hdue, ← h.segment, ← hmemory]
    rfl
  base hc := by
    rw [← h.base hc, ← hmemory]
    rfl
  isDestination hc := by
    intro o' ho'
    rw [Draft.push, hoperands] at ho'
    rcases List.mem_append.1 ho' with hmem | hmem
    · exact h.isDestination hc o' hmem
    · rwa [List.mem_singleton.1 hmem]

/-- An implied operand that can be in any segment replaces the one that is recorded. -/
theorem push_implied (h : draft.Segmented c) (hc : c.isMemory = false)
    (hsegment : next.memory.segment = c.prefixes.memorySegment false)
    (hbase : next.memory.base = draft.memory.base) (hkind : o.kind.isMemory)
    (hdestination : o.kind.isDestination = false) : (next.push o).Segmented c where
  segment := by
    have hnone : next.memory.base = .none := hbase.trans (h.base hc)
    rw [dueSegment, Draft.push, List.any_append, hnone]
    simp only [List.any_cons, hkind, hdestination, Bool.not_false, Bool.and_self, Bool.true_or,
      Bool.or_true, if_true, hsegment]
    rfl
  base _ := hbase.trans (h.base hc)
  isDestination hmemory := by
    rw [hc] at hmemory
    cases hmemory

/-- There is no segment before the destination of a string instruction exactly if there is no other
operand in memory, and only then is it recorded. -/
theorem push_destination (h : draft.Segmented c) (hc : c.isMemory = false)
    (hdestination : o.kind.isDestination) :
    ((if draft.memory.segment = .none then draft.setSegment .es else draft).push o).Segmented
      c := by
  have hdue := dueSegment_push_destination hc draft hdestination
  rw [← h.segment] at hdue
  split <;> rename_i hnone
  · rw [if_pos hnone] at hdue
    exact ⟨hdue.symm, h.base, by simp [hc]⟩
  · rw [if_neg hnone] at hdue
    exact ⟨hdue.symm, h.base, by simp [hc]⟩

/-- Where there is memory at all, ES is recorded exactly if no operand can be in another segment. -/
theorem segment_eq (h : draft.Segmented c)
    (hmemory : draft.operands.any fun o => o.kind.isMemory) :
    draft.memory.segment =
      if ∀ o ∈ draft.operands, o.kind.isMemory → o.kind.isDestination then .es
      else c.prefixes.memorySegment (isStackBase draft.memory.base) := by
  obtain ⟨o, ho, hkind⟩ := List.any_eq_true.1 hmemory
  rw [h.segment, dueSegment]
  by_cases hall : ∀ o ∈ draft.operands, o.kind.isMemory → o.kind.isDestination
  · rw [if_pos hall]
    have hc : c.isMemory = false := by
      refine Bool.eq_false_of_not_eq_true fun hc => ?_
      have hfalse := h.isDestination hc o ho
      rw [hall o ho hkind] at hfalse
      cases hfalse
    have hother :
        (draft.operands.any fun o => o.kind.isMemory && !o.kind.isDestination) = false := by
      simpa using hall
    have hes : draft.operands.any fun o => o.kind.isDestination :=
      List.any_eq_true.2 ⟨o, ho, hall o ho hkind⟩
    rw [hc, hother, hes]
    rfl
  · rw [if_neg hall]
    have hother : draft.operands.any fun o => o.kind.isMemory && !o.kind.isDestination := by
      simpa using hall
    rw [hother, Bool.or_true, if_pos rfl]

end Segmented

end Draft

namespace Frame

variable {c : Frame} {draft final : Draft} {spec : OperandSpec} {start : Nat} {bs : List UInt8}

/-- Where the ModR/M byte names memory, it names all operands that are always in memory, and
otherwise none of them. -/
theorem Regular.memoryOnly_eq (hc : c.Regular) {o : FormOperand} (ho : o ∈ c.form.operands)
    (hmemory : o.spec.isMemory) : o.spec.memoryOnly = c.isMemory := by
  obtain ⟨op, hlookup⟩ := hc.lookup
  obtain ⟨hmem, -, -, -, hmatch⟩ := Table.lookup_ok hlookup
  have hmodrm := Form.modrmMismatch_of_mismatch hmatch
  have hsound := Table.sound hmem
  rw [hc.isMemory_eq, Bool.eq_iff_iff]
  constructor
  · exact hsound.namesMemory hmodrm ho
  · intro hnames
    exact hsound.memoryOnly_of_acceptsMemory (Form.acceptsMemory_of_namesMemory hmodrm hnames) o ho
      hmemory

/-- One operand keeps the segment right. -/
theorem segmented_settle (h : draft.Segmented c)
    (hspec : spec.isMemory → spec.memoryOnly = c.isMemory)
    (hsettle : c.settle draft spec start bs = some final) : final.Segmented c := by
  obtain ⟨v, hv, rfl⟩ := exists_value_of_settle hsettle
  have hregister : ∀ {r : Option Register},
      r.map (fun r => ({ register := r } : Operand)) = some v → v.kind = .register := by
    intro r hr
    obtain ⟨r, -, rfl⟩ := Option.map_eq_some_iff.1 hr
    rfl
  cases spec with
  | reg _ | vvvv _ | is4 _ =>
    have hkind := hregister hv
    exact h.push rfl rfl (by simp [hkind, OpKind.isMemory]) (by rw [hkind]; rfl)
  | rm _ | rmRegister _ | rmMemory =>
    rw [value] at hv
    split at hv
    · rename_i hmemory
      cases hv
      exact h.push rfl rfl (fun _ => hmemory) rfl
    · have hkind := hregister hv
      exact h.push rfl rfl (by simp [hkind, OpKind.isMemory]) (by rw [hkind]; rfl)
  | implicit _ | one =>
    cases hv
    exact h.push rfl rfl (by rintro ⟨⟩) rfl
  | immediate value =>
    cases hv
    have hkind := Reader.isMemory_kind value
    refine h.push rfl rfl (by simp [hkind]) ?_
    rcases value with _ | _ | _ | _ | _ | ⟨_ | _ | _ | _⟩ | _ <;> rfl
  | relative offset target =>
    cases hv
    cases target <;> exact h.push rfl rfl (by rintro ⟨⟩) rfl
  | far wide =>
    cases hv
    cases wide <;> exact h.push rfl rfl (by rintro ⟨⟩) rfl
  | vsib _ _ =>
    cases hv
    exact h.push rfl rfl (fun _ => (hspec rfl).symm) rfl
  | moffs _ =>
    cases hv
    refine h.push_implied (hspec rfl).symm rfl rfl ?_ ?_ <;> split <;> rfl
  | stringSource _ | maskDestination =>
    cases hv
    refine h.push_implied (hspec rfl).symm rfl rfl ?_ ?_ <;> cases c.width <;> rfl
  | stringDestination _ =>
    cases hv
    exact h.push_destination (hspec rfl).symm (by cases c.width <;> rfl)

/-- All operands do. -/
theorem segmented_settleAll {os : List FormOperand} (h : draft.Segmented c)
    (hspec : ∀ o ∈ os, o.spec.isMemory → o.spec.memoryOnly = c.isMemory)
    (hsettle : c.settleAll os draft start bs = some final) : final.Segmented c := by
  induction os generalizing draft start bs with
  | nil =>
    cases hsettle
    exact h
  | cons o os ih =>
    rw [List.forall_mem_cons] at hspec
    rw [settleAll] at hsettle
    split at hsettle
    · cases hsettle
    · obtain ⟨next, hnext, hrest⟩ := Option.bind_eq_some_iff.1 hsettle
      exact ih (segmented_settle h hspec.1 hnext) hspec.2 hrest

theorem segmented_opening (c : Frame) (start : Nat) (bs : List UInt8) :
    (c.opening start bs).Segmented c := by
  rw [opening]
  cases haddress : c.address with
  | some a =>
    have hmemory : c.isMemory := by rw [isMemory, haddress, Option.isSome_some]
    refine ⟨?_, ?_, ?_⟩
    · simp [Draft.dueSegment, hmemory]
    · simp [hmemory]
    · simp
  | none =>
    have hmemory : c.isMemory = false := by rw [isMemory, haddress, Option.isSome_none]
    refine ⟨?_, fun _ => rfl, ?_⟩
    · simp [Draft.dueSegment, hmemory]
    · simp

theorem segmented_of_settled (hc : c.Regular) (h : c.settled start bs = some final) :
    final.Segmented c :=
  segmented_settleAll (segmented_opening c start _) (fun _ ho => hc.memoryOnly_eq ho) h

end Frame

theorem Body.segment_placeMemory (relative : Bool) (next : UInt64) (memory : MemoryReference) :
    (placeMemory relative next memory).segment = memory.segment := by
  rw [placeMemory]
  split
  · rfl
  · split <;> rfl

theorem isStackBase_iff (base : Register) :
    isStackBase base ↔ base ∈ [.bp, .esp, .ebp, .rsp, .rbp] := by
  simp [isStackBase, or_assoc]

/-- The memory of a decoded instruction is in ES if it is only the destination of a string
instruction. Otherwise it is in the segment of the override, if there is one, or else in the stack
segment for a base that points to the stack and in the data segment for all others. -/
theorem decode_segment {mode : Mode} {data : List UInt8} {ip : UInt64} {inst : Instruction}
    (hinst : (decode mode data ip).outcome = .ok inst) (hmemory : inst.hasMemory) :
    inst.memory.segment =
      if ∀ operand ∈ inst.operands, operand.kind.isMemory →
          operand.kind ∈ [.memoryESDI, .memoryESEDI, .memoryESRDI] then .es
      else if inst.segmentOverride ≠ .none then inst.segmentOverride
      else if inst.memory.base ∈ [.bp, .esp, .ebp, .rsp, .rbp] then .ss
      else .ds := by
  obtain ⟨c, t, hframe, -, draft, hdraft, rfl⟩ := decode_eq_ok_iff.1 hinst
  have hsegmented := Frame.segmented_of_settled (Reader.regular_of_runOn_frame hframe).1 hdraft
  let next : UInt64 := (c.instruction ip t.consumed draft).nextIp
  have hsegment := Body.segment_placeMemory c.relative next draft.memory
  have hbase := Body.base_placeMemory c.relative next draft.memory
  rw [Frame.instruction, Body.hasMemory_place_eq_any] at hmemory
  have hkinds : (∀ operand ∈ (c.instruction ip t.consumed draft).operands, operand.kind.isMemory →
      operand.kind ∈ [.memoryESDI, .memoryESEDI, .memoryESRDI]) ↔
        ∀ o ∈ draft.operands, o.kind.isMemory → o.kind.isDestination := by
    simp only [Frame.instruction, Body.place, List.forall_mem_map, Body.kind_placeOperand,
      OpKind.isDestination_iff]
  refine (hsegment.trans (hsegmented.segment_eq hmemory)).trans ?_
  simp only [hkinds, ← isStackBase_iff, PrefixState.memorySegment]
  rw [← hbase]
  rfl

/-- A copy of a string from FS to ES, whose destination is the first operand, and a string that is
filled under the same override. -/
theorem decode_segment_movs_stos :
    ∃ movs stos, (decode .bits64 [0x64, 0xa4] 0).outcome = .ok movs ∧ movs.memory.segment = .fs ∧
      (decode .bits64 [0x64, 0xaa] 0).outcome = .ok stos ∧ stos.memory.segment = .es := by
  let p : PrefixState := { segment := .fs }
  have hmovs : (Reader.opcode .bits64).runOn { rest := [0x64, 0xa4] } =
      (.ok 0xa4, { rest := [], consumed := 2, prefixes := p }) := rfl
  have hstos : (Reader.opcode .bits64).runOn { rest := [0x64, 0xaa] } =
      (.ok 0xaa, { rest := [], consumed := 2, prefixes := p }) := rfl
  let onlyES (inst : Instruction) : Prop := ∀ operand ∈ inst.operands, operand.kind.isMemory →
    operand.kind ∈ [.memoryESDI, .memoryESEDI, .memoryESRDI]
  have htests : (((Reader.body .bits64).runOn { rest := [0x64, 0xa4] }).1.toOption.any fun body =>
        let inst := body.place .bits64 0
        decide (inst.hasMemory ∧ ¬onlyES inst ∧ inst.segmentOverride = .fs)) &&
      ((Reader.body .bits64).runOn { rest := [0x64, 0xaa] }).1.toOption.any fun body =>
        let inst := body.place .bits64 0
        decide (inst.hasMemory ∧ onlyES inst) := by
    simp only [Reader.body, Reader.selector, bind_assoc, Reader.runOn_bind_of_ok hmovs,
      Reader.runOn_bind_of_ok hstos, Reader.withModRM, Reader.modrm, Reader.form,
      Table.lookupChecked, Table.lookup, Table.hasModRM, Table.slot_eq_filter, Table.forms_eq]
    decide +kernel
  rw [Bool.and_eq_true] at htests
  obtain ⟨movs, t, hrun, htest⟩ := Reader.exists_of_any_runOn htests.1
  obtain ⟨stos, t', hrun', htest'⟩ := Reader.exists_of_any_runOn htests.2
  obtain ⟨hmemory, hkinds, hoverride⟩ := of_decide_eq_true htest
  obtain ⟨hmemory', hkinds'⟩ := of_decide_eq_true htest'
  have hinst : (decode .bits64 [0x64, 0xa4] 0).outcome = .ok (movs.place .bits64 0) :=
    decodeFrom_eq_ok_iff.2 ⟨movs, t, hrun, rfl⟩
  have hinst' : (decode .bits64 [0x64, 0xaa] 0).outcome = .ok (stos.place .bits64 0) :=
    decodeFrom_eq_ok_iff.2 ⟨stos, t', hrun', rfl⟩
  refine ⟨_, _, hinst, ?_, hinst', ?_⟩
  · rw [decode_segment hinst hmemory, if_neg hkinds, hoverride]
    rfl
  · rw [decode_segment hinst' hmemory', if_pos hkinds']

end X86Decoder
