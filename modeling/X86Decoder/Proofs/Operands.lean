import X86Decoder.Proofs.Memory

/-!
# Operands

Resolving the operands of a form keeps the memory that they refer to coherent, whatever their order:
an operand with an address finds one that is well formed, and without an operand in memory nothing
is recorded about memory.

* `Draft.Coherent`: the invariant of a draft.
* `Reader.yields_operand`: what one operand adds, by the place it is encoded in.
* `Reader.yields_operands`: what all operands add.
-/

namespace X86Decoder

/-- Whether an operand refers to memory, by whether the ModR/M byte names memory. -/
def OperandSpec.inMemory (spec : OperandSpec) (isMemory : Bool) : Bool :=
  spec.isMemory || (isMemory && spec.encoding == .rm)

/-- Whether an operand is at the address that is recorded. -/
def OpKind.hasAddress : OpKind → Bool
  | memory | memory64 => true
  | _ => false

theorem OpKind.isMemory_of_hasAddress {kind : OpKind} (h : kind.hasAddress) : kind.isMemory := by
  cases kind <;> first | rfl | cases h

/-- The operands of string instructions and masked stores, by address size. -/
def OpKind.strings (width : WordSize) : List OpKind :=
  [stringSource width, stringDestination width, maskDestination width]

/-- They are in memory, but at an address of their own. -/
theorem OpKind.isMemory_of_mem_strings {width : WordSize} {kind : OpKind}
    (h : kind ∈ strings width) : kind.isMemory ∧ kind.hasAddress = false := by
  have hall : ∀ kind ∈ strings width, kind.isMemory ∧ kind.hasAddress = false := by
    cases width <;> decide
  exact hall kind h

namespace Draft

/-- What holds of a draft, where `isMemory` tells whether the ModR/M byte names memory. -/
structure Coherent (isMemory : Bool) (draft : Draft) : Prop where
  /-- An operand with an address has one that is well formed. -/
  addressed : (isMemory ∨ ∃ o ∈ draft.operands, o.kind.hasAddress) → draft.memory.Addressed
  /-- Without an address there is at most a segment. -/
  addressed_or : draft.memory.Addressed ∨ draft.memory = { segment := draft.memory.segment }
  /-- Without an operand in memory there is nothing. -/
  eq_default : isMemory = false → (∀ o ∈ draft.operands, o.kind.isMemory = false) →
    draft.memory = {}

/-- The draft `next` is coherent and has one more operand for each of the given places. -/
structure Extends (isMemory : Bool) (specs : List OperandSpec) (draft next : Draft) : Prop where
  coherent : next.Coherent isMemory
  isMemory_operands : next.operands.map (fun o => o.kind.isMemory) =
    draft.operands.map (fun o => o.kind.isMemory) ++ specs.map fun spec => spec.inMemory isMemory
  /-- A displacement is not taken away. -/
  displacementSize_ne_zero :
    draft.memory.displacementSize ≠ 0 → next.memory.displacementSize ≠ 0

variable {isMemory : Bool} {draft next : Draft} {spec : OperandSpec} {o : Operand}

theorem Coherent.bits_base_le (h : draft.Coherent isMemory) : draft.memory.base.bits ≤ 64 := by
  rcases h.addressed_or with haddressed | heq
  · exact haddressed.bits_base_le
  · rw [heq]
    exact Register.bits_none_le

theorem Coherent.displacementSize_mem (h : draft.Coherent isMemory) :
    draft.memory.displacementSize ∈ [0, 1, 2, 4, 8] := by
  rcases h.addressed_or with haddressed | heq
  · exact haddressed.displacementSize_mem
  · rw [heq]
    exact List.mem_cons_self

theorem Coherent.displacement_eq_zero (h : draft.Coherent isMemory)
    (hsize : draft.memory.displacementSize = 0) : draft.memory.displacement = 0 := by
  rcases h.addressed_or with haddressed | heq
  · exact haddressed.displacement_eq_zero hsize
  · rw [heq]

theorem Coherent.extends_nil (h : draft.Coherent isMemory) : draft.Extends isMemory [] draft where
  coherent := h
  isMemory_operands := by simp
  displacementSize_ne_zero := id

theorem Extends.trans {final : Draft} {specs specs' : List OperandSpec}
    (h : draft.Extends isMemory specs next) (h' : next.Extends isMemory specs' final) :
    draft.Extends isMemory (specs ++ specs') final where
  coherent := h'.coherent
  isMemory_operands := by
    rw [h'.isMemory_operands, h.isMemory_operands, List.map_append, List.append_assoc]
  displacementSize_ne_zero hne := h'.displacementSize_ne_zero (h.displacementSize_ne_zero hne)

theorem Extends.length_operands {specs : List OperandSpec}
    (h : draft.Extends isMemory specs next) :
    next.operands.length = draft.operands.length + specs.length := by
  simpa using congrArg List.length h.isMemory_operands

/-- The places of constants have no part in coherence. -/
theorem Coherent.addImmediate (h : draft.Coherent isMemory) (span : Span) :
    (draft.addImmediate span).Coherent isMemory :=
  ⟨h.addressed, h.addressed_or, h.eq_default⟩

theorem Extends.of_addImmediate {specs : List OperandSpec} {span : Span}
    (h : (draft.addImmediate span).Extends isMemory specs next) :
    draft.Extends isMemory specs next :=
  ⟨h.coherent, h.isMemory_operands, h.displacementSize_ne_zero⟩

/-- An operand may be added that has an address only where the ModR/M byte names memory. -/
theorem Coherent.push (h : draft.Coherent isMemory) (haddress : o.kind.hasAddress → isMemory)
    (hkind : o.kind.isMemory = spec.inMemory isMemory) :
    draft.Extends isMemory [spec] (draft.push o) where
  coherent := by
    refine ⟨?_, h.addressed_or, ?_⟩
    · rintro (hmemory | ⟨o', ho', haddress'⟩)
      · exact h.addressed (.inl hmemory)
      · rcases List.mem_append.1 ho' with hmem | hmem
        · exact h.addressed (.inr ⟨o', hmem, haddress'⟩)
        · rw [List.mem_singleton.1 hmem] at haddress'
          exact h.addressed (.inl (haddress haddress'))
    · intro hmemory hall
      exact h.eq_default hmemory fun o' ho' => hall o' (List.mem_append_left _ ho')
  isMemory_operands := by simp [Draft.push, hkind]
  displacementSize_ne_zero := id

/-- An operand in memory may also set the segment. -/
theorem Coherent.setSegment_push (h : draft.Coherent isMemory) (segment : Register)
    (hmemory : o.kind.isMemory) (haddress : o.kind.hasAddress = false)
    (hkind : o.kind.isMemory = spec.inMemory isMemory) :
    draft.Extends isMemory [spec] ((draft.setSegment segment).push o) where
  coherent := by
    have hsegment : draft.memory.Addressed → (draft.setSegment segment).memory.Addressed :=
      fun haddressed => ⟨haddressed.scale_mem, haddressed.scale_eq_one,
        haddressed.displacementSize_mem, haddressed.displacement_eq_zero,
        haddressed.bits_base_le⟩
    refine ⟨?_, ?_, ?_⟩
    · rintro (hmemory | ⟨o', ho', haddress'⟩)
      · exact hsegment (h.addressed (.inl hmemory))
      · rcases List.mem_append.1 ho' with hmem | hmem
        · exact hsegment (h.addressed (.inr ⟨o', hmem, haddress'⟩))
        · rw [List.mem_singleton.1 hmem, haddress] at haddress'
          cases haddress'
    · rcases h.addressed_or with haddressed | heq
      · exact .inl (hsegment haddressed)
      · refine .inr ?_
        change { draft.memory with segment := segment } = _
        rw [heq]
        rfl
    · intro _ hall
      have hfalse := hall o (List.mem_append_right _ List.mem_cons_self)
      rw [hmemory] at hfalse
      cases hfalse
  isMemory_operands := by simp [Draft.push, Draft.setSegment, hkind]
  displacementSize_ne_zero := id

end Draft

/-! ### Register operands -/

/-- Numbered registers exist in every class but that of the general purpose registers. -/
theorem RegisterClass.exists_member {cls : RegisterClass} (h : cls.family ≠ .general) (n : Int) :
    ∃ r, cls.family.member n = .ok r := by
  cases cls <;> first | exact ⟨_, rfl⟩ | exact absurd rfl h

namespace Reader

theorem exists_generalRegister (p : PrefixState) {cls : RegisterClass}
    (h : cls.family = .general) (n : Nat) : ∃ r, generalRegister p cls.bits n = .ok r := by
  cases cls <;> try cases h
  rename_i width
  cases width <;> exact ⟨_, rfl⟩

section Registers

variable (p : PrefixState) {spec : OperandSpec} {cls : RegisterClass}

/-- An operand with a class of registers asks for them by numbers that they have. -/
theorem yields_register (hfamily : spec.family = cls.family) (hbits : spec.bits = cls.bits)
    (n : Nat) : (register p spec n).Yields fun _ => True := by
  rw [register, hfamily, hbits]
  split
  · rename_i hgeneral
    obtain ⟨r, hr⟩ := exists_generalRegister p hgeneral n
    exact yields_request ⟨r, hr, trivial⟩
  · rename_i hgeneral
    dsimp only
    generalize (if cls.family = .mmx ∨ cls.family = .x87 then n % 8 else n) = n
    obtain ⟨r, hr⟩ := RegisterClass.exists_member hgeneral n
    refine (yields_request ⟨r, hr, trivial⟩).bind fun r (_ : True) => ?_
    split
    · exact yields_refuseModRM
    · exact yields_pure trivial

theorem yields_regRegister (hfamily : spec.family = cls.family) (hbits : spec.bits = cls.bits)
    (m : ModRM) : (regRegister p spec m).Yields fun _ => True := by
  rw [regRegister]
  split
  case h_4 =>
    split
    · exact yields_refuseModRM
    · exact yields_register p hfamily hbits _
  all_goals exact yields_register p hfamily hbits _

theorem yields_rmRegister (hfamily : spec.family = cls.family) (hbits : spec.bits = cls.bits)
    (m : ModRM) : (rmRegister p spec m).Yields fun _ => True := by
  rw [rmRegister]
  split <;> exact yields_register p hfamily hbits _

theorem yields_vvvvRegister (hfamily : spec.family = cls.family) (hbits : spec.bits = cls.bits) :
    (vvvvRegister p spec).Yields fun _ => True := by
  rw [vvvvRegister]
  split
  · exact yields_refusePrefixes
  · exact yields_register p hfamily hbits _

end Registers

/-! ### Immediates and memory offsets -/

theorem yields_immediate (draft : Draft) {size : Nat} (hsize : size ≤ 8) :
    (immediate draft size).Yields fun result => ∃ span, result.2 = draft.addImmediate span :=
  yields_position.bind fun _ _ => (yields_number hsize).bind fun _ _ => yields_pure ⟨_, rfl⟩

theorem yields_memoryOffset (p : PrefixState) (mode : Mode) {draft : Draft} {isMemory : Bool}
    (h : draft.Coherent isMemory) (element : DataWidth) :
    (memoryOffset p mode draft).Yields (draft.Extends isMemory [.moffs element]) := by
  have hsize : (p.addressSize mode).bytes ≤ 8 := by cases p.addressSize mode <;> decide
  have hmem : ((p.addressSize mode).bytes : Int) ∈ [(0 : Int), 1, 2, 4, 8] := by
    cases p.addressSize mode <;> decide
  have hne : ((p.addressSize mode).bytes : Int) ≠ 0 := by cases p.addressSize mode <;> decide
  have hkind : (if p.addressSize mode = .w64 then OpKind.memory64 else .memory).isMemory := by
    split <;> rfl
  refine yields_position.bind fun _ _ => (yields_number hsize).bind fun v _ => yields_pure ?_
  have haddressed : MemoryReference.Addressed
      { draft.memory with
        displacement := v, displacementSize := (p.addressSize mode).bytes, scale := 1,
        segment := p.memorySegment false } :=
    ⟨List.mem_cons_self, fun _ => rfl, hmem, fun hzero => absurd hzero hne,
      h.bits_base_le⟩
  refine ⟨⟨fun _ => haddressed, .inl haddressed, fun _ hall => ?_⟩, ?_, fun _ => hne⟩
  · have hfalse := hall _ (List.mem_append_right _ List.mem_cons_self)
    rw [hkind] at hfalse
    cases hfalse
  · simp [Draft.push, hkind, OperandSpec.inMemory, OperandSpec.isMemory]

/-! ### All operands -/

theorem isMemory_kind (value : Immediate) : value.kind.isMemory = false := by
  cases value with
  | byteTo width => cases width <;> rfl
  | _ => rfl

/-- One operand is added, at the place that its encoding tells. An operand that has to be memory is
resolved only where the ModR/M byte names memory. -/
theorem yields_operand (p : PrefixState) (mode : Mode) (m : ModRM) {isMemory : Bool}
    {draft : Draft} {spec : OperandSpec} (h : draft.Coherent isMemory)
    (hspec : spec.memoryOnly → isMemory) :
    (operand p mode m isMemory draft spec).Yields (draft.Extends isMemory [spec]) := by
  -- Only the rm field depends on what the ModR/M byte names.
  have hspec' : spec.encoding ≠ .rm → spec.inMemory isMemory = spec.isMemory := by
    intro hne
    simp [OperandSpec.inMemory, hne]
  have hplain : ∀ {draft : Draft} {o : Operand}, draft.Coherent isMemory →
      o.kind.isMemory = false → spec.inMemory isMemory = false →
      draft.Extends isMemory [spec] (draft.push o) := by
    intro draft o h hkind hspec
    refine h.push (fun haddress => ?_) (hkind.trans hspec.symm)
    rw [OpKind.isMemory_of_hasAddress haddress] at hkind
    cases hkind
  have hstring : ∀ {kind : OpKind} (segment : Register),
      kind ∈ OpKind.strings (p.addressSize mode) → spec.inMemory isMemory →
      draft.Extends isMemory [spec] ((draft.setSegment segment).push { kind := kind }) := by
    intro kind segment hmem hspec
    obtain ⟨hmemory, haddress⟩ := OpKind.isMemory_of_mem_strings hmem
    exact h.setSegment_push segment hmemory haddress (hmemory.trans hspec.symm)
  cases spec with
  | reg cls =>
    refine (yields_regRegister p rfl rfl m).bind fun r _ => yields_pure ?_
    exact hplain h rfl (hspec' nofun)
  | rm cls | rmRegister cls =>
    cases isMemory with
    | true => exact yields_pure (h.push (fun _ => rfl) rfl)
    | false => exact (yields_rmRegister p rfl rfl m).bind fun r _ => yields_pure (hplain h rfl rfl)
  | rmMemory =>
    -- There is no family to take a register from.
    cases hspec rfl
    exact yields_pure (h.push (fun _ => rfl) rfl)
  | vvvv cls =>
    refine (yields_vvvvRegister p rfl rfl).bind fun r _ => yields_pure ?_
    exact hplain h rfl (hspec' nofun)
  | is4 cls =>
    refine (yields_immediate draft (by decide)).bind fun (v, next) ⟨span, hnext⟩ => ?_
    subst hnext
    refine (yields_register p rfl rfl _).bind fun r _ => yields_pure ?_
    exact (hplain (h.addImmediate span) rfl (hspec' nofun)).of_addImmediate
  | implicit r => exact yields_pure (hplain h rfl (hspec' nofun))
  | one => exact yields_pure (hplain h rfl (hspec' nofun))
  | immediate value =>
    have hsize : value.width.bytes ≤ 8 := by cases value.width <;> decide
    refine (yields_immediate draft hsize).bind fun (v, next) ⟨span, hnext⟩ => yields_pure ?_
    subst hnext
    exact (hplain (h.addImmediate span) (isMemory_kind value) (hspec' nofun)).of_addImmediate
  | relative offset target =>
    have hsize : offset.bytes ≤ 8 := by cases offset <;> decide
    have hkind : (OpKind.nearBranch target).isMemory = false := by cases target <;> rfl
    refine (yields_immediate draft hsize).bind fun (v, next) ⟨span, hnext⟩ => yields_pure ?_
    subst hnext
    exact (hplain (h.addImmediate span) hkind (hspec' nofun)).of_addImmediate
  | far wide =>
    have hsize : (OperandSpec.farOffset wide).bytes ≤ 8 := by cases wide <;> decide
    have hkind : (if wide then OpKind.farBranch32 else .farBranch16).isMemory = false := by
      cases wide <;> rfl
    refine (yields_immediate draft hsize).bind fun (v, next) ⟨span, hnext⟩ => ?_
    subst hnext
    refine (yields_immediate _ (by decide)).bind fun (v', next') ⟨span', hnext'⟩ => yields_pure ?_
    subst hnext'
    have hnext := (h.addImmediate span).addImmediate span'
    have hpush := hplain (o := { kind := _, immediate := v }) hnext hkind (hspec' nofun)
    have hextends := hpush.of_addImmediate.of_addImmediate
    exact ⟨⟨hextends.coherent.addressed, hextends.coherent.addressed_or,
      hextends.coherent.eq_default⟩, hextends.isMemory_operands,
      hextends.displacementSize_ne_zero⟩
  | moffs element => exact yields_memoryOffset p mode h element
  | stringSource element => exact yields_pure (hstring _ (by simp [OpKind.strings]) (hspec' nofun))
  | stringDestination element =>
    refine yields_pure ?_
    split
    · exact hstring _ (by simp [OpKind.strings]) (hspec' nofun)
    · -- The segment of an earlier operand stays.
      obtain ⟨hmemory, haddress⟩ := OpKind.isMemory_of_mem_strings
        (show .stringDestination (p.addressSize mode) ∈ OpKind.strings (p.addressSize mode) by
          simp [OpKind.strings])
      refine h.push (fun h => ?_) (hmemory.trans (hspec' nofun).symm)
      rw [haddress] at h
      cases h
  | maskDestination => exact yields_pure (hstring _ (by simp [OpKind.strings]) (hspec' nofun))
  | vsib index element =>
    rw [operand]
    split
    · exact yields_refuseModRM
    · exact yields_pure (h.push (fun _ => hspec rfl) (hspec' nofun).symm)

/-- All operands are added, each in a place of its own. -/
theorem yields_operands (p : PrefixState) (mode : Mode) (m : ModRM) {isMemory : Bool}
    {os : List FormOperand} {draft : Draft} (h : draft.Coherent isMemory)
    (hspec : ∀ o ∈ os, o.spec.memoryOnly → isMemory)
    (hlength : draft.operands.length + os.length ≤ Instruction.maxOperands) :
    (operands p mode m isMemory os draft).Yields
      (draft.Extends isMemory (os.map FormOperand.spec)) := by
  induction os generalizing draft with
  | nil => exact yields_pure h.extends_nil
  | cons o os ih =>
    rw [List.length_cons] at hlength
    rw [operands, if_neg (by omega)]
    refine (yields_operand p mode m h (hspec o List.mem_cons_self)).bind fun next hnext => ?_
    have hlength' : next.operands.length + os.length ≤ Instruction.maxOperands := by
      rw [hnext.length_operands, List.length_singleton]
      omega
    refine (ih hnext.coherent (fun o' ho' => hspec o' (List.mem_cons_of_mem o ho'))
      hlength').mono fun final hfinal => ?_
    exact hnext.trans hfinal

end Reader

end X86Decoder
