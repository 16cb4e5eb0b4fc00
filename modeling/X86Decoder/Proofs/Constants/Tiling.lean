import X86Decoder.Proofs.Constants.Order

/-!
# The constants tile the end of an instruction

The displacement and the immediates of an instruction stand one after the other, and the instruction
ends where the last of them ends. Their sizes are those that the instruction and its form state.

* `Span.Tiles`: runs of bytes one after the other.
* `ConstantOffsets.tiling`: the places of constants of the given sizes.
* `Frame.exists_tiling_of_settled`: the constants of an instruction have such places.
* `decode_constants_tile`: what this means for decoding.
-/

namespace X86Decoder

/-! ### Runs of bytes -/

/-- The runs of bytes stand one after the other, from the one place to the other. -/
inductive Span.Tiles : Nat → List Span → Nat → Prop
  | nil (stop : Nat) : Tiles stop [] stop
  | cons {span : Span} {spans : List Span} {stop : Nat}
    (h : Tiles (span.offset + span.size) spans stop) : Tiles span.offset (span :: spans) stop

@[simp]
theorem Span.size_starting (start size : Nat) : (Span.starting start size).size = size := by
  rw [starting]
  split
  · rename_i hzero
    rw [hzero]
  · rfl

theorem Span.starting_of_ne_zero {size : Nat} (h : size ≠ 0) (start : Nat) :
    Span.starting start size = ⟨start, size⟩ :=
  if_neg h

namespace ConstantOffsets

/-- The constants that an instruction has, in their order. -/
def spans (k : ConstantOffsets) : List Span :=
  [k.displacement, k.first, k.second].filter fun span => span.size != 0

/-- The places of constants that begin at the given one and have the given sizes. -/
def tiling (start displacement first second : Nat) : ConstantOffsets where
  displacement := .starting start displacement
  first := .starting (start + displacement) first
  second := .starting (start + displacement + first) second

/-- An empty run of bytes may be left out. -/
theorem tiles_starting_append {start size stop : Nat} {spans : List Span}
    (h : Span.Tiles (start + size) spans stop) :
    Span.Tiles start (([Span.starting start size].filter fun span => span.size != 0) ++ spans)
      stop := by
  by_cases hzero : size = 0
  · rw [hzero] at h ⊢
    exact h
  · rw [Span.starting_of_ne_zero hzero, List.filter_cons_of_pos (by simpa using hzero)]
    exact @Span.Tiles.cons ⟨start, size⟩ _ _ h

theorem tiles_tiling (start displacement first second : Nat) :
    Span.Tiles start (tiling start displacement first second).spans
      (start + displacement + first + second) := by
  have hthird := tiles_starting_append (.nil (start + displacement + first + second))
  have hsecond := tiles_starting_append hthird
  have hfirst := tiles_starting_append hsecond
  rwa [List.append_nil, ← List.filter_append, ← List.filter_append] at hfirst

end ConstantOffsets

/-! ### Where an operand records its constants -/

namespace Draft

open ConstantOffsets (tiling)

variable {draft : Draft} {start displacement size : Nat}

theorem constants_addImmediate_first (h : draft.constants = tiling start displacement 0 0)
    (hsize : size ≠ 0) :
    (draft.addImmediate ⟨start + displacement, size⟩).constants =
      tiling start displacement size 0 := by
  rw [addImmediate, h, ← Span.starting_of_ne_zero hsize]
  rfl

theorem constants_addImmediate_second {first : Nat}
    (h : draft.constants = tiling start displacement first 0) (hfirst : first ≠ 0)
    (hsize : size ≠ 0) :
    (draft.addImmediate ⟨start + displacement + first, size⟩).constants =
      tiling start displacement first size := by
  have hused : ¬(tiling start displacement first 0).first.size = 0 := by
    simpa [tiling] using hfirst
  simp only [addImmediate, h, if_neg hused]
  rw [← Span.starting_of_ne_zero hsize]
  rfl

end Draft

theorem DataWidth.bytes_ne_zero (width : DataWidth) : width.bytes ≠ 0 := by
  cases width <;> decide

theorem WordSize.bytes_ne_zero (width : WordSize) : width.bytes ≠ 0 := by
  cases width <;> decide

namespace Frame

open ConstantOffsets (tiling)

variable {c : Frame} {draft : Draft} {start : Nat} {bs : List UInt8}

theorem constants_opening (c : Frame) (start : Nat) (bs : List UInt8) :
    (c.opening start bs).constants = tiling start c.displacementSize 0 0 := by
  rw [opening, displacementSize]
  cases c.address <;> rfl

theorem displacementSize_opening (c : Frame) (start : Nat) (bs : List UInt8) :
    (c.opening start bs).memory.displacementSize = c.displacementSize := by
  rw [opening, displacementSize]
  cases c.address <;> rfl

theorem exists_address_of_displacementSize (h : c.displacementSize ≠ 0) :
    ∃ a, c.address = some a := by
  cases haddress : c.address with
  | none =>
    rw [displacementSize, haddress] at h
    exact absurd rfl h
  | some a => exact ⟨a, rfl⟩

/-- Where an absolute offset replaces the displacement, the ModR/M byte names no memory. -/
theorem address_eq_none (hc : c.Regular) (h : c.form.modrm.present = false) : c.address = none := by
  have hmemory : c.isMemory = false := by
    rw [hc.isMemory_eq, Form.namesMemory, h]
    rfl
  simpa [isMemory] using hmemory

/-- Where the ModR/M byte names memory, no absolute offset replaces the displacement. -/
theorem isMoffs_eq_false (hc : c.Regular) {a : AddressPlan} (haddress : c.address = some a)
    {o : FormOperand} (ho : o ∈ c.form.operands) : o.spec.isMoffs = false := by
  refine Bool.eq_false_of_not_eq_true fun hmoffs => ?_
  rw [address_eq_none hc (Table.present_eq_false_of_isMoffs hc.mem_forms ho hmoffs)] at haddress
  cases haddress

end Frame

/-- The sizes of the immediates of an operand: of the first and of the second. -/
def OperandSpec.immediateSizes : OperandSpec → Nat × Nat
  | .far wide => ((farOffset wide).bytes, 2)
  | spec => (spec.size, 0)

theorem OperandSpec.immediateSizes_ne_zero {spec : OperandSpec} (h : spec.isConstant)
    (hmoffs : spec.isMoffs = false) : spec.immediateSizes.1 ≠ 0 := by
  cases spec with
  | is4 cls => exact Nat.one_ne_zero
  | immediate value => exact value.width.bytes_ne_zero
  | relative offset target => exact offset.bytes_ne_zero
  | far wide => exact (farOffset wide).bytes_ne_zero
  | moffs element => cases hmoffs
  | reg _ | rm _ | rmRegister _ | rmMemory | vvvv _ | implicit _ | one | stringSource _
  | stringDestination _ | maskDestination | vsib _ _ => cases h

theorem OperandSpec.immediateSizes_add (spec : OperandSpec) :
    spec.immediateSizes.1 + spec.immediateSizes.2 = spec.size := by
  cases spec <;> rfl

/-- Only a far branch has two immediates. -/
theorem OperandSpec.exists_far_of_immediateSizes {spec : OperandSpec}
    (h : spec.immediateSizes.2 ≠ 0) : ∃ wide, spec = .far wide := by
  cases spec with
  | far wide => exact ⟨wide, rfl⟩
  | _ => exact absurd rfl h

namespace Frame

open ConstantOffsets (tiling)

variable {c : Frame} {draft final : Draft} {spec : OperandSpec} {start displacement : Nat}
  {bs : List UInt8}

/-- An operand records its immediates behind the displacement. -/
theorem constants_advance (h : draft.constants = tiling start displacement 0 0)
    (hspec : spec.isConstant) (hmoffs : spec.isMoffs = false) :
    (draft.advance c spec (start + displacement) bs).constants =
        tiling start displacement spec.immediateSizes.1 spec.immediateSizes.2 ∧
      (draft.advance c spec (start + displacement) bs).memory = draft.memory := by
  have hsize := OperandSpec.immediateSizes_ne_zero hspec hmoffs
  cases spec with
  | is4 cls => exact ⟨Draft.constants_addImmediate_first h hsize, rfl⟩
  | immediate value => exact ⟨Draft.constants_addImmediate_first h hsize, rfl⟩
  | relative offset target => exact ⟨Draft.constants_addImmediate_first h hsize, rfl⟩
  | far wide =>
    have hfirst := Draft.constants_addImmediate_first h hsize
    exact ⟨Draft.constants_addImmediate_second hfirst hsize (by decide), rfl⟩
  | moffs element => cases hmoffs
  | reg _ | rm _ | rmRegister _ | rmMemory | vvvv _ | implicit _ | one | stringSource _
  | stringDestination _ | maskDestination | vsib _ _ => cases hspec

/-! ### Instructions by their constants -/

section Settled

variable {os os' os'' : List FormOperand} {o o' : FormOperand}

theorem tiling_of_free (hfree : FreeOfConstants c.form.operands)
    (h : c.settled start bs = some final) :
    final.constants = tiling start c.displacementSize 0 0 ∧
      final.memory.displacementSize = c.displacementSize := by
  have hkept := kept_of_settled_free hfree h
  rw [hkept.constants, hkept.displacementSize, constants_opening, displacementSize_opening]
  exact ⟨rfl, rfl⟩

theorem tiling_of_one (heq : c.form.operands = os ++ o :: os') (hos : FreeOfConstants os)
    (hos' : FreeOfConstants os') (ho : o.spec.isConstant) (hmoffs : o.spec.isMoffs = false)
    (h : c.settled start bs = some final) :
    final.constants =
        tiling start c.displacementSize o.spec.immediateSizes.1 o.spec.immediateSizes.2 ∧
      final.memory.displacementSize = c.displacementSize := by
  have hkept := kept_of_settled_one heq hos hos' h
  obtain ⟨hconstants, hmemory⟩ := constants_advance (constants_opening c start _) ho hmoffs
  rw [hkept.constants, hkept.displacementSize, hconstants, hmemory, displacementSize_opening]
  exact ⟨rfl, rfl⟩

/-- An absolute offset is recorded in the place of the displacement. -/
theorem tiling_of_moffs (heq : c.form.operands = os ++ o :: os') (hos : FreeOfConstants os)
    (hos' : FreeOfConstants os') (hmoffs : o.spec.isMoffs) (haddress : c.address = none)
    (h : c.settled start bs = some final) :
    final.constants = tiling start c.width.bytes 0 0 ∧
      final.memory.displacementSize = c.width.bytes := by
  obtain ⟨element, hspec⟩ := OperandSpec.isMoffs_iff.1 hmoffs
  have hkept := kept_of_settled_one heq hos hos' h
  have hzero : c.displacementSize = 0 := by
    rw [displacementSize, haddress]
    rfl
  rw [hkept.constants, hkept.displacementSize, hspec, hzero]
  refine ⟨?_, rfl⟩
  simp only [Draft.advance, Draft.setOffset, constants_opening, hzero, tiling, Nat.add_zero]
  rw [← Span.starting_of_ne_zero c.width.bytes_ne_zero]
  rfl

theorem tiling_of_two (heq : c.form.operands = os ++ o :: (os' ++ o' :: os''))
    (hos : FreeOfConstants os) (hos' : FreeOfConstants os') (hos'' : FreeOfConstants os'')
    (ho : o.spec.isImmediate) (ho' : o'.spec.isImmediate) (h : c.settled start bs = some final) :
    final.constants = tiling start c.displacementSize o.spec.size o'.spec.size ∧
      final.memory.displacementSize = c.displacementSize ∧ o.spec.size ≠ 0 := by
  obtain ⟨value, hspec⟩ := OperandSpec.isImmediate_iff.1 ho
  obtain ⟨value', hspec'⟩ := OperandSpec.isImmediate_iff.1 ho'
  have hkept := kept_of_settled_two heq hos hos' hos'' h
  rw [hkept.constants, hkept.displacementSize, hspec, hspec']
  have hsize := value.width.bytes_ne_zero
  have hfirst := Draft.constants_addImmediate_first (constants_opening c start
    (bs.take c.displacementSize)) hsize
  refine ⟨?_, displacementSize_opening c start _, hsize⟩
  exact Draft.constants_addImmediate_second hfirst hsize value'.width.bytes_ne_zero

end Settled

end Frame

/-- The number of bytes of the immediates of a form. -/
def Form.immediateSize (f : Form) : Nat :=
  (f.operands.map fun o => o.spec.size).sum

theorem FreeOfConstants.sum_size_eq {os : List FormOperand} (h : FreeOfConstants os) :
    (os.map fun o => o.spec.size).sum = 0 := by
  induction os with
  | nil => rfl
  | cons o os ih =>
    obtain ⟨ho, hos⟩ := List.forall_mem_cons.1 h
    rw [List.map_cons, List.sum_cons, ih hos, Nat.add_zero]
    generalize o.spec = spec at ho
    cases spec <;> first | rfl | cases ho

namespace Frame

open ConstantOffsets (tiling)

/-- The displacement and the immediates follow each other, in the sizes that the memory and the form
have. -/
theorem exists_tiling_of_settled {c : Frame} (hc : c.Regular) {draft : Draft} {start : Nat}
    {bs : List UInt8} (h : c.settled start bs = some draft) :
    ∃ displacement first second, draft.constants = tiling start displacement first second ∧
      c.size = displacement + first + second ∧ (second ≠ 0 → first ≠ 0) ∧
      draft.memory.displacementSize = displacement ∧
      first + second = c.form.immediateSize := by
  rcases Table.constantOperands_cases hc.mem_forms with hfree | ⟨-, hone | htwo⟩
  · obtain ⟨hconstants, hmemory⟩ := tiling_of_free hfree h
    refine ⟨_, 0, 0, hconstants, size_of_free hfree, id, hmemory, ?_⟩
    exact hfree.sum_size_eq.symm
  · obtain ⟨os, o, os', heq, hos, hos', ho, hpresent, -⟩ := hone
    have hsize := size_of_one heq hos hos'
    have himmediate : c.form.immediateSize = o.spec.size := by
      rw [Form.immediateSize, heq, List.map_append, List.map_cons, List.sum_append, List.sum_cons,
        hos.sum_size_eq, hos'.sum_size_eq, Nat.zero_add, Nat.add_zero]
    cases hmoffs : o.spec.isMoffs with
    | true =>
      -- The offset counts as a displacement, and there is no other.
      have haddress := address_eq_none hc (hpresent hmoffs)
      obtain ⟨hconstants, hmemory⟩ := tiling_of_moffs heq hos hos' hmoffs haddress h
      obtain ⟨element, hspec⟩ := OperandSpec.isMoffs_iff.1 hmoffs
      rw [displacementSize, haddress, hspec] at hsize
      rw [hspec] at himmediate
      refine ⟨_, 0, 0, hconstants, ?_, id, hmemory, himmediate.symm⟩
      rw [hsize]
      exact Nat.zero_add _
    | false =>
      obtain ⟨hconstants, hmemory⟩ := tiling_of_one heq hos hos' ho hmoffs h
      have hsum := o.spec.immediateSizes_add
      have hfirst := OperandSpec.immediateSizes_ne_zero ho hmoffs
      refine ⟨_, _, _, hconstants, ?_, fun _ => hfirst, hmemory, hsum.trans himmediate.symm⟩
      rw [hsize, OperandSpec.bytesRead_of_not_isMoffs hmoffs, ← hsum, Nat.add_assoc]
  · obtain ⟨os, o, os', o', os'', heq, hos, hos', hos'', ho, ho'⟩ := htwo
    obtain ⟨hconstants, hmemory, hne⟩ := tiling_of_two heq hos hos' hos'' ho ho' h
    refine ⟨_, _, _, hconstants, ?_, fun _ => hne, hmemory, ?_⟩
    · obtain ⟨value, hspec⟩ := OperandSpec.isImmediate_iff.1 ho
      obtain ⟨value', hspec'⟩ := OperandSpec.isImmediate_iff.1 ho'
      rw [size_of_two heq hos hos' hos'', hspec, hspec']
      rfl
    · rw [Form.immediateSize, heq]
      simp only [List.map_append, List.map_cons, List.sum_append, List.sum_cons, hos.sum_size_eq,
        hos'.sum_size_eq, hos''.sum_size_eq, Nat.zero_add, Nat.add_zero]

/-- The address that the ModR/M byte names stays as it was read. -/
theorem memory_of_settled {c : Frame} (hc : c.Regular) {draft : Draft} {start : Nat}
    {bs : List UInt8} (h : c.settled start bs = some draft) {a : AddressPlan}
    (haddress : c.address = some a) :
    draft.memory.unsegmented =
        (c.opening start (bs.take c.displacementSize)).memory.unsegmented ∧
      draft.constants.displacement = .starting start a.size := by
  have hsize : c.displacementSize = a.size := by
    rw [displacementSize, haddress]
    rfl
  rcases Table.constantOperands_cases hc.mem_forms with hfree | ⟨-, hone | htwo⟩
  · rw [(tiling_of_free hfree h).1, ← hsize]
    exact ⟨(kept_of_settled_free hfree h).memory, rfl⟩
  · obtain ⟨os, o, os', heq, hos, hos', ho, -⟩ := hone
    have hmem : o ∈ c.form.operands := heq ▸ List.mem_append_right os List.mem_cons_self
    have hmoffs := isMoffs_eq_false hc haddress hmem
    have hkept := kept_of_settled_one heq hos hos' h
    obtain ⟨-, hmemory⟩ := constants_advance (constants_opening c start _) ho hmoffs
    rw [(tiling_of_one heq hos hos' ho hmoffs h).1, hkept.memory, hmemory, ← hsize]
    exact ⟨rfl, rfl⟩
  · obtain ⟨os, o, os', o', os'', heq, hos, hos', hos'', ho, ho'⟩ := htwo
    obtain ⟨value, hspec⟩ := OperandSpec.isImmediate_iff.1 ho
    obtain ⟨value', hspec'⟩ := OperandSpec.isImmediate_iff.1 ho'
    have hkept := kept_of_settled_two heq hos hos' hos'' h
    rw [(tiling_of_two heq hos hos' hos'' ho ho' h).1, hkept.memory, hspec, hspec', ← hsize]
    exact ⟨rfl, rfl⟩

end Frame

/-! ### Decoding -/

theorem Body.displacementSize_placeMemory (relative : Bool) (next : UInt64)
    (memory : MemoryReference) :
    (placeMemory relative next memory).displacementSize = memory.displacementSize := by
  rw [placeMemory]
  split
  · rfl
  · split <;> rfl

/-- The constants of an instruction stand at its end, one after the other: the displacement, then
the first immediate, then the second. There is a second one only if there is a first. The
displacement has the size that the memory operand states, and the immediates have the sizes that
the operands of the form state. -/
theorem decode_constants_tile {mode : Mode} {data : List UInt8} {ip : UInt64} {inst : Instruction}
    (h : (decode mode data ip).outcome = .ok inst) :
    (∃ start, Span.Tiles start inst.constants.spans inst.length) ∧
      (inst.constants.displacement.size : Int) = inst.memory.displacementSize ∧
      (inst.constants.second.size ≠ 0 → inst.constants.first.size ≠ 0) ∧
      ∃ f, Table.form? inst.code = some f ∧
        inst.constants.first.size + inst.constants.second.size = f.immediateSize := by
  obtain ⟨c, t, hframe, -, draft, hdraft, rfl⟩ := decode_eq_ok_iff.1 h
  obtain ⟨hregular, -, -⟩ := Reader.regular_of_runOn_frame hframe
  obtain ⟨displacement, first, second, hconstants, hsize, hsecond, hmemory, himmediate⟩ :=
    Frame.exists_tiling_of_settled hregular hdraft
  have hinst : (c.instruction ip t.consumed draft).constants =
      ConstantOffsets.tiling t.consumed displacement first second := hconstants
  rw [hinst]
  refine ⟨⟨t.consumed, ?_⟩, ?_, ?_, c.form, Table.form?_code hregular.mem_forms, ?_⟩
  · have hlength : (c.instruction ip t.consumed draft).length =
        t.consumed + displacement + first + second := by
      change t.consumed + c.size = _
      rw [hsize, Nat.add_assoc, Nat.add_assoc, Nat.add_assoc]
    rw [hlength]
    exact ConstantOffsets.tiles_tiling ..
  · -- The place may change the displacement, but not its size.
    rw [ConstantOffsets.tiling, Span.size_starting, ← hmemory]
    exact (Body.displacementSize_placeMemory ..).symm
  · simpa [ConstantOffsets.tiling] using hsecond
  · simpa [ConstantOffsets.tiling] using himmediate

/-- A multiplication with memory relative to the instruction pointer and with an immediate, the
result of which goes to R8. -/
def imul : Instruction where
  code := ⟨240⟩
  mode := some .bits64
  ip := 0x1000
  nextIp := 0x100b
  length := 11
  operands :=
    [{ register := .general .w64 8 }, { kind := .memory },
     { kind := .immediate32to64, immediate := 0xfffffffffffffff0 }]
  memory :=
    { segment := .ds, base := .rip, scale := 1, displacement := 0x12346683, displacementSize := 4
      size := .uint64 }
  constants := { displacement := ⟨3, 4⟩, first := ⟨7, 4⟩ }

/-- A call near the end of the 16 bits of its mode, of the place where it stands. -/
def call : Instruction where
  code := ⟨843⟩
  mode := some .bits16
  ip := 0xfffe
  nextIp := 1
  length := 3
  operands := [{ kind := .nearBranch16, immediate := 0xfffe }]
  constants := { first := ⟨1, 2⟩ }

theorem decode_imul_call :
    (decode .bits64 [0x4c, 0x69, 0x05, 0x78, 0x56, 0x34, 0x12, 0xf0, 0xff, 0xff, 0xff]
        0x1000).outcome = .ok imul ∧
      (decode .bits16 [0xe8, 0xfd, 0xff] 0xfffe).outcome = .ok call := by
  let data : List UInt8 := [0x4c, 0x69, 0x05, 0x78, 0x56, 0x34, 0x12, 0xf0, 0xff, 0xff, 0xff]
  let p : PrefixState := { rex := some ⟨0x4c⟩, w := true, r := true }
  have himul : (Reader.opcode .bits64).runOn { rest := data } =
      (.ok 0x69, { rest := data.drop 2, consumed := 2, prefixes := p }) := rfl
  have hcall : (Reader.opcode .bits16).runOn { rest := [0xe8, 0xfd, 0xff] } =
      (.ok 0xe8, { rest := [0xfd, 0xff], consumed := 1 }) := rfl
  -- The table is evaluated once for both.
  have htests : (((Reader.body .bits64).runOn { rest := data }).1.toOption.any fun body =>
        decide (body.place .bits64 0x1000 = imul)) &&
      ((Reader.body .bits16).runOn { rest := [0xe8, 0xfd, 0xff] }).1.toOption.any fun body =>
        decide (body.place .bits16 0xfffe = call) := by
    simp only [Reader.body, Reader.selector, bind_assoc, Reader.runOn_bind_of_ok himul,
      Reader.runOn_bind_of_ok hcall, Reader.withModRM, Reader.modrm, Reader.form,
      Table.lookupChecked, Table.lookup, Table.hasModRM, Table.slot_eq_filter, Table.forms_eq]
    decide +kernel
  rw [Bool.and_eq_true] at htests
  obtain ⟨body, t, hbody, hinst⟩ := Reader.exists_of_any_runOn htests.1
  obtain ⟨body', t', hbody', hinst'⟩ := Reader.exists_of_any_runOn htests.2
  exact ⟨decodeFrom_eq_ok_iff.2 ⟨body, t, hbody, (of_decide_eq_true hinst).symm⟩,
    decodeFrom_eq_ok_iff.2 ⟨body', t', hbody', (of_decide_eq_true hinst').symm⟩⟩

theorem decode_constants_tile_imul :
    (decode .bits64 [0x4c, 0x69, 0x05, 0x78, 0x56, 0x34, 0x12, 0xf0, 0xff, 0xff, 0xff]
        0x1000).outcome = .ok imul ∧
      (∃ start, Span.Tiles start [⟨3, 4⟩, ⟨7, 4⟩] 11) ∧
      ∃ f, Table.form? imul.code = some f ∧ 4 = f.immediateSize :=
  have htile := decode_constants_tile decode_imul_call.1
  ⟨decode_imul_call.1, htile.1, htile.2.2.2⟩

end X86Decoder
