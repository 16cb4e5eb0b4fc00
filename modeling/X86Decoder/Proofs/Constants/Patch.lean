import X86Decoder.Proofs.Constants.Edit

/-!
# Patching constants in place

The constants of an instruction can be overwritten where it reports them. What is decoded then is
the same instruction with another value: the displacement, an immediate, the target of a branch,
the selector of a far branch, or the register that an immediate byte selects.

* `Operand.Reads`: the operand that bytes stand for, in the place of another.
* `Frame.instruction_setOperand`, `Frame.instruction_setDisplacement`: an edit of a draft as an
  edit of the instruction.
* `decode_of_settled`: bytes before the constants that stay as they are make the same frame.
* `Span.SetsOperand`, `Span.SetsSelector`, `Span.SetsDisplacement`: what the bytes at a place
  decide.
* `decode_patch`: what a patch changes.
-/

namespace X86Decoder

open Reader (word)

/-- The second operand is the first with the value that the given bytes stand for. A register is
selected by the high half of a byte, of which the top bit counts in 64-bit mode only. -/
structure Operand.Reads (mode : Mode) (next : UInt64) (bs : List UInt8) (o o' : Operand) :
    Prop where
  kind_eq : o'.kind = o.kind
  register_eq : o.kind ≠ .register → o'.register = o.register
  immediate_eq : o.kind ≠ .register → (o'.immediate.toNat : Int) = o.kind.encoded next bs
  selected : o.kind = .register →
    o'.immediate = o.immediate ∧ o'.register ≠ .none ∧ o'.register.family = o.register.family ∧
      o'.register.index = Word.littleEndian bs / 16 % if mode = .bits64 then 16 else 8

/-- The place of an instruction has to do with the displacement of its memory only. -/
theorem Body.placeMemory_setDisplacement (relative : Bool) (next : UInt64)
    (memory : MemoryReference) (v : UInt64) :
    placeMemory relative next { memory with displacement := v } =
      { placeMemory relative next memory with
        displacement :=
          (placeMemory relative next { memory with displacement := v }).displacement } := by
  rw [placeMemory, placeMemory]
  cases relative with
  | false => rfl
  | true =>
    by_cases hbase : memory.base = .eip
    · simp only [hbase, if_true, Bool.not_true, Bool.false_eq_true, if_false]
    · simp only [hbase, Bool.not_true, Bool.false_eq_true, if_false]

namespace Frame

variable {c : Frame} {ip : UInt64} {start : Nat} {draft : Draft}

/-- Whether an operand refers to memory only depends on its kind. -/
theorem instruction_setOperand {i : Nat} {v v' : Operand} (hv : draft.operands[i]? = some v)
    (hkind : v'.kind = v.kind) :
    c.instruction ip start (draft.setOperand i v') =
      { c.instruction ip start draft with
        operands := (c.instruction ip start draft).operands.set i
          (Body.placeOperand (c.instruction ip start draft).nextIp v') } := by
  -- The memory size and the broadcast look at the kinds of the operands, which stay.
  have hkinds : (draft.operands.set i v').map Operand.kind = draft.operands.map Operand.kind := by
    rw [List.map_set, hkind]
    refine List.ext_getElem? fun j => ?_
    rw [List.getElem?_set]
    split
    · rename_i hij
      subst hij
      obtain ⟨hi, rfl⟩ := List.getElem?_eq_some_iff.1 hv
      simp [hi]
    · rfl
  have hany : ((draft.operands.set i v').any fun o => o.kind.isMemory) =
      draft.operands.any fun o => o.kind.isMemory := by
    have hmap := congrArg (List.any · OpKind.isMemory) hkinds
    simp only [List.any_map] at hmap
    exact hmap
  simp only [instruction, Body.place, Body.memorySize, Body.broadcasts, Draft.setOperand, hany,
    List.map_set]

theorem instruction_setDisplacement (v : UInt64) :
    c.instruction ip start (draft.setDisplacement v) =
      { c.instruction ip start draft with
        memory :=
          { (c.instruction ip start draft).memory with
            displacement := (Body.placeMemory c.relative (c.instruction ip start draft).nextIp
              (draft.setDisplacement v).memory).displacement } } := by
  have hmemory : (c.instruction ip start (draft.setDisplacement v)).memory =
      { (c.instruction ip start draft).memory with
        displacement := (Body.placeMemory c.relative (c.instruction ip start draft).nextIp
          (draft.setDisplacement v).memory).displacement } :=
    congrArg (fun memory : MemoryReference =>
      { memory with size := (c.instruction ip start draft).memory.size })
      (Body.placeMemory_setDisplacement c.relative (c.instruction ip start draft).nextIp
        draft.memory v)
  rw [← hmemory]
  rfl

end Frame

/-! ### Operands with other bytes -/

theorem Body.register_placeOperand (next : UInt64) (o : Operand) :
    (placeOperand next o).register = o.register := by
  rw [placeOperand]
  split <;> rfl

/-- An operand that holds a number, in the place of another of its kind. -/
theorem Operand.Reads.of_immediate {mode : Mode} {next : UInt64} {bs : List UInt8} {v v' : Operand}
    (hkind : v'.kind = v.kind) (hregister : v'.register = v.register) (hne : v.kind ≠ .register)
    (himmediate : ((Body.placeOperand next v').immediate.toNat : Int) = v'.kind.encoded next bs) :
    (Body.placeOperand next v).Reads mode next bs (Body.placeOperand next v') where
  kind_eq := by rw [Body.kind_placeOperand, Body.kind_placeOperand, hkind]
  register_eq _ := by rw [Body.register_placeOperand, Body.register_placeOperand, hregister]
  immediate_eq _ := by rw [himmediate, Body.kind_placeOperand, hkind]
  selected h := by
    rw [Body.kind_placeOperand] at h
    exact absurd h hne

namespace Frame

variable {c : Frame} {spec : OperandSpec} {bs bs' : List UInt8}

/-- An operand with constants has a value for all bytes, and it is the one that its first immediate
stands for. -/
theorem exists_reads_value (hspec : spec.isConstant) (hmoffs : spec.isMoffs = false)
    (hvector : spec.isIs4 → spec.family.isVector) (hlength : bs.length = spec.size)
    (hlength' : bs'.length = spec.size) {v : Operand} (hv : c.value spec bs = some v)
    (next : UInt64) :
    ∃ v', c.value spec bs' = some v' ∧ v'.kind = v.kind ∧
      (v.kind = .register ∧ spec.immediateSizes.1 = 1 ∨ v.kind.isImmediate ∨ v.kind.isBranch) ∧
      (Body.placeOperand next v).Reads c.mode next (bs'.take spec.immediateSizes.1)
        (Body.placeOperand next v') := by
  have htake : bs'.take spec.size = bs' := List.take_of_length_le (Nat.le_of_eq hlength')
  have hne : spec.isRegister = false → v.kind ≠ .register := by
    intro hspec hkind
    rw [(kind_of_value hv).1 hkind] at hspec
    cases hspec
  cases spec with
  | is4 cls =>
    -- Every byte selects a register, and those of a family are alike.
    obtain ⟨r, hr, -, hfamily, -⟩ := register_of_is4 (hvector rfl) c bs
    obtain ⟨r', hr', hne', hfamily', hindex'⟩ := register_of_is4 (hvector rfl) c bs'
    obtain rfl := Option.some.inj (hr.symm.trans hv)
    refine ⟨_, hr', rfl, .inl ⟨rfl, rfl⟩, rfl, fun h => absurd rfl h, fun h => absurd rfl h,
      fun _ => ?_⟩
    refine ⟨rfl, hne', hfamily'.trans hfamily.symm, ?_⟩
    have hle : bs'.length ≤ 8 := hlength' ▸ (by decide : 1 ≤ 8)
    rw [Word.toNat_word hle] at hindex'
    rw [show bs'.take (OperandSpec.is4 cls).immediateSizes.1 = bs' from htake]
    exact hindex'
  | immediate value =>
    have hv' : c.value (.immediate value) bs' =
        some { kind := value.kind, immediate := value.extend (word bs') } := rfl
    have himmediate : value.kind.isImmediate := by
      rcases value with _ | _ | _ | _ | _ | ⟨_ | _ | _ | _⟩ | _ <;> rfl
    cases hv
    refine ⟨_, hv', rfl, .inr (.inl himmediate), .of_immediate rfl rfl (hne rfl) ?_⟩
    rw [show bs'.take (OperandSpec.immediate value).immediateSizes.1 = bs' from htake]
    exact (immediate_place_immediate next hlength' hv').2
  | relative offset target =>
    have hv' : c.value (.relative offset target) bs' =
        some { kind := .nearBranch target
               immediate := Word.signExtend offset.bits (word bs') } := rfl
    have hbranch : (OpKind.nearBranch target).isBranch := by cases target <;> rfl
    cases hv
    refine ⟨_, hv', rfl, .inr (.inr hbranch), .of_immediate rfl rfl (hne rfl) ?_⟩
    rw [show bs'.take (OperandSpec.relative offset target).immediateSizes.1 = bs' from htake]
    exact (immediate_place_relative next hlength' hv').2
  | far wide =>
    have hv' : c.value (.far wide) bs' = some
        { kind := if wide then .farBranch32 else .farBranch16
          immediate := word (bs'.take (OperandSpec.farOffset wide).bytes) } := rfl
    have hbranch : (if wide then OpKind.farBranch32 else .farBranch16).isBranch := by
      cases wide <;> rfl
    cases hv
    exact ⟨_, hv', rfl, .inr (.inr hbranch),
      .of_immediate rfl rfl (hne rfl) (immediate_place_far next hlength' hv').2⟩
  | moffs element => cases hmoffs
  | reg _ | rm _ | rmRegister _ | rmMemory | vvvv _ | implicit _ | one | stringSource _
  | stringDestination _ | maskDestination | vsib _ _ => cases hspec

/-- What an operand leaves behind depends on no bytes of its first immediate. -/
theorem advance_congr (hmoffs : spec.isMoffs = false)
    (h : bs'.drop spec.immediateSizes.1 = bs.drop spec.immediateSizes.1) (draft : Draft)
    (place : Nat) : draft.advance c spec place bs' = draft.advance c spec place bs := by
  cases spec with
  | far wide => simp only [Draft.advance, show bs'.drop (OperandSpec.farOffset wide).bytes =
      bs.drop (OperandSpec.farOffset wide).bytes from h]
  | moffs element => cases hmoffs
  | _ => rfl

/-- The bytes of an operand are as many as it reads. -/
theorem length_slice {os os' : List FormOperand} {o : FormOperand}
    (heq : c.form.operands = os ++ o :: os') (hlength : bs.length = c.size) :
    (c.slice os o (bs.drop c.displacementSize)).length = o.spec.bytesRead c.width := by
  rw [slice, List.length_take, List.length_drop, List.length_drop, hlength, size, heq,
    bytesRead_append, bytesRead]
  omega

/-- The bytes of an operand end within the constants. -/
theorem add_bytesRead_le_size {os os' : List FormOperand} {o : FormOperand}
    (heq : c.form.operands = os ++ o :: os') :
    c.displacementSize + bytesRead c.width os + o.spec.bytesRead c.width ≤ c.size := by
  rw [size, heq, bytesRead_append, bytesRead]
  omega

end Frame

/-! ### Decoding -/

/-- Bytes before the constants that stay as they are make the same frame. -/
theorem decode_of_settled {mode : Mode} {data data' : List UInt8} {c : Frame} {t : ReadState}
    (ip : UInt64) (hframe : (Reader.frame mode).runOn { rest := data } = (.ok c, t))
    (hroom : t.Room c.size) {span : Span} (hpatch : span.Patches data data')
    (hstart : t.consumed ≤ span.offset) {draft : Draft}
    (hdraft : c.settled t.consumed ((data'.drop t.consumed).take c.size) = some draft) :
    (decode mode data' ip).outcome = .ok (c.instruction ip t.consumed draft) := by
  have hrest := Reader.rest_of_runOn_frame hframe
  have hdata : data = data.take t.consumed ++ t.rest := by rw [hrest, List.take_append_drop]
  have hdata' : data' = data.take t.consumed ++ data'.drop t.consumed := by
    rw [← hpatch.take_before hstart, List.take_append_drop]
  have hrun := (Reader.selfDelimiting_frame mode).runOn_congr hframe hdata (data'.drop t.consumed)
  rw [decode_eq_ok_iff]
  refine ⟨c, { t with rest := data'.drop t.consumed }, ?_, ?_, draft, hdraft, rfl⟩
  · rwa [← hdata'] at hrun
  · obtain ⟨hle, hmax⟩ := hroom
    refine ⟨?_, hmax⟩
    rw [hrest, List.length_drop] at hle
    rwa [List.length_drop, hpatch.length_eq]

/-- Whatever bytes are written at the place, one operand of the instruction gets the value that they
stand for, and nothing else changes. The operand is an immediate or a branch, or a register that a
single byte selects. -/
def Span.SetsOperand (span : Span) (mode : Mode) (data : List UInt8) (ip : UInt64)
    (inst : Instruction) : Prop :=
  ∃ i o, inst.operands[i]? = some o ∧
    (o.kind = .register ∧ span.size = 1 ∨ o.kind.isImmediate ∨ o.kind.isBranch) ∧
    ∀ data', span.Patches data data' →
      ∃ o', o.Reads mode inst.nextIp (span.cut data') o' ∧
        (decode mode data' ip).outcome = .ok { inst with operands := inst.operands.set i o' }

/-- Whatever bytes are written at the place, they become the selector of the far branch, and nothing
else changes. -/
def Span.SetsSelector (span : Span) (mode : Mode) (data : List UInt8) (ip : UInt64)
    (inst : Instruction) : Prop :=
  (∃ o ∈ inst.operands, o.kind = .farBranch16 ∨ o.kind = .farBranch32) ∧
    ∀ data', span.Patches data data' →
      ∃ selector : UInt16, selector.toNat = Word.littleEndian (span.cut data') ∧
        (decode mode data' ip).outcome = .ok { inst with farSelector := selector }

/-- Whatever bytes are written at the place, they become the displacement, and nothing else
changes. A single byte is counted in the unit of the form, an address relative to the instruction
pointer is counted from the next instruction, and what comes out is cut to the address size. -/
def Span.SetsDisplacement (span : Span) (mode : Mode) (data : List UInt8) (ip : UInt64)
    (inst : Instruction) : Prop :=
  ∃ f, Table.form? inst.code = some f ∧
    ∀ data', span.Patches data data' →
      ∃ v : UInt64,
        (v.toNat : Int) =
          ((if inst.memory.base.isPointer then (inst.nextIp.toNat : Int) else 0) +
            Word.twosComplement (span.cut data') *
              if span.size = 1 then f.displacementUnit (decode mode data ip).prefixes else 1) %
            (Nat.pow 2 ((decode mode data ip).prefixes.addressSize mode).bits : Nat) ∧
        (decode mode data' ip).outcome =
          .ok { inst with memory := { inst.memory with displacement := v } }

section Patch

variable {mode : Mode} {data : List UInt8} {c : Frame} {t : ReadState} {draft : Draft}
  (hframe : (Reader.frame mode).runOn { rest := data } = (.ok c, t)) (hroom : t.Room c.size)
  (hdraft : c.settled t.consumed ((data.drop t.consumed).take c.size) = some draft) (ip : UInt64)

/-- A patch within the constants. -/
theorem Span.Patches.constants {data' : List UInt8} {offset size : Nat}
    (h : Span.Patches ⟨t.consumed + offset, size⟩ data data') (hsize : offset + size ≤ c.size) :
    Span.Patches ⟨offset, size⟩ ((data.drop t.consumed).take c.size)
      ((data'.drop t.consumed).take c.size) :=
  h.drop.take hsize

include hframe hroom hdraft

/-- The first immediate of an operand is its value. -/
theorem setsOperand_starting {os os' : List FormOperand} {o : FormOperand}
    (heq : c.form.operands = os ++ o :: os')
    (hvsib : ∀ o ∈ c.form.operands, o.spec.isVsib = false) (ho : o.spec.isConstant)
    (hmoffs : o.spec.isMoffs = false) (his4 : o.spec.isIs4 → o.spec.family.isVector) :
    (Span.starting (t.consumed + (c.displacementSize + bytesRead c.width os))
      o.spec.immediateSizes.1).SetsOperand mode data ip (c.instruction ip t.consumed draft) := by
  obtain ⟨-, rfl, -⟩ := Reader.regular_of_runOn_frame hframe
  have hread := OperandSpec.bytesRead_of_not_isMoffs hmoffs c.width
  have hle : 0 + o.spec.immediateSizes.1 ≤ o.spec.bytesRead c.width := by
    rw [hread, ← o.spec.immediateSizes_add, Nat.zero_add]
    exact Nat.le_add_right _ _
  have htotal : c.displacementSize + bytesRead c.width os + o.spec.immediateSizes.1 ≤ c.size := by
    have hsize := Frame.add_bytesRead_le_size heq
    omega
  have hlength := (Frame.length_slice heq (Reader.length_constants hframe hroom rfl)).trans hread
  obtain ⟨v, hv, hget⟩ := Frame.exists_value_of_split heq hdraft
  obtain ⟨-, -, -, hkind, -⟩ := Frame.exists_reads_value ho hmoffs his4 hlength hlength hv 0
  refine ⟨os.length, Body.placeOperand (c.instruction ip t.consumed draft).nextIp v, ?_, ?_, ?_⟩
  · change (draft.operands.map _)[os.length]? = _
    rw [List.getElem?_map, hget]
    rfl
  · rwa [Body.kind_placeOperand, Span.size_starting]
  intro data' hpatch
  rw [Span.starting_of_ne_zero (OperandSpec.immediateSizes_ne_zero ho hmoffs)] at hpatch
  have hlength' := (Frame.length_slice heq
    (Reader.length_constants hframe hroom hpatch.length_eq)).trans hread
  obtain ⟨v', hv', hkind', -, hreads⟩ := Frame.exists_reads_value ho hmoffs his4 hlength hlength' hv
    (c.instruction ip t.consumed draft).nextIp
  have hconstants := hpatch.constants htotal
  -- Behind its first immediate the operand has the bytes that it had.
  have hdrop := ((@Span.Patches.drop _ _ 0 _ _ hconstants.drop).take hle).drop_eq
  rw [Nat.zero_add] at hdrop
  have hsettled := Frame.settled_setOperand heq hdraft hvsib hle hconstants
    (fun before place => Frame.advance_congr hmoffs hdrop before place) hv'
  refine ⟨_, ?_, (decode_of_settled ip hframe hroom hpatch (Nat.le_add_right _ _) hsettled).trans
    (congrArg Except.ok (Frame.instruction_setOperand hget hkind'))⟩
  rw [Span.cut_starting htotal]
  rw [Nat.zero_add] at hle
  rw [Frame.slice, List.take_take, Nat.min_eq_left hle, List.drop_drop] at hreads
  exact hreads

/-- An immediate has no second part. -/
theorem setsOperand_immediate {os os' : List FormOperand} {o : FormOperand}
    (heq : c.form.operands = os ++ o :: os')
    (hvsib : ∀ o ∈ c.form.operands, o.spec.isVsib = false) (ho : o.spec.isImmediate) :
    (Span.starting (t.consumed + (c.displacementSize + bytesRead c.width os))
      o.spec.size).SetsOperand mode data ip (c.instruction ip t.consumed draft) := by
  obtain ⟨value, hspec⟩ := OperandSpec.isImmediate_iff.1 ho
  have hoperand := setsOperand_starting hframe hroom hdraft ip heq hvsib
  rw [hspec] at hoperand ⊢
  exact hoperand rfl rfl fun h => by cases h

/-- The second immediate of a far branch is its selector. -/
theorem setsSelector_starting {os os' : List FormOperand} {o : FormOperand}
    (heq : c.form.operands = os ++ o :: os') (hos' : FreeOfConstants os') {wide : Bool}
    (hspec : o.spec = .far wide) :
    (Span.starting (t.consumed + (c.displacementSize +
        (bytesRead c.width os + (OperandSpec.farOffset wide).bytes))) 2).SetsSelector mode data ip
      (c.instruction ip t.consumed draft) := by
  obtain ⟨-, rfl, -⟩ := Reader.regular_of_runOn_frame hframe
  have hread : o.spec.bytesRead c.width = (OperandSpec.farOffset wide).bytes + 2 := by
    rw [hspec]
    rfl
  have htotal : c.displacementSize +
      (bytesRead c.width os + (OperandSpec.farOffset wide).bytes) + 2 ≤ c.size := by
    have hsize := Frame.add_bytesRead_le_size heq
    omega
  obtain ⟨v, hv, hget⟩ := Frame.exists_value_of_split heq hdraft
  refine ⟨⟨_, List.mem_map_of_mem (List.mem_of_getElem? hget), ?_⟩, fun data' hpatch => ?_⟩
  · rw [hspec] at hv
    cases hv
    rw [Body.kind_placeOperand]
    cases wide
    · exact .inl rfl
    · exact .inr rfl
  · rw [Span.starting_of_ne_zero (by decide)] at hpatch
    have hsettled := Frame.settled_setSelector heq hdraft hos' hspec (hpatch.constants htotal)
    have hdecode := decode_of_settled ip hframe hroom hpatch (Nat.le_add_right _ _) hsettled
    refine ⟨_, ?_, hdecode.trans rfl⟩
    have hlength := Frame.length_slice heq (Reader.length_constants hframe hroom hpatch.length_eq)
    -- The selector is the end of the bytes of the operand.
    have hcut : (Span.starting (t.consumed + (c.displacementSize +
          (bytesRead c.width os + (OperandSpec.farOffset wide).bytes))) 2).cut data' =
        (c.slice os o (((data'.drop t.consumed).take c.size).drop c.displacementSize)).drop
          (OperandSpec.farOffset wide).bytes := by
      rw [Span.cut_starting htotal, Frame.slice, hread]
      generalize (data'.drop t.consumed).take c.size = bs'
      rw [List.drop_take, Nat.add_sub_cancel_left, List.drop_drop, List.drop_drop]
    rw [hcut]
    refine Word.toNat_toUInt16_word ?_
    rw [List.length_drop, hlength, hread, Nat.add_sub_cancel_left]

/-- The bytes behind the ModR/M and SIB bytes are the displacement. -/
theorem setsDisplacement_address (hne : c.displacementSize ≠ 0) :
    (Span.starting t.consumed c.displacementSize).SetsDisplacement mode data ip
      (c.instruction ip t.consumed draft) := by
  obtain ⟨hregular, rfl, -⟩ := Reader.regular_of_runOn_frame hframe
  obtain ⟨a, haddress⟩ := Frame.exists_address_of_displacementSize hne
  have hsize : c.displacementSize = a.size := by
    rw [Frame.displacementSize, haddress]
    rfl
  have hrelative : c.relative = a.relative := by
    rw [Frame.relative, haddress]
    rfl
  have hbase : draft.memory.base = a.base := by
    rw [(Frame.registers_of_settled hdraft).1, haddress]
    rfl
  have hbase' : (c.instruction ip t.consumed draft).memory.base = a.base :=
    (Body.base_placeMemory ..).trans hbase
  have htotal : 0 + c.displacementSize ≤ c.size := by
    rw [Frame.size, Nat.zero_add]
    exact Nat.le_add_right _ _
  refine ⟨c.form, Table.form?_code hregular.mem_forms, fun data' hpatch => ?_⟩
  rw [Span.size_starting, Reader.prefixes_of_runOn_frame hframe, hbase']
  have hcut : (Span.starting t.consumed c.displacementSize).cut data' =
      ((data'.drop t.consumed).take c.size).take c.displacementSize := Span.cut_starting htotal
  have hlength : ((Span.starting t.consumed c.displacementSize).cut data').length = a.size := by
    rw [hcut, List.length_take, Reader.length_constants hframe hroom hpatch.length_eq, ← hsize]
    omega
  rw [Span.starting_of_ne_zero hne] at hpatch
  have hsettled := Frame.settled_setDisplacement hregular hdraft haddress
    (@Span.Patches.constants data c t data' 0 _ hpatch htotal)
  have hdecode := decode_of_settled ip hframe hroom hpatch (Nat.le_refl _) hsettled
  rw [Frame.instruction_setDisplacement, hrelative, ← hcut] at hdecode
  refine ⟨_, ?_, hdecode⟩
  rw [hsize] at hne hlength ⊢
  have hedited : ∀ v, (draft.setDisplacement v).memory.base = a.base := fun _ => hbase
  exact Frame.toNat_placeMemory (hregular.address a haddress) hne hlength (hedited _) rfl
    (c.instruction ip t.consumed draft).nextIp

/-- An absolute offset is the displacement. -/
theorem setsDisplacement_moffs {os os' : List FormOperand} {o : FormOperand}
    (heq : c.form.operands = os ++ o :: os') (hos : FreeOfConstants os) (hos' : FreeOfConstants os')
    (hmoffs : o.spec.isMoffs) (haddress : c.address = none) :
    (Span.starting t.consumed c.width.bytes).SetsDisplacement mode data ip
      (c.instruction ip t.consumed draft) := by
  obtain ⟨hregular, rfl, -⟩ := Reader.regular_of_runOn_frame hframe
  obtain ⟨element, hspec⟩ := OperandSpec.isMoffs_iff.1 hmoffs
  have hzero : c.displacementSize = 0 := by
    rw [Frame.displacementSize, haddress]
    rfl
  have hread : o.spec.bytesRead c.width = c.width.bytes := by
    rw [hspec]
    rfl
  have hsize : c.size = c.width.bytes := by
    rw [Frame.size_of_one heq hos hos', hzero, hread, Nat.zero_add]
  have hrelative : c.relative = false := by
    rw [Frame.relative, haddress]
    rfl
  have hbase : (c.instruction ip t.consumed draft).memory.base = .none := by
    refine (Body.base_placeMemory ..).trans ((Frame.registers_of_settled hdraft).1.trans ?_)
    rw [haddress]
    rfl
  have hbytes : c.width.bytes ≠ 1 := by cases c.width <;> decide
  refine ⟨c.form, Table.form?_code hregular.mem_forms, fun data' hpatch => ?_⟩
  have hcut : (Span.starting t.consumed c.width.bytes).cut data' =
      (data'.drop t.consumed).take c.size := by
    rw [Span.starting_of_ne_zero c.width.bytes_ne_zero, hsize]
    rfl
  have hlength : ((Span.starting t.consumed c.width.bytes).cut data').length = c.width.bytes := by
    rw [hcut, Reader.length_constants hframe hroom hpatch.length_eq, hsize]
  -- The operand has all of the constants.
  have hslice : c.slice os o (((data'.drop t.consumed).take c.size).drop c.displacementSize) =
      (data'.drop t.consumed).take c.size := by
    rw [Frame.slice, hos.bytesRead_eq, hzero, List.drop_zero, List.drop_zero, hread, ← hsize,
      List.take_take, Nat.min_self]
  have hplace : c.displacementSize + bytesRead c.width os = 0 := by rw [hzero, hos.bytesRead_eq]
  rw [Span.starting_of_ne_zero c.width.bytes_ne_zero] at hpatch
  have hconstants := @Span.Patches.constants data c t data' 0 c.width.bytes hpatch
    (by rw [hsize, Nat.zero_add])
  have hsettled := Frame.settled_setOffset heq hdraft hos' hmoffs (by rwa [hplace])
  have hdecode := decode_of_settled ip hframe hroom hpatch (Nat.le_refl _) hsettled
  rw [hslice, ← hcut, Frame.instruction_setDisplacement, hrelative] at hdecode
  refine ⟨_, ?_, hdecode⟩
  rw [Span.size_starting, Reader.prefixes_of_runOn_frame hframe, hbase, if_neg (by decide),
    if_neg hbytes, Int.zero_add, Int.mul_one]
  have hvalue := Word.toNat_word (Nat.le_trans (Nat.le_of_eq hlength) c.width.bytes_le)
  have hbits : 8 * ((Span.starting t.consumed c.width.bytes).cut data').length = c.width.bits := by
    rw [hlength, c.width.bits_eq]
  exact (congrArg Int.ofNat hvalue).trans (Word.littleEndian_eq_emod hbits)

end Patch

/-- The constants of an instruction can be patched in place. Whatever bytes are written where it
has its displacement, its first or its second immediate, decoding succeeds again, and only the
value at this place changes: the displacement; an operand that is an immediate, a branch or a
selected register; or the selector of a far branch. -/
theorem decode_patch {mode : Mode} {data : List UInt8} {ip : UInt64} {inst : Instruction}
    (h : (decode mode data ip).outcome = .ok inst) :
    (inst.constants.displacement.size ≠ 0 →
      inst.constants.displacement.SetsDisplacement mode data ip inst) ∧
    (inst.constants.first.size ≠ 0 → inst.constants.first.SetsOperand mode data ip inst) ∧
    (inst.constants.second.size ≠ 0 →
      inst.constants.second.SetsOperand mode data ip inst ∨
        inst.constants.second.SetsSelector mode data ip inst) := by
  obtain ⟨c, t, hframe, hroom, draft, hdraft, rfl⟩ := decode_eq_ok_iff.1 h
  obtain ⟨hregular, -, -⟩ := Reader.regular_of_runOn_frame hframe
  rw [Reader.rest_of_runOn_frame hframe] at hdraft
  -- The spans that an instruction reports are those of its draft.
  change (draft.constants.displacement.size ≠ 0 →
      draft.constants.displacement.SetsDisplacement ..) ∧
    (draft.constants.first.size ≠ 0 → draft.constants.first.SetsOperand ..) ∧
    (draft.constants.second.size ≠ 0 →
      draft.constants.second.SetsOperand .. ∨ draft.constants.second.SetsSelector ..)
  have hdisplacement := setsDisplacement_address hframe hroom hdraft ip
  rcases Table.constantOperands_cases hregular.mem_forms with hfree | ⟨hvsib, hone | htwo⟩
  · rw [(Frame.tiling_of_free hfree hdraft).1]
    simp only [ConstantOffsets.tiling, Span.size_starting]
    exact ⟨hdisplacement, fun h => absurd rfl h, fun h => absurd rfl h⟩
  · obtain ⟨os, o, os', heq, hos, hos', ho, hpresent, his4⟩ := hone
    cases hmoffs : o.spec.isMoffs with
    | true =>
      have haddress := Frame.address_eq_none hregular (hpresent hmoffs)
      rw [(Frame.tiling_of_moffs heq hos hos' hmoffs haddress hdraft).1]
      simp only [ConstantOffsets.tiling, Span.size_starting]
      exact ⟨fun _ => setsDisplacement_moffs hframe hroom hdraft ip heq hos hos' hmoffs haddress,
        fun h => absurd rfl h, fun h => absurd rfl h⟩
    | false =>
      have hfirst := setsOperand_starting hframe hroom hdraft ip heq hvsib ho hmoffs his4
      rw [hos.bytesRead_eq, Nat.add_zero] at hfirst
      rw [(Frame.tiling_of_one heq hos hos' ho hmoffs hdraft).1]
      simp only [ConstantOffsets.tiling, Span.size_starting]
      refine ⟨hdisplacement, fun _ => hfirst, fun hsecond => .inr ?_⟩
      obtain ⟨wide, hspec⟩ := OperandSpec.exists_far_of_immediateSizes hsecond
      have hselector := setsSelector_starting hframe hroom hdraft ip heq hos' hspec
      rw [hos.bytesRead_eq, Nat.zero_add, ← Nat.add_assoc] at hselector
      rw [hspec]
      exact hselector
  · obtain ⟨os, o, os', o', os'', heq, hos, hos', hos'', ho, ho'⟩ := htwo
    have heq' : c.form.operands = (os ++ o :: os') ++ o' :: os'' := by
      rw [heq, List.append_assoc]
      rfl
    have hfirst := setsOperand_immediate hframe hroom hdraft ip heq hvsib ho
    have hsecond := setsOperand_immediate hframe hroom hdraft ip heq' hvsib ho'
    -- Between the two immediates there are no bytes.
    obtain ⟨value, hspec⟩ := OperandSpec.isImmediate_iff.1 ho
    rw [hos.bytesRead_eq, Nat.add_zero] at hfirst
    rw [bytesRead_append, bytesRead, hos.bytesRead_eq, hos'.bytesRead_eq, Nat.zero_add,
      Nat.add_zero, ← Nat.add_assoc,
      OperandSpec.bytesRead_of_not_isMoffs (by rw [hspec]; rfl)] at hsecond
    rw [(Frame.tiling_of_two heq hos hos' hos'' ho ho' hdraft).1]
    simp only [ConstantOffsets.tiling, Span.size_starting]
    exact ⟨hdisplacement, fun _ => hfirst, fun _ => .inl hsecond⟩

/-- Another address and another factor for the multiplication. -/
theorem decode_patch_imul :
    (∃ v : UInt64, v.toNat = 0xffffffff8000100b ∧
      (decode .bits64 [0x4c, 0x69, 0x05, 0x00, 0x00, 0x00, 0x80, 0xf0, 0xff, 0xff, 0xff]
        0x1000).outcome = .ok { imul with memory := { imul.memory with displacement := v } }) ∧
    ∃ o' : Operand, o'.immediate.toNat = 10 ∧
      (decode .bits64 [0x4c, 0x69, 0x05, 0x78, 0x56, 0x34, 0x12, 0x0a, 0x00, 0x00, 0x00]
        0x1000).outcome = .ok { imul with operands := imul.operands.set 2 o' } := by
  obtain ⟨hdisplacement, hfirst, -⟩ := decode_patch decode_imul_call.1
  refine ⟨?_, ?_⟩
  · obtain ⟨_, -, hpatch⟩ := hdisplacement (by decide)
    obtain ⟨v, hv, hdecode⟩ := hpatch
      [0x4c, 0x69, 0x05, 0x00, 0x00, 0x00, 0x80, 0xf0, 0xff, 0xff, 0xff] ⟨rfl, rfl, rfl⟩
    refine ⟨v, Int.ofNat_inj.1 (hv.trans ?_), hdecode⟩
    rw [if_neg (by decide : ¬imul.constants.displacement.size = 1), prefixes_decode]
    decide
  · obtain ⟨i, o, ho, hkind, hpatch⟩ := hfirst (by decide)
    -- The first operand is a register, which no four bytes select, and the second is memory.
    obtain rfl : i = 2 := by
      rcases i with _ | _ | _ | i
      · cases ho
        exact absurd hkind (by decide)
      · cases ho
        exact absurd hkind (by decide)
      · rfl
      · cases ho
    cases ho
    obtain ⟨o', ho', hdecode⟩ := hpatch
      [0x4c, 0x69, 0x05, 0x78, 0x56, 0x34, 0x12, 0x0a, 0x00, 0x00, 0x00] ⟨rfl, rfl, rfl⟩
    exact ⟨o', Int.ofNat_inj.1 ((ho'.immediate_eq (by decide)).trans (by decide)), hdecode⟩

end X86Decoder
