import X86Decoder.Proofs.Addressing
import X86Decoder.Proofs.Constants.Frame
import X86Decoder.Proofs.Progress

/-!
# Instructions as functions of their constants

Once the frame of an instruction is known, so is the number of bytes of each operand. Its value is a
function of these bytes alone, and what else is recorded on the way is a function of the place.

* `Frame.value`: an operand, as a function of its bytes.
* `Draft.advance`: what an operand leaves in a draft besides itself.
* `Frame.settleAll`: all operands, each with its part of the bytes.
* `Reader.takes_operands`: this is how operands are read.
* `decode_eq_ok_iff`: an instruction as a function of its frame and the bytes of its constants.
-/

namespace X86Decoder

open Reader (word)

/-! ### Operands from their bytes -/

namespace Draft

/-- Record the selector of a far branch. -/
def setSelector (draft : Draft) (selector : UInt16) : Draft :=
  { draft with farSelector := selector }

/-- Record an absolute offset. -/
def setOffset (draft : Draft) (segment : Register) (offset : UInt64) (span : Span) : Draft :=
  { draft with
    memory :=
      { draft.memory with
        displacement := offset, displacementSize := span.size, scale := 1, segment := segment }
    constants := { draft.constants with displacement := span } }

/-- What an operand at the given place, with the given bytes, leaves in a draft besides itself. -/
def advance (c : Frame) (draft : Draft) (spec : OperandSpec) (start : Nat) (bs : List UInt8) :
    Draft :=
  match spec with
  | .is4 _ | .immediate _ | .relative _ _ => draft.addImmediate ⟨start, spec.size⟩
  | .far wide =>
    let size := (OperandSpec.farOffset wide).bytes
    ((draft.addImmediate ⟨start, size⟩).addImmediate ⟨start + size, 2⟩).setSelector
      (word (bs.drop size)).toUInt16
  | .moffs _ =>
    draft.setOffset (c.prefixes.memorySegment false) (word bs) ⟨start, c.width.bytes⟩
  | .stringSource _ | .maskDestination => draft.setSegment (c.prefixes.memorySegment false)
  | .stringDestination _ => if draft.memory.segment = .none then draft.setSegment .es else draft
  | _ => draft

end Draft

namespace Frame

/-- The operand that is made of the given bytes. -/
def value (c : Frame) (spec : OperandSpec) (bs : List UInt8) : Option Operand :=
  match spec with
  | .reg _ => (Reader.regRegister c.prefixes spec c.modrm).value?.map fun r => { register := r }
  | .rm _ | .rmRegister _ | .rmMemory =>
    if c.isMemory then some { kind := .memory }
    else (Reader.rmRegister c.prefixes spec c.modrm).value?.map fun r => { register := r }
  | .vvvv _ => (Reader.vvvvRegister c.prefixes spec).value?.map fun r => { register := r }
  | .is4 _ =>
    (Reader.is4Register c.prefixes c.mode spec (word bs)).value?.map fun r => { register := r }
  | .implicit r => some { register := r }
  | .one => some { kind := .immediate8, immediate := 1 }
  | .immediate value => some { kind := value.kind, immediate := value.extend (word bs) }
  | .relative offset target =>
    some { kind := .nearBranch target, immediate := Word.signExtend offset.bits (word bs) }
  | .far wide =>
    some { kind := if wide then .farBranch32 else .farBranch16,
           immediate := word (bs.take (OperandSpec.farOffset wide).bytes) }
  | .moffs _ => some { kind := if c.width = .w64 then .memory64 else .memory }
  | .stringSource _ => some { kind := .stringSource c.width }
  | .stringDestination _ => some { kind := .stringDestination c.width }
  | .maskDestination => some { kind := .maskDestination c.width }
  | .vsib _ _ => some { kind := .memory }

/-- Add an operand with the given bytes to a draft, unless it would repeat a vector of indices. -/
def settle (c : Frame) (draft : Draft) (spec : OperandSpec) (start : Nat) (bs : List UInt8) :
    Option Draft :=
  if spec.isVsib && Reader.repeatsIndex draft then none
  else (c.value spec bs).map (draft.advance c spec start bs).push

/-- Add operands to a draft, each with its part of the bytes. -/
def settleAll (c : Frame) : List FormOperand → Draft → Nat → List UInt8 → Option Draft
  | [], draft, _, _ => some draft
  | o :: os, draft, start, bs =>
    if Instruction.maxOperands ≤ draft.operands.length then none
    else
      (c.settle draft o.spec start (bs.take (o.spec.bytesRead c.width))).bind fun next =>
        c.settleAll os next (start + o.spec.bytesRead c.width) (bs.drop (o.spec.bytesRead c.width))

end Frame

namespace Reader

/-! ### Registers -/

section Registers

variable (p : PrefixState) (spec : OperandSpec) (m : ModRM)

theorem silent_register (n : Nat) : (register p spec n).Silent := by
  rw [register]
  split
  · exact silent_request _
  · refine (silent_request _).bind fun r => ?_
    split
    · exact silent_throw _
    · exact silent_pure r

theorem silent_regRegister : (regRegister p spec m).Silent := by
  rw [regRegister]
  split
  case h_4 =>
    split
    · exact silent_throw _
    · exact silent_register ..
  all_goals exact silent_register ..

theorem silent_rmRegister : (rmRegister p spec m).Silent := by
  rw [rmRegister]
  split <;> exact silent_register ..

theorem silent_vvvvRegister : (vvvvRegister p spec).Silent := by
  rw [vvvvRegister]
  split
  · exact silent_throw _
  · exact silent_register ..

end Registers

/-! ### Operands -/

theorem takes_immediate (draft : Draft) {size : Nat} (h : size ≤ 8) :
    (immediate draft size).Takes size fun start bs =>
      some (word bs, draft.addImmediate ⟨start, size⟩) := by
  refine (takes_position.bind fun start => (takes_number h).map fun v =>
    (v, draft.addImmediate ⟨start, size⟩)).congr (Nat.zero_add size) fun start bs _ => ?_
  simp

variable (c : Frame) (draft : Draft)

theorem takes_memoryOffset :
    (memoryOffset c.prefixes c.mode draft).Takes c.width.bytes fun start bs =>
      some ((draft.setOffset (c.prefixes.memorySegment false) (word bs)
        ⟨start, c.width.bytes⟩).push
          { kind := if c.width = .w64 then .memory64 else .memory }) := by
  refine (takes_position.bind fun start => (takes_number c.width.bytes_le).map fun v =>
    (draft.setOffset (c.prefixes.memorySegment false) v ⟨start, c.width.bytes⟩).push
      { kind := if c.width = .w64 then .memory64 else .memory }).congr (Nat.zero_add _) ?_
  intro start bs _
  simp

/-- How one operand is read. -/
theorem takes_operand (spec : OperandSpec) :
    (operand c.prefixes c.mode c.modrm c.isMemory draft spec).Takes (spec.bytesRead c.width)
      (c.settle draft spec) := by
  have hregister : ∀ {m : Reader Register}, m.Silent →
      (m >>= fun r => pure (draft.push { register := r })).Takes 0 fun _ _ =>
        (m.value?.map fun r => ({ register := r } : Operand)).map draft.push := by
    intro m hm
    refine (hm.takes.map fun r => draft.push { register := r }).congr rfl fun start bs _ => ?_
    rw [Option.map_map]
    rfl
  -- An operand without constants takes no bytes: it is a register, or there is nothing to read.
  cases spec with
  | reg cls => exact hregister (silent_regRegister ..)
  | rm _ | rmRegister _ | rmMemory =>
    cases hmemory : c.isMemory with
    | true =>
      refine (takes_pure (draft.push { kind := .memory })).congr rfl fun start bs _ => ?_
      simp only [Frame.settle, Frame.value, hmemory]
      rfl
    | false =>
      refine (hregister (silent_rmRegister c.prefixes _ c.modrm)).congr rfl fun start bs _ => ?_
      simp only [Frame.settle, Frame.value, hmemory]
      rfl
  | vvvv cls => exact hregister (silent_vvvvRegister ..)
  | is4 cls =>
    refine ((takes_immediate draft (by decide)).bind fun result =>
      (silent_register ..).takes.map fun r => result.2.push { register := r }).congr rfl ?_
    intro start bs hlength
    rw [List.take_of_length_le (Nat.le_of_eq hlength)]
    simp [Frame.settle, Frame.value, Draft.advance, OperandSpec.isVsib, OperandSpec.size,
      Function.comp_def, is4Register]
  | implicit r => exact takes_pure _
  | one => exact takes_pure _
  | immediate value =>
    exact (takes_immediate draft value.width.bytes_le).map fun result =>
      result.2.push { kind := value.kind, immediate := value.extend result.1 }
  | relative offset target =>
    exact (takes_immediate draft offset.bytes_le).map fun result =>
      result.2.push
        { kind := .nearBranch target, immediate := Word.signExtend offset.bits result.1 }
  | far wide =>
    exact (takes_immediate draft (WordSize.bytes_le _)).bind fun result =>
      (takes_immediate result.2 (by decide)).map fun result' =>
        (result'.2.setSelector result'.1.toUInt16).push
          { kind := if wide then .farBranch32 else .farBranch16, immediate := result.1 }
  | moffs element => exact takes_memoryOffset c draft
  | stringSource element => exact takes_pure _
  | stringDestination element => exact takes_pure _
  | maskDestination => exact takes_pure _
  | vsib index element =>
    rw [operand]
    split
    · rename_i hrepeats
      refine (takes_throw _ 0).congr rfl fun start bs _ => ?_
      rw [Frame.settle, hrepeats]
      rfl
    · rename_i hrepeats
      refine (takes_pure _).congr rfl fun start bs _ => ?_
      rw [Frame.settle, Bool.eq_false_of_not_eq_true hrepeats]
      rfl

/-- How all operands are read. -/
theorem takes_operands (os : List FormOperand) :
    (operands c.prefixes c.mode c.modrm c.isMemory os draft).Takes (bytesRead c.width os)
      (c.settleAll os draft) := by
  induction os generalizing draft with
  | nil => exact takes_pure draft
  | cons o os ih =>
    rw [operands]
    split
    · rename_i hfull
      refine (takes_throw _ _).congr rfl fun start bs _ => ?_
      rw [Frame.settleAll, if_pos hfull]
    · rename_i hfull
      have hoperands := (takes_operand c draft o.spec).bind fun next => ih next
      refine hoperands.congr rfl fun start bs _ => ?_
      rw [Frame.settleAll, if_neg hfull]

end Reader

/-! ### The displacement -/

/-- The run of bytes at the given place, which is nowhere if it is empty. -/
def Span.starting (start size : Nat) : Span :=
  if size = 0 then {} else ⟨start, size⟩

namespace Frame

/-- The number of displacement bytes after the ModR/M and SIB bytes. -/
def displacementSize (c : Frame) : Nat :=
  c.address.elim 0 AddressPlan.size

/-- Whether the address is relative to the instruction pointer. -/
def relative (c : Frame) : Bool :=
  c.address.elim false AddressPlan.relative

/-- The displacement with the given bytes. One byte is counted in the unit of the form. -/
def displacement (c : Frame) (size : Nat) (bs : List UInt8) : UInt64 :=
  if size = 0 then 0
  else
    let unit := if size = 1 then c.form.displacementUnit c.prefixes else 1
    Word.truncate c.width.bits (UInt64.ofInt (Word.signed (8 * size) (word bs) * unit))

/-- What is known before the operands, given the place and the bytes of the displacement. -/
def opening (c : Frame) (start : Nat) (bs : List UInt8) : Draft :=
  match c.address with
  | some a =>
    { memory :=
        { segment := c.prefixes.memorySegment (isStackBase a.base), base := a.base
          index := a.index, scale := a.scale, displacement := c.displacement a.size bs
          displacementSize := a.size }
      constants := { displacement := Span.starting start a.size } }
  | none => {}

/-- The number of bytes of all constants. -/
def size (c : Frame) : Nat :=
  c.displacementSize + bytesRead c.width c.form.operands

/-- The operands and memory that the constants make of a frame, given their place and bytes. -/
def settled (c : Frame) (start : Nat) (bs : List UInt8) : Option Draft :=
  c.settleAll c.form.operands (c.opening start (bs.take c.displacementSize))
    (start + c.displacementSize) (bs.drop c.displacementSize)

end Frame

namespace Reader

variable {c : Frame} {s t : ReadState}

theorem takes_displacement (c : Frame) {size : Nat} (h : size ≤ 8) :
    (displacement c.prefixes c.form size c.width).Takes size fun start bs =>
      some (c.displacement size bs, Span.starting start size) := by
  rw [displacement]
  split
  · rename_i hzero
    refine (takes_pure _).congr hzero.symm fun start bs _ => ?_
    rw [Frame.displacement, Span.starting, if_pos hzero, if_pos hzero]
  · rename_i hzero
    refine (takes_position.bind fun start => (takes_number h).map fun raw => _).congr
      (Nat.zero_add size) fun start bs _ => ?_
    rw [Frame.displacement, Span.starting, if_neg hzero, if_neg hzero]
    simp only [Form.displacementUnit]
    by_cases hone : size = 1
    · simp [hone]
    · simp [hone]

theorem runOn_mark (relative : Bool) (s : ReadState) :
    (mark relative).runOn s = (.ok (), { s with relative := s.relative || relative }) := by
  cases relative with
  | true =>
    rw [Bool.or_true]
    rfl
  | false =>
    rw [Bool.or_false]
    rfl

theorem takes_address (c : Frame) {a : AddressPlan} (h : a.size ≤ 8) :
    (address c.prefixes c.form c.width a.base a.index a.scale a.size).Takes a.size fun start bs =>
      some ({ segment := c.prefixes.memorySegment (isStackBase a.base), base := a.base
              index := a.index, scale := a.scale, displacement := c.displacement a.size bs
              displacementSize := a.size }, Span.starting start a.size) :=
  (takes_displacement c h).map _

/-- Reading the displacement also sets the mark for a relative address. -/
theorem runOn_start_iff (hc : c.Regular) {draft : Draft} :
    (start c).runOn s = (.ok draft, t) ↔
      s.Room c.displacementSize ∧ draft = c.opening s.consumed (s.rest.take c.displacementSize) ∧
        t = { s.skip c.displacementSize with relative := s.relative || c.relative } := by
  cases haddress : c.address with
  | none =>
    simp only [start, Frame.displacementSize, Frame.opening, Frame.relative, haddress,
      Option.elim_none, ReadState.room_zero, ReadState.skip_zero, Bool.or_false, true_and,
      runOn_pure, Prod.mk.injEq, Except.ok.injEq]
    exact and_congr eq_comm eq_comm
  | some a =>
    have hsizes : ∀ size ∈ [0, 1, 2, 4], size ≤ 8 := by decide
    have htakes := takes_address c (hsizes _ (hc.address a haddress).size_mem)
    simp only [start, Frame.displacementSize, Frame.opening, Frame.relative, haddress,
      Option.elim_some, planned, bind_assoc, pure_bind]
    constructor
    · intro hrun
      obtain ⟨result, u, hread, hrest⟩ := exists_of_runOn_bind_ok hrun
      obtain ⟨hroom, hresult, rfl⟩ := (htakes.runOn_iff s result u).1 hread
      rw [runOn_bind_of_ok (runOn_mark _ _)] at hrest
      cases hresult
      cases hrest
      exact ⟨hroom, rfl, rfl⟩
    · rintro ⟨hroom, rfl, rfl⟩
      rw [runOn_bind_of_ok ((htakes.runOn_iff s _ _).2 ⟨hroom, rfl, rfl⟩),
        runOn_bind_of_ok (runOn_mark _ _)]
      rfl

/-! ### Instructions -/

/-- Reading the constants of an instruction. -/
theorem exists_runOn_constants_iff (hc : c.Regular) {body : Body} :
    (∃ t, (constants c).runOn s = (.ok body, t)) ↔
      s.Room c.size ∧ ∃ draft, c.settled s.consumed (s.rest.take c.size) = some draft ∧
        body = ⟨c.form, c.prefixes, c.isMemory, draft, s.relative || c.relative,
          s.consumed + c.size⟩ := by
  -- The bytes of the displacement come first, and those of the operands after them.
  have htake : (s.rest.take c.size).take c.displacementSize = s.rest.take c.displacementSize := by
    rw [List.take_take, Frame.size, Nat.min_eq_left (Nat.le_add_right _ _)]
  have hdrop : (s.rest.take c.size).drop c.displacementSize =
      (s.skip c.displacementSize).rest.take (bytesRead c.width c.form.operands) := by
    rw [List.drop_take, Frame.size, Nat.add_sub_cancel_left]
    rfl
  have hsize : s.consumed + c.size =
      s.consumed + c.displacementSize + bytesRead c.width c.form.operands :=
    (Nat.add_assoc _ _ _).symm
  rw [Frame.settled, htake, hdrop, hsize, Frame.size, ReadState.room_add_iff]
  constructor
  · rintro ⟨t, hrun⟩
    obtain ⟨first, u, hstart, hrest⟩ := exists_of_runOn_bind_ok hrun
    obtain ⟨draft, v, hoperands, hend⟩ := exists_of_runOn_bind_ok hrest
    obtain ⟨hroom, rfl, rfl⟩ := (runOn_start_iff hc).1 hstart
    obtain ⟨hroom', hdraft, rfl⟩ := ((takes_operands c _ _).runOn_iff _ _ _).1 hoperands
    cases hend
    exact ⟨⟨hroom, hroom'⟩, draft, hdraft, rfl⟩
  · rintro ⟨⟨hroom, hroom'⟩, draft, hdraft, rfl⟩
    have hstart := (runOn_start_iff hc).2 ⟨hroom, rfl, rfl⟩
    -- The mark makes no difference to what the operands can read.
    have hoperands := ((takes_operands c _ _).runOn_iff
      { s.skip c.displacementSize with relative := s.relative || c.relative } _ _).2
      ⟨hroom', hdraft, rfl⟩
    exact ⟨_, (runOn_bind_of_ok hstart).trans ((runOn_bind_of_ok hoperands).trans rfl)⟩

end Reader

/-- The instruction that a frame becomes at its place, with the given number of bytes before its
constants, and the given operands and memory. -/
def Frame.instruction (c : Frame) (ip : UInt64) (start : Nat) (draft : Draft) : Instruction :=
  Body.place ⟨c.form, c.prefixes, c.isMemory, draft, c.relative, start + c.size⟩ c.mode ip

/-- An instruction consists of a frame and of constants, for which there has to be room. What they
are is a function of their place and their bytes. -/
theorem decode_eq_ok_iff {mode : Mode} {data : List UInt8} {ip : UInt64} {inst : Instruction} :
    (decode mode data ip).outcome = .ok inst ↔
      ∃ c t, (Reader.frame mode).runOn { rest := data } = (.ok c, t) ∧ t.Room c.size ∧
        ∃ draft, c.settled t.consumed (t.rest.take c.size) = some draft ∧
          inst = c.instruction ip t.consumed draft := by
  rw [decode, decodeFrom_eq_ok_iff]
  simp only [Reader.body_eq_frame_bind]
  constructor
  · rintro ⟨body, t, hrun, rfl⟩
    obtain ⟨c, u, hframe, hconstants⟩ := Reader.exists_of_runOn_bind_ok hrun
    obtain ⟨hregular, rfl, hrelative⟩ := Reader.regular_of_runOn_frame hframe
    obtain ⟨hroom, draft, hdraft, rfl⟩ :=
      (Reader.exists_runOn_constants_iff hregular).1 ⟨t, hconstants⟩
    refine ⟨c, u, hframe, hroom, draft, hdraft, ?_⟩
    rw [hrelative]
    rfl
  · rintro ⟨c, u, hframe, hroom, draft, hdraft, rfl⟩
    obtain ⟨hregular, rfl, hrelative⟩ := Reader.regular_of_runOn_frame hframe
    obtain ⟨t, ht⟩ := (Reader.exists_runOn_constants_iff hregular).2 ⟨hroom, draft, hdraft, rfl⟩
    refine ⟨_, t, by rw [Reader.runOn_bind_of_ok hframe, ht], ?_⟩
    rw [hrelative]
    rfl

end X86Decoder
