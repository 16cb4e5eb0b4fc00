import X86Decoder.Proofs.Delay.Reader

/-!
# Instructions with one byte more

An instruction that is decoded with one byte more in front of its opcode is the same instruction,
one byte longer. Its constants stand one byte later, and what counts from the next instruction moves
with it.

* `Instruction.lengthened`: the instruction with one byte more before its constants.
* `decodeFrom_eq_ok_iff_of_trails`: what decoding one byte later yields.
* `decodeFrom_later_of_full`: there is no room for one byte more.
* `decode_run`: decoding behind a run of prefixes.
-/

namespace X86Decoder

/-- What is cut twice is cut once. -/
theorem Word.truncate_truncate_add {bits : Nat} (h : bits ≤ 64) (a b : UInt64) :
    truncate bits (truncate bits a + b) = truncate bits (a + b) := by
  have hdvd : Nat.pow 2 bits ∣ 2 ^ 64 := Nat.pow_dvd_pow 2 h
  rw [← UInt64.toNat_inj, toNat_truncate h, toNat_truncate h, UInt64.toNat_add, UInt64.toNat_add,
    toNat_truncate h, Nat.mod_mod_of_dvd _ hdvd, Nat.mod_mod_of_dvd _ hdvd, Nat.mod_add_mod]

/-- The operand with the target of a near branch moved, as far as the width of the branch goes. -/
def Operand.moved (o : Operand) (shift : UInt64) : Operand :=
  if o.kind = .nearBranch16 then { o with immediate := Word.truncate 16 (o.immediate + shift) }
  else if o.kind = .nearBranch32 then { o with immediate := Word.truncate 32 (o.immediate + shift) }
  else if o.kind = .nearBranch64 then { o with immediate := o.immediate + shift }
  else o

/-- The memory with the target of a relative address moved, as far as the address size goes. -/
def MemoryReference.moved (memory : MemoryReference) (shift : UInt64) : MemoryReference :=
  if memory.base = .eip then
    { memory with displacement := Word.truncate 32 (memory.displacement + shift) }
  else if memory.base = .rip then { memory with displacement := memory.displacement + shift }
  else memory

/-- The instruction with one byte more before its constants. The next instruction is one byte
further, and the targets of near branches and of relative addresses move by as much as it does. All
else is the same. -/
def Instruction.lengthened (inst : Instruction) (mode : Mode) : Instruction :=
  let next := Word.truncate mode.bits (inst.ip + (inst.length + 1).toUInt64)
  let shift := next - inst.nextIp
  { inst with
    nextIp := next
    length := inst.length + 1
    operands := inst.operands.map fun o => o.moved shift
    memory := inst.memory.moved shift
    constants := inst.constants.later }

namespace Body

/-- A near branch that is placed and then moved is placed further on. -/
theorem moved_placeOperand (next shift : UInt64) (o : Operand) :
    (placeOperand next o).moved shift = placeOperand (next + shift) o := by
  obtain ⟨kind, register, immediate⟩ := o
  have hsum : next + immediate + shift = next + shift + immediate := by
    rw [UInt64.add_assoc, UInt64.add_comm immediate, UInt64.add_assoc]
  cases kind with
  | nearBranch16 => simp [placeOperand, Operand.moved, Word.truncate_truncate_add, hsum]
  | nearBranch32 => simp [placeOperand, Operand.moved, Word.truncate_truncate_add, hsum]
  | nearBranch64 => simp [placeOperand, Operand.moved, hsum]
  | _ => rfl

/-- The target of a relative address that is placed and then moved is placed further on. -/
theorem moved_placeMemory (next shift : UInt64) (memory : MemoryReference) (size : MemorySize) :
    { placeMemory memory.base.isPointer next memory with size := size }.moved shift =
      { placeMemory memory.base.isPointer (next + shift) memory with size := size } := by
  have hsum : ∀ offset : UInt64, next + offset + shift = next + shift + offset := by
    intro offset
    rw [UInt64.add_assoc, UInt64.add_comm offset, UInt64.add_assoc]
  have hne : Register.rip ≠ .eip := by decide
  by_cases heip : memory.base = .eip
  · simp [placeMemory, MemoryReference.moved, Register.isPointer, heip,
      Word.truncate_truncate_add, hsum]
  by_cases hrip : memory.base = .rip
  · simp [placeMemory, MemoryReference.moved, Register.isPointer, hrip, hne, hsum]
  · simp [placeMemory, MemoryReference.moved, Register.isPointer, heip, hrip]

/-- A body with everything one byte later is one byte longer at its place. -/
theorem place_later {body : Body} (hrelative : body.relative = body.draft.memory.base.isPointer)
    (mode : Mode) (ip : UInt64) :
    body.later.place mode ip = (body.place mode ip).lengthened mode := by
  let next := nextIp mode ip body.length
  let further := nextIp mode ip (body.length + 1)
  have hnext : next + (further - next) = further := by
    rw [UInt64.add_comm, UInt64.sub_add_cancel]
  have hoperands : body.draft.operands.map (placeOperand further) =
      (body.draft.operands.map (placeOperand next)).map fun o => o.moved (further - next) := by
    rw [List.map_map]
    refine List.map_congr_left fun o _ => ?_
    rw [Function.comp_apply, moved_placeOperand, hnext]
  have hmemory :
      { placeMemory body.relative further body.draft.memory with size := body.memorySize } =
        { placeMemory body.relative next body.draft.memory with
          size := body.memorySize }.moved (further - next) := by
    rw [hrelative, moved_placeMemory, hnext]
  have hlengthened : (body.place mode ip).lengthened mode =
      { body.place mode ip with
        nextIp := further
        length := body.length + 1
        operands := (body.draft.operands.map (placeOperand next)).map fun o =>
          o.moved (further - next)
        memory := { placeMemory body.relative next body.draft.memory with
          size := body.memorySize }.moved (further - next)
        constants := (body.place mode ip).constants.later } := rfl
  rw [hlengthened, ← hoperands, ← hmemory]
  rfl

end Body

/-! ### Decoding one byte later -/

section Later

variable {mode : Mode} {s s' : ReadState} {ip : UInt64} {inst : Instruction}

/-- Where reading goes with a first run, what can be decoded is what the first run yields if it
leaves room for a byte. -/
theorem decodeFrom_eq_ok_iff_of_trails
    (htrails : Reader.Trails Body.later ((Reader.body mode).runOn s) ((Reader.body mode).runOn s'))
    (hrelative : s.relative = false) :
    (decodeFrom mode s' ip).outcome = .ok inst ↔
      ∃ shorter, (decodeFrom mode s ip).outcome = .ok shorter ∧ shorter.length < maxLength ∧
        inst = shorter.lengthened mode := by
  simp only [decodeFrom_eq_ok_iff]
  constructor
  · rintro ⟨body', u, hbody', rfl⟩
    rw [hbody'] at htrails
    generalize hrun : (Reader.body mode).runOn s = r at htrails
    cases htrails with
    | @ok body t ht =>
      obtain ⟨hpointer, -⟩ := Reader.relative_of_runOn_body hrelative hrun
      refine ⟨_, ⟨body, t, rfl, rfl⟩, ?_, Body.place_later hpointer mode ip⟩
      exact Nat.lt_of_le_of_lt (Nat.le_of_eq (Reader.length_of_runOn_body hrun)) ht
  · rintro ⟨_, ⟨body, t, hrun, rfl⟩, hlength, rfl⟩
    obtain ⟨hpointer, -⟩ := Reader.relative_of_runOn_body hrelative hrun
    have hconsumed : body.length = t.consumed := Reader.length_of_runOn_body hrun
    rw [hrun] at htrails
    generalize (Reader.body mode).runOn s' = r at htrails
    cases htrails with
    | ok ht => exact ⟨_, _, rfl, (Body.place_later hpointer mode ip).symm⟩
    | full ht hu => exact absurd (hconsumed.trans ht) (Nat.ne_of_lt hlength)

/-- An instruction of the greatest length is too long one byte later. -/
theorem decodeFrom_later_of_full (hs : s.consumed < maxLength)
    (h : (decodeFrom mode s ip).outcome = .ok inst) (hlength : inst.length = maxLength) :
    (decodeFrom mode s.later ip).outcome = .error ⟨maxLength, .tooLong⟩ := by
  have htrails := (Reader.delays_body mode).delaysAt s hs
  obtain ⟨body, t, hrun, rfl⟩ := decodeFrom_eq_ok_iff.1 h
  have hconsumed : body.length = t.consumed := Reader.length_of_runOn_body hrun
  rw [hrun] at htrails
  rw [decodeFrom_eq_error_iff]
  generalize (Reader.body mode).runOn s.later = r at htrails
  cases htrails with
  | ok ht => exact absurd (hconsumed.symm.trans hlength) (Nat.ne_of_lt ht)
  | full ht hu => exact ⟨_, rfl, hu.symm⟩

end Later

/-! ### Behind a run of prefixes -/

/-- Decoding goes on behind a run of prefixes with what the run says. -/
theorem decode_run {mode : Mode} {run : List UInt8} (hrun : run.all (isPrefixByte mode))
    (hlength : run.length ≤ maxLength) (rest : List UInt8) (ip : UInt64) :
    decode mode (run ++ rest) ip =
      decodeFrom mode
        { rest := rest, consumed := run.length, prefixes := PrefixState.ofRun mode run } ip := by
  have hscan := Reader.scanPrefixes_run (s := { rest := run ++ rest }) hrun [] rest
    (PrefixState.ofRun_nil mode).symm (by simpa using hlength)
  have hprefixes : (Reader.legacyPrefixes mode).runOn { rest := run ++ rest } =
      (Reader.legacyPrefixes mode).runOn
        { rest := rest, consumed := run.length, prefixes := PrefixState.ofRun mode run } := by
    rw [Reader.runOn_legacyPrefixes, Reader.runOn_legacyPrefixes, hscan, List.nil_append,
      Nat.zero_add]
    exact Reader.scanPrefixes_with_rest mode rest (run ++ rest)
      { rest := rest, consumed := run.length, prefixes := PrefixState.ofRun mode run }
  have hbody : (Reader.body mode).runOn { rest := run ++ rest } =
      (Reader.body mode).runOn
        { rest := rest, consumed := run.length, prefixes := PrefixState.ofRun mode run } := by
    simp only [Reader.body, Reader.selector, Reader.opcode, bind_assoc]
    rw [Reader.runOn_bind, Reader.runOn_bind, hprefixes]
  rw [decode, decodeFrom, decodeFrom, hbody]

/-- No instruction has so many prefixes. -/
theorem decode_run_of_le {mode : Mode} {run : List UInt8} (hrun : run.all (isPrefixByte mode))
    (hlength : maxLength ≤ run.length) (rest : List UInt8) (ip : UInt64) :
    (decode mode (run ++ rest) ip).outcome = .error ⟨maxLength, .tooLong⟩ := by
  have htake : (run.take maxLength).all (isPrefixByte mode) :=
    List.all_eq_true.2 fun b hb => List.all_eq_true.1 hrun b (List.mem_of_mem_take hb)
  have hfull : (run.take maxLength).length = maxLength := List.length_take_of_le hlength
  -- The first bytes of the run leave no room for a byte that ends it.
  have hstop : ∀ s : ReadState, s.consumed = maxLength →
      (Reader.body mode).runOn s = (.error .tooLong, s) := by
    intro s hs
    simp only [Reader.body, Reader.selector, Reader.opcode, bind_assoc]
    exact Reader.runOn_bind_of_error
      (Reader.scanPrefixes_of_maxLength_le mode _ (Nat.le_of_eq hs.symm))
  rw [← List.take_append_drop maxLength run, List.append_assoc,
    decode_run htake (Nat.le_of_eq hfull), decodeFrom_eq_error_iff]
  exact ⟨_, hstop _ hfull, hfull.symm⟩

end X86Decoder
