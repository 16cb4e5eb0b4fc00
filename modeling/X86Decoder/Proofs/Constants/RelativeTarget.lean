import X86Decoder.Proofs.Constants.Value

/-!
# Relative targets

The targets of near branches and the addresses relative to the instruction pointer are measured from
the end of the instruction, whatever constants come after the one that holds the distance.

* `Frame.immediate_of_nearBranch`: the distance of a near branch is the first immediate.
* `Frame.displacement_of_isPointer`: the distance of an address is the displacement.
* `decode_relative_targets`: the targets of a decoded instruction.
-/

namespace X86Decoder

/-- The next instruction pointer is cut to the width of the mode. -/
theorem Body.toNat_nextIp (mode : Mode) (ip : UInt64) (length : Nat) :
    (nextIp mode ip length).toNat = (ip.toNat + length) % Nat.pow 2 mode.bits := by
  have hdvd : Nat.pow 2 mode.bits ∣ 2 ^ 64 := Nat.pow_dvd_pow 2 mode.bits_le
  have hlength : length.toUInt64.toNat = length % 2 ^ 64 := rfl
  rw [nextIp, Word.toNat_truncate mode.bits_le, UInt64.toNat_add, hlength,
    Nat.mod_mod_of_dvd _ hdvd, Nat.add_mod, Nat.mod_mod_of_dvd _ hdvd, ← Nat.add_mod]

namespace Frame

variable {c : Frame} {draft : Draft} {start : Nat} {bs : List UInt8}

/-- The distance of a near branch is the first immediate, which ends where the instruction ends. -/
theorem immediate_of_nearBranch (hc : c.Regular) (hlength : bs.length = c.size)
    (h : c.settled start bs = some draft) {v : Operand} (hv : v ∈ draft.operands)
    (hkind : v.kind.isNearBranch) (next : UInt64) :
    ∃ size, size ≠ 0 ∧ c.size = c.displacementSize + size ∧
      draft.constants.first = .starting (start + c.displacementSize) size ∧
      ((Body.placeOperand next v).immediate.toNat : Int) =
        v.kind.encoded next ((bs.drop c.displacementSize).take size) := by
  obtain ⟨i, hi, rfl⟩ := List.mem_iff_getElem.1 hv
  obtain ⟨os, o, os', heq, -, hvalue⟩ := exists_value_of_settled h (List.getElem?_eq_getElem hi)
  obtain ⟨offset, target, hspec⟩ := (kind_of_value hvalue).2 hkind
  have ho : o.spec.isConstant := by
    rw [hspec]
    rfl
  have hmoffs : o.spec.isMoffs = false := by
    rw [hspec]
    rfl
  -- A near branch is the only operand with constants, so the instruction ends with it.
  obtain ⟨hos, hos'⟩ := Table.freeOfConstants_of_split hc.mem_forms heq ho (by rw [hspec]; rfl)
  have hconstants := (tiling_of_one heq hos hos' ho hmoffs h).1
  have hsize := size_of_one heq hos hos'
  simp only [hspec, OperandSpec.bytesRead, OperandSpec.size] at hsize
  rw [hos.bytesRead_eq, List.drop_zero, hspec] at hvalue
  refine ⟨offset.bytes, offset.bytes_ne_zero, hsize, ?_, ?_⟩
  · rw [hconstants, hspec]
    rfl
  · refine (immediate_place_relative next ?_ hvalue).2
    rw [List.length_take, List.length_drop, hlength, hsize, Nat.add_sub_cancel_left]
    exact Nat.min_self _

/-- The distance of an address relative to the instruction pointer is the displacement. -/
theorem displacement_of_isPointer (hc : c.Regular) (hlength : bs.length = c.size)
    (h : c.settled start bs = some draft) (hbase : draft.memory.base.isPointer) (next : UInt64) :
    c.relative = true ∧ c.displacementSize = 4 ∧ draft.constants.displacement = .starting start 4 ∧
      ((Body.placeMemory true next draft.memory).displacement.toNat : Int) =
        (next.toNat + Word.twosComplement (bs.take 4)) %
          (Nat.pow 2 (Body.pointerBits draft.memory.base) : Nat) := by
  have hregisters := (registers_of_settled h).1
  cases haddress : c.address with
  | none =>
    rw [hregisters, haddress] at hbase
    cases hbase
  | some a =>
    have ha := hc.address a haddress
    have hrelative : a.relative := by
      rw [ha.relative_eq]
      rwa [hregisters, haddress] at hbase
    have hsize := ha.size_of_relative hrelative
    have hfour : c.displacementSize = 4 := by
      rw [displacementSize, haddress, Option.elim_some, hsize]
    obtain ⟨hmemory, hconstants⟩ := memory_of_settled hc h haddress
    refine ⟨?_, hfour, ?_, ?_⟩
    · rw [relative, haddress, Option.elim_some, hrelative]
    · rw [hconstants, hsize]
    · refine displacement_place next (ha.width_of_relative hrelative) ?_ ?_
      · rw [List.length_take, hlength, size, hfour]
        omega
      · have hdisplacement := congrArg MemoryReference.displacement hmemory
        rw [hfour] at hdisplacement
        simpa only [MemoryReference.unsegmented, opening, haddress, hsize] using hdisplacement

end Frame

/-- Relative targets are measured from the end of the instruction. The next instruction pointer is
the place of the instruction plus its length, cut to the width of the mode; and the target of a near
branch, and the address relative to an instruction pointer, are at a distance from there that the
first immediate and the displacement hold with their sign. -/
theorem decode_relative_targets {mode : Mode} {data : List UInt8} {ip : UInt64} {inst : Instruction}
    (h : (decode mode data ip).outcome = .ok inst) :
    inst.ip = ip ∧ inst.nextIp.toNat = (ip.toNat + inst.length) % Nat.pow 2 mode.bits ∧
    (∀ o ∈ inst.operands, ∀ width, o.kind = .nearBranch width →
      inst.constants.first.size ≠ 0 ∧
      (inst.constants.first.cut data).length = inst.constants.first.size ∧
      (o.immediate.toNat : Int) =
        (inst.nextIp.toNat + Word.twosComplement (inst.constants.first.cut data)) %
          (Nat.pow 2 width.bits : Nat)) ∧
    (inst.memory.base.isPointer →
      inst.constants.displacement.size = 4 ∧
      (inst.constants.displacement.cut data).length = 4 ∧
      (inst.memory.displacement.toNat : Int) =
        (inst.nextIp.toNat + Word.twosComplement (inst.constants.displacement.cut data)) %
          (Nat.pow 2 (if inst.memory.base = .eip then 32 else 64) : Nat)) := by
  obtain ⟨c, t, hframe, hroom, draft, hdraft, rfl⟩ := decode_eq_ok_iff.1 h
  obtain ⟨hregular, rfl, -⟩ := Reader.regular_of_runOn_frame hframe
  rw [Reader.rest_of_runOn_frame hframe] at hdraft
  have hlength := Reader.length_constants hframe hroom rfl
  refine ⟨rfl, Body.toNat_nextIp _ _ _, ?_, ?_⟩
  · -- Near branches
    intro o ho width hkind
    obtain ⟨v, hv, rfl⟩ := List.mem_map.1 ho
    rw [Body.kind_placeOperand] at hkind
    have hbranch : v.kind.isNearBranch := by
      rw [hkind]
      cases width <;> rfl
    obtain ⟨size, hsize, htotal, hfirst, htarget⟩ := Frame.immediate_of_nearBranch hregular hlength
      hdraft hv hbranch (c.instruction ip t.consumed draft).nextIp
    have hspan : (c.instruction ip t.consumed draft).constants.first =
        .starting (t.consumed + c.displacementSize) size := hfirst
    have hcut := @Span.cut_starting data t.consumed _ size c.size (Nat.le_of_eq htotal.symm)
    rw [hspan, Span.size_starting, hcut]
    refine ⟨hsize, ?_, ?_⟩
    · rw [List.length_take, List.length_drop, hlength]
      omega
    · rw [← OpKind.encoded_nearBranch, ← hkind]
      exact htarget
  · -- Addresses
    intro hpointer
    have hbase : (c.instruction ip t.consumed draft).memory.base = draft.memory.base :=
      Body.base_placeMemory ..
    rw [hbase] at hpointer ⊢
    obtain ⟨hrelative, hfour, hdisplacement, htarget⟩ := Frame.displacement_of_isPointer hregular
      hlength hdraft hpointer (c.instruction ip t.consumed draft).nextIp
    have hspan : (c.instruction ip t.consumed draft).constants.displacement =
        .starting (t.consumed + 0) 4 := hdisplacement
    have hle : 0 + 4 ≤ c.size := by
      rw [Frame.size, hfour]
      omega
    rw [hspan, Span.size_starting, Span.cut_starting hle, List.drop_zero]
    refine ⟨rfl, ?_, ?_⟩
    · rw [List.length_take, hlength]
      omega
    · rw [← hrelative] at htarget
      exact htarget

/-- The call goes back over the end of the 16 bits, and the address of the multiplication is
measured from behind the immediate. -/
theorem decode_relative_targets_imul_call :
    (decode .bits16 [0xe8, 0xfd, 0xff] 0xfffe).outcome = .ok call ∧
      (0xfffe : Int) = (1 + Word.twosComplement [0xfd, 0xff]) % (Nat.pow 2 16 : Nat) ∧
      (decode .bits64 [0x4c, 0x69, 0x05, 0x78, 0x56, 0x34, 0x12, 0xf0, 0xff, 0xff, 0xff]
        0x1000).outcome = .ok imul ∧
      (0x12346683 : Int) =
        (0x100b + Word.twosComplement [0x78, 0x56, 0x34, 0x12]) % (Nat.pow 2 64 : Nat) :=
  have hcall := decode_relative_targets decode_imul_call.2
  have himul := decode_relative_targets decode_imul_call.1
  ⟨decode_imul_call.2, (hcall.2.2.1 _ List.mem_cons_self .w16 rfl).2.2, decode_imul_call.1,
    (himul.2.2.2 rfl).2.2⟩

end X86Decoder
