import X86Decoder.Proofs.Decode
import X86Decoder.Proofs.SelfDelimiting.Opcode

/-!
# Instructions are self-delimiting

Where an instruction ends is determined by its own bytes. More data behind it change nothing, and
without its last bytes the data run out.

* `Reader.selfDelimiting_body`: the reader of an instruction is self-delimiting.
* `decode_selfDelimiting`: what this means for decoding.
-/

namespace X86Decoder

namespace Reader

/-! ### Memory and operands -/

theorem selfDelimiting_form (p : PrefixState) (mode : Mode) (op : UInt8) (m : ModRM) :
    (form p mode op m).SelfDelimiting := by
  refine (selfDelimiting_request _).bind fun found => ?_
  cases found with
  | ok f => exact selfDelimiting_pure f
  | error failure =>
    dsimp only
    split
    · exact selfDelimiting_refuseModRM _
    · exact selfDelimiting_throw (by simp) (by simp)

theorem selfDelimiting_displacement (p : PrefixState) (f : Form) (size : Nat)
    (address : WordSize) : (displacement p f size address).SelfDelimiting := by
  rw [displacement]
  split
  · exact selfDelimiting_pure _
  · exact selfDelimiting_position.bind fun _ => (selfDelimiting_number size).bind fun _ =>
      selfDelimiting_pure _

theorem selfDelimiting_address (p : PrefixState) (f : Form) (width : WordSize)
    (base index : Register) (scale : Int) (size : Nat) :
    (address p f width base index scale size).SelfDelimiting :=
  (selfDelimiting_displacement p f size width).bind fun _ => selfDelimiting_pure _

theorem selfDelimiting_memory16 (p : PrefixState) (f : Form) (m : ModRM) :
    (memory16 p f m).SelfDelimiting := by
  refine (selfDelimiting_request _).bind fun (base, index) => ?_
  dsimp only
  split
  · split <;> exact selfDelimiting_address ..
  · split <;> exact selfDelimiting_address ..

theorem selfDelimiting_memorySib (p : PrefixState) (f : Form) (m : ModRM) (width : WordSize) :
    (memorySib p f m width).SelfDelimiting := by
  refine (selfDelimiting_byte.map _).bind fun s => (selfDelimiting_request _).bind fun index => ?_
  split
  · exact selfDelimiting_address ..
  · exact (selfDelimiting_request _).bind fun base => selfDelimiting_address ..

theorem selfDelimiting_memoryRelative (p : PrefixState) (f : Form) (width : WordSize) :
    (memoryRelative p f width).SelfDelimiting :=
  (selfDelimiting_address ..).bind fun _ => (selfDelimiting_setRelative true).bind fun _ =>
    selfDelimiting_pure _

theorem selfDelimiting_memory32 (p : PrefixState) (mode : Mode) (f : Form) (m : ModRM)
    (width : WordSize) : (memory32 p mode f m width).SelfDelimiting := by
  rw [memory32]
  split
  · exact selfDelimiting_memorySib ..
  · split
    · exact selfDelimiting_refuseModRM _
    · split
      · split
        · exact selfDelimiting_memoryRelative ..
        · exact selfDelimiting_address ..
      · exact (selfDelimiting_request _).bind fun base => selfDelimiting_address ..

theorem selfDelimiting_memory (p : PrefixState) (mode : Mode) (f : Form) (m : ModRM) :
    (memory p mode f m).SelfDelimiting := by
  rw [memory]
  split
  · split
    · exact selfDelimiting_refuseModRM _
    · exact selfDelimiting_memory16 ..
  · exact selfDelimiting_memory32 ..
  · exact selfDelimiting_memory32 ..

theorem selfDelimiting_draft (p : PrefixState) (mode : Mode) (f : Form) (m : ModRM)
    (isMemory : Bool) : (draft p mode f m isMemory).SelfDelimiting := by
  cases isMemory with
  | true => exact (selfDelimiting_memory p mode f m).bind fun _ => selfDelimiting_pure _
  | false => exact selfDelimiting_pure _

theorem selfDelimiting_register (p : PrefixState) (spec : OperandSpec) (n : Nat) :
    (register p spec n).SelfDelimiting := by
  rw [register]
  split
  · exact selfDelimiting_request _
  · refine (selfDelimiting_request _).bind fun r => ?_
    split
    · exact selfDelimiting_refuseModRM _
    · exact selfDelimiting_pure r

theorem selfDelimiting_regRegister (p : PrefixState) (spec : OperandSpec) (m : ModRM) :
    (regRegister p spec m).SelfDelimiting := by
  rw [regRegister]
  split
  case h_4 =>
    split
    · exact selfDelimiting_refuseModRM _
    · exact selfDelimiting_register ..
  all_goals exact selfDelimiting_register ..

theorem selfDelimiting_rmRegister (p : PrefixState) (spec : OperandSpec) (m : ModRM) :
    (rmRegister p spec m).SelfDelimiting := by
  rw [rmRegister]
  split <;> exact selfDelimiting_register ..

theorem selfDelimiting_vvvvRegister (p : PrefixState) (spec : OperandSpec) :
    (vvvvRegister p spec).SelfDelimiting := by
  rw [vvvvRegister]
  split
  · exact selfDelimiting_refusePrefixes _
  · exact selfDelimiting_register ..

theorem selfDelimiting_immediate (draft : Draft) (size : Nat) :
    (immediate draft size).SelfDelimiting :=
  selfDelimiting_position.bind fun _ => (selfDelimiting_number size).bind fun _ =>
    selfDelimiting_pure _

theorem selfDelimiting_memoryOffset (p : PrefixState) (mode : Mode) (draft : Draft) :
    (memoryOffset p mode draft).SelfDelimiting :=
  selfDelimiting_position.bind fun _ => (selfDelimiting_number _).bind fun _ =>
    selfDelimiting_pure _

theorem selfDelimiting_operand (p : PrefixState) (mode : Mode) (m : ModRM) (isMemory : Bool)
    (draft : Draft) (spec : OperandSpec) :
    (operand p mode m isMemory draft spec).SelfDelimiting := by
  cases spec with
  | reg cls => exact (selfDelimiting_regRegister ..).bind fun _ => selfDelimiting_pure _
  | rm _ | rmRegister _ | rmMemory =>
    cases isMemory with
    | true => exact selfDelimiting_pure _
    | false => exact (selfDelimiting_rmRegister ..).bind fun _ => selfDelimiting_pure _
  | vvvv cls => exact (selfDelimiting_vvvvRegister ..).bind fun _ => selfDelimiting_pure _
  | is4 cls =>
    exact (selfDelimiting_immediate draft 1).bind fun _ =>
      (selfDelimiting_register ..).bind fun _ => selfDelimiting_pure _
  | immediate value => exact (selfDelimiting_immediate ..).bind fun _ => selfDelimiting_pure _
  | relative offset target =>
    exact (selfDelimiting_immediate ..).bind fun _ => selfDelimiting_pure _
  | far wide =>
    exact (selfDelimiting_immediate ..).bind fun _ =>
      (selfDelimiting_immediate ..).bind fun _ => selfDelimiting_pure _
  | moffs element => exact selfDelimiting_memoryOffset ..
  | vsib index element =>
    rw [operand]
    split
    · exact selfDelimiting_refuseModRM _
    · exact selfDelimiting_pure _
  | implicit _ | one | stringSource _ | stringDestination _ | maskDestination =>
    exact selfDelimiting_pure _

theorem selfDelimiting_operands (p : PrefixState) (mode : Mode) (m : ModRM) (isMemory : Bool)
    (os : List FormOperand) (draft : Draft) :
    (operands p mode m isMemory os draft).SelfDelimiting := by
  induction os generalizing draft with
  | nil => exact selfDelimiting_pure draft
  | cons o os ih =>
    rw [operands]
    split
    · exact selfDelimiting_misuse _
    · exact (selfDelimiting_operand ..).bind fun draft => ih draft

theorem selfDelimiting_formBody (p : PrefixState) (mode : Mode) (m : ModRM) (f : Form) :
    (formBody p mode m f).SelfDelimiting :=
  (selfDelimiting_checkPrefixes _).bind fun _ => (selfDelimiting_draft ..).bind fun _ =>
    (selfDelimiting_operands ..).bind fun _ => selfDelimiting_isRelative.bind fun _ =>
      selfDelimiting_position.bind fun _ => selfDelimiting_pure _

theorem selfDelimiting_body (mode : Mode) : (body mode).SelfDelimiting :=
  (selfDelimiting_selector mode).bind fun (p, op, m) =>
    (selfDelimiting_form p mode op m).bind fun f => selfDelimiting_formBody p mode m f

end Reader

/-! ### Decoding -/

section Decode

variable {mode : Mode} {ip : UInt64} {r : List UInt8} {inst : Instruction}

/-- An instruction takes its bytes from the front of the data, and there is a limit to them. -/
theorem exists_taken_of_decodeFrom {s : ReadState} (h : (decodeFrom mode s ip).outcome = .ok inst)
    (hconsumed : s.consumed = 0) :
    ∃ taken, inst.length = taken.length ∧ taken.length ≤ maxLength ∧
      ∃ body t, (Reader.body mode).runOn s = (.ok body, t) ∧ inst = body.place mode ip ∧
        s.rest = taken ++ t.rest := by
  obtain ⟨body, t, hbody, rfl⟩ := decodeFrom_eq_ok_iff.1 h
  have hreaches := (Reader.selfDelimiting_body mode).counts s
  rw [hbody] at hreaches
  obtain ⟨taken, hrest, hlength, hmax⟩ := hreaches
  rw [hconsumed, Nat.zero_add] at hlength
  refine ⟨taken, ?_, ?_, body, t, hbody, rfl, hrest⟩
  · exact (Reader.length_of_runOn_body hbody).trans hlength
  · rw [← hlength]
    exact hmax (by rw [hconsumed]; exact Nat.zero_le _)

/-- Where data run out, they were all read. -/
theorem decode_eq_truncated
    (h : ((Reader.body mode).runOn { rest := r }).1 = .error .truncated) :
    (decode mode r ip).outcome = .error ⟨r.length, .truncated⟩ := by
  have hbody := Reader.selfDelimiting_body mode
  obtain ⟨hrest, -⟩ := (hbody.delimitsAt _).exhausted h
  have hcount := (hbody.counts { rest := r }).consumed_add_length
  rw [hrest, List.length_nil, Nat.add_zero, Nat.zero_add] at hcount
  exact decodeFrom_eq_error_iff.2 ⟨_, Prod.ext h rfl, hcount.symm⟩

/-- More data change the outcome only where the data ran out. -/
theorem outcome_decode_append
    (h : ∀ e, (decode mode r ip).outcome = .error e → e.fault ≠ .truncated) (s : List UInt8) :
    (decode mode (r ++ s) ip).outcome = (decode mode r ip).outcome := by
  have htruncated : ((Reader.body mode).runOn { rest := r }).1 ≠ .error .truncated := by
    intro htruncated
    exact h _ (decode_eq_truncated htruncated) rfl
  have hrun := ((Reader.selfDelimiting_body mode).delimitsAt _).runOn_append s htruncated
  change (decodeFrom mode (ReadState.append { rest := r } s) ip).outcome =
    (decodeFrom mode { rest := r } ip).outcome
  rw [decodeFrom, decodeFrom, hrun]
  rcases (Reader.body mode).runOn { rest := r } with ⟨fault | body, t⟩ <;> rfl

theorem outcome_decode_append_of_ok {inst : Instruction}
    (h : (decode mode r ip).outcome = .ok inst) (s : List UInt8) :
    (decode mode (r ++ s) ip).outcome = .ok inst := by
  rw [← h]
  refine outcome_decode_append (fun e he => ?_) s
  rw [h] at he
  cases he

/-- The bytes of an instruction are enough to decode it. -/
theorem outcome_decode_take (h : (decode mode r ip).outcome = .ok inst) :
    (decode mode (r.take inst.length) ip).outcome = .ok inst := by
  obtain ⟨taken, hlength, -, body, t, hbody, hinst, hrest⟩ := exists_taken_of_decodeFrom h rfl
  obtain rfl : r = taken ++ t.rest := hrest
  obtain ⟨u, hu⟩ := ((Reader.selfDelimiting_body mode).delimitsAt { rest := taken }).runOn_of_append
    hbody (Nat.le_refl _)
  rw [hlength, List.take_left']
  · exact decodeFrom_eq_ok_iff.2 ⟨body, u, hu, hinst⟩
  · rfl

/-- Fewer bytes than those of the instruction are too few. -/
theorem outcome_decode_take_of_lt (h : (decode mode r ip).outcome = .ok inst) {k : Nat}
    (hk : k < inst.length) : (decode mode (r.take k) ip).outcome = .error ⟨k, .truncated⟩ := by
  obtain ⟨taken, hlength, -, body, t, hbody, -, hrest⟩ := exists_taken_of_decodeFrom h rfl
  obtain rfl : r = taken ++ t.rest := hrest
  have hle : k ≤ (taken ++ t.rest).length := by
    rw [List.length_append]
    omega
  have htruncated : ((Reader.body mode).runOn { rest := (taken ++ t.rest).take k }).1 =
      .error .truncated := by
    have happend : ReadState.append { rest := (taken ++ t.rest).take k }
        ((taken ++ t.rest).drop k) = { rest := taken ++ t.rest } := by
      rw [ReadState.append, List.take_append_drop]
    rw [← happend] at hbody
    refine ((Reader.selfDelimiting_body mode).delimitsAt _).truncated_of_append hbody ?_
    rw [List.length_drop, List.length_append]
    omega
  have hdecode : (decode mode ((taken ++ t.rest).take k) ip).outcome =
      .error ⟨((taken ++ t.rest).take k).length, .truncated⟩ := decode_eq_truncated htruncated
  rwa [List.length_take_of_le hle] at hdecode

/-- No bytes are no instruction. -/
theorem length_pos_of_decode (h : (decode mode r ip).outcome = .ok inst) : 1 ≤ inst.length := by
  rcases Nat.eq_zero_or_pos inst.length with hzero | hpos
  · have hdecode := outcome_decode_take h
    rw [hzero, List.take_zero, decode_eq_truncated rfl] at hdecode
    cases hdecode
  · exact hpos

theorem length_le_of_decode (h : (decode mode r ip).outcome = .ok inst) :
    inst.length ≤ min maxLength r.length := by
  obtain ⟨taken, hlength, hmax, body, t, -, -, hrest⟩ := exists_taken_of_decodeFrom h rfl
  obtain rfl : r = taken ++ t.rest := hrest
  rw [hlength, List.length_append]
  exact Nat.le_min.2 ⟨hmax, Nat.le_add_right _ _⟩

end Decode

/-- Instructions are self-delimiting. Unless the data run out, more data do not change the outcome.
An instruction has from one to fifteen bytes, all of them in the data; they alone decode to it, and
fewer of them are truncated where they end. So no instruction is the beginning of another. -/
theorem decode_selfDelimiting (mode : Mode) (ip : UInt64) (r s : List UInt8) :
    ((∀ e, (decode mode r ip).outcome = .error e → e.fault ≠ .truncated) →
      (decode mode (r ++ s) ip).outcome = (decode mode r ip).outcome) ∧
    ∀ inst, (decode mode r ip).outcome = .ok inst →
      1 ≤ inst.length ∧ inst.length ≤ min 15 r.length ∧
      (decode mode (r.take inst.length) ip).outcome = .ok inst ∧
      (∀ k, 1 ≤ k → k < inst.length →
        (decode mode (r.take k) ip).outcome = .error ⟨k, .truncated⟩) ∧
      (inst.length = r.length → ∀ longer, (decode mode (r ++ s) ip).outcome = .ok longer →
        longer.length = (r ++ s).length → s = []) := by
  refine ⟨fun h => outcome_decode_append h s, fun inst h => ?_⟩
  refine ⟨length_pos_of_decode h, length_le_of_decode h, outcome_decode_take h,
    fun k _ hk => outcome_decode_take_of_lt h hk, fun hlength longer hlonger hlength' => ?_⟩
  -- The longer data decode to the same instruction, whose bytes are all in the shorter ones.
  rw [outcome_decode_append_of_ok h s] at hlonger
  cases hlonger
  rw [List.length_append, hlength] at hlength'
  exact List.length_eq_zero_iff.1 (by omega)

/-- The code of the instruction that loads DS and a register from memory. -/
def lds : Code := ⟨590⟩

/-- Its first byte could also start a VEX prefix. -/
theorem exists_decode_lds (ip : UInt64) :
    ∃ inst, (decode .bits32 [0xc5, 0x00] ip).outcome = .ok inst ∧ inst.length = 2 ∧
      inst.code = lds := by
  have hop : (Reader.opcode .bits32).runOn { rest := [0xc5, 0x00] } =
      (.ok 0xc5, { rest := [0x00], consumed := 1 }) := rfl
  have hmodrm : Table.hasModRM .legacy .primary 0xc5 := Table.hasModRM_of_mem (by decide)
  have hselector : (Reader.selector .bits32).runOn { rest := [0xc5, 0x00] } =
      (.ok ({}, 0xc5, ⟨0x00⟩), { rest := [], consumed := 2 }) :=
    Reader.runOn_selector hop (by decide) hmodrm
  have htest : ((Reader.body .bits32).runOn { rest := [0xc5, 0x00] }).1.toOption.any
      fun body => decide (body.length = 2 ∧ body.form.code = lds) := by
    rw [Reader.runOn_body hselector, Reader.form, Table.lookupChecked, Table.lookup,
      Table.slot_eq_filter, Table.forms_eq]
    decide +kernel
  obtain ⟨body, t, hbody, hbody'⟩ := Reader.exists_of_any_runOn htest
  obtain ⟨hlength, hcode⟩ := of_decide_eq_true hbody'
  exact ⟨body.place .bits32 ip, decodeFrom_eq_ok_iff.2 ⟨body, t, hbody, rfl⟩, hlength, hcode⟩

theorem decode_selfDelimiting_lds :
    ∃ inst, (decode .bits32 [0xc5, 0x00] 0).outcome = .ok inst ∧ inst.length = 2 ∧
      (decode .bits32 [0xc5, 0x00, 0xc0] 0).outcome = .ok inst ∧
      (decode .bits32 [0xc5] 0).outcome = .error ⟨1, .truncated⟩ := by
  obtain ⟨inst, hinst, hlength, -⟩ := exists_decode_lds 0
  obtain ⟨hmore, hok⟩ := decode_selfDelimiting .bits32 0 [0xc5, 0x00] [0xc0]
  obtain ⟨-, -, -, hfewer, -⟩ := hok _ hinst
  refine ⟨inst, hinst, hlength, ?_, hfewer 1 (by decide) (by rw [hlength]; decide)⟩
  refine (hmore fun e he => ?_).trans hinst
  rw [hinst] at he
  cases he

end X86Decoder
