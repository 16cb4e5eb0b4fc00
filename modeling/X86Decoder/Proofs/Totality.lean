import X86Decoder.Instruction.Text
import X86Decoder.Proofs.Body
import X86Decoder.Proofs.Decoder

/-!
# Decoding is total

Wherever a decoder stands in its data, decoding yields an instruction or a fault of one of the five
classes, and never a request outside a function's contract. An instruction that was decoded can be
written out, its operands can be asked for, and its bytes can be found again.

* `Body.WellFormed.exists_text`: a body can be written out wherever it is placed.
* `Decoder.next_total`: decoding is total.
-/

namespace X86Decoder

/-! ### Instructions in words -/

theorem Register.bits_le_of_general {r : Register} (h : r.family = .general) : r.bits ≤ 64 := by
  have hall : ∀ block ∈ Register.blocks, block.family = .general → block.bits ≤ 64 := by
    decide
  rw [Register.family] at h
  rw [Register.bits]
  cases hblock : r.block? with
  | none => exact Nat.zero_le 64
  | some block =>
    rw [hblock] at h
    exact hall block (List.mem_of_find?_eq_some hblock) h

namespace MemoryReference

/-- A base that is no wider than an address is enough, since a general purpose index never is. -/
theorem exists_displacementText {memory : MemoryReference} (h : memory.base.bits ≤ 64) :
    ∃ text, memory.displacementText = .ok text := by
  have hbits : (if memory.base ≠ .none then memory.base.bits
      else if memory.index.family = .general then memory.index.bits else 64) ≤ 64 := by
    split
    · exact h
    · split
      · rename_i hgeneral
        exact Register.bits_le_of_general hgeneral
      · exact Nat.le_refl 64
  exact ⟨_, if_neg (Nat.not_lt.2 hbits)⟩

theorem exists_text {memory : MemoryReference} (h : memory.base.bits ≤ 64) :
    ∃ text, memory.text = .ok text := by
  rw [text]
  split
  · exact ⟨_, rfl⟩
  · split
    · exact ⟨_, rfl⟩
    · obtain ⟨displacement, hdisplacement⟩ := exists_displacementText h
      rw [hdisplacement]
      exact ⟨_, rfl⟩

end MemoryReference

namespace Instruction

/-- Only an operand with an address could fail to be written out. -/
theorem exists_operandText {inst : Instruction} (h : inst.memory.base.bits ≤ 64)
    (operand : Operand) : ∃ text, inst.operandText operand = .ok text := by
  rw [operandText]
  split <;> first | exact MemoryReference.exists_text h | exact ⟨_, rfl⟩

theorem exists_operandTexts {inst : Instruction} (h : inst.memory.base.bits ≤ 64) :
    ∃ texts, inst.operandTexts = .ok texts := by
  have hmapM : ∀ operands : List Operand,
      ∃ texts, operands.mapM inst.operandText = .ok texts := by
    intro operands
    induction operands with
    | nil => exact ⟨[], rfl⟩
    | cons operand operands ih =>
      obtain ⟨text, htext⟩ := exists_operandText h operand
      obtain ⟨texts, htexts⟩ := ih
      rw [List.mapM_cons, htext, htexts]
      exact ⟨text :: texts, rfl⟩
  obtain ⟨texts, htexts⟩ := hmapM inst.operands
  rw [operandTexts, htexts]
  exact ⟨_, rfl⟩

theorem exists_text {inst : Instruction} (hbase : inst.memory.base.bits ≤ 64)
    (hrounding : inst.rounding = .none ∨ inst.rounding.suffix?.isSome) :
    ∃ text, inst.text = .ok text := by
  have hroundingText : ∃ text, inst.roundingText = .ok text := by
    rw [roundingText]
    split
    · exact ⟨_, rfl⟩
    · rename_i hne
      obtain ⟨suffix, hsuffix⟩ := Option.isSome_iff_exists.1 (hrounding.resolve_left hne)
      rw [hsuffix]
      exact ⟨_, rfl⟩
  obtain ⟨operands, hoperands⟩ := exists_operandTexts hbase
  obtain ⟨rounding, hrounding⟩ := hroundingText
  rw [text, hoperands, hrounding]
  exact ⟨_, rfl⟩

end Instruction

/-! ### Bodies at their place -/

/-- The place of a body changes nothing of its memory but the displacement, and this only where it
is relative to the instruction pointer. -/
theorem Body.exists_placeMemory_eq (relative : Bool) (next : UInt64) (memory : MemoryReference) :
    ∃ value, Body.placeMemory relative next memory = { memory with displacement := value } ∧
      (relative = false → value = memory.displacement) := by
  rw [Body.placeMemory]
  cases relative with
  | false => exact ⟨_, rfl, fun _ => rfl⟩
  | true =>
    simp only [Bool.not_true, Bool.false_eq_true, ↓reduceIte]
    split
    · exact ⟨_, rfl, nofun⟩
    · exact ⟨_, rfl, nofun⟩

/-- Two bits select a rounding mode that can be written out. -/
theorem Rounding.isSome_suffix?_ofLengthField {ll : UInt8} (h : ll.toNat < 4) :
    (Rounding.ofLengthField ll).suffix?.isSome := by
  have hall : ∀ n < 4, (Rounding.ofLengthField (UInt8.ofNat n)).suffix?.isSome := by decide
  have hll := hall ll.toNat h
  rwa [UInt8.ofNat_toNat] at hll

/-- A body can be written out wherever it is placed. -/
theorem Body.WellFormed.exists_text {body : Body} (h : body.WellFormed) (mode : Mode)
    (ip : UInt64) :
    ∃ text, (body.place mode ip).text = .ok text := by
  refine Instruction.exists_text ?_ ?_
  · obtain ⟨value, hplace, -⟩ := Body.exists_placeMemory_eq body.relative
      (Body.nextIp mode ip body.length) body.draft.memory
    change (Body.placeMemory _ _ _).base.bits ≤ 64
    rw [hplace]
    exact h.coherent.bits_base_le
  · -- A rounding mode comes from an EVEX prefix, whose length field has two bits.
    dsimp only [Body.place]
    split
    · rename_i hrounding
      simp only [Bool.and_eq_true, beq_iff_eq] at hrounding
      exact .inr (Rounding.isSome_suffix?_ofLengthField (h.valid.ll_lt hrounding.1.1.1))
    · exact .inl rfl

/-! ### Decoders -/

/-- The operands of an instruction can be asked for by index. -/
theorem Instruction.exists_operand (inst : Instruction) {i : Nat} (hi : i < inst.operands.length) :
    ∃ operand, inst.operand i = .ok operand := by
  have hi' : ¬ (i : Int) < 0 := by omega
  refine ⟨inst.operands[i], ?_⟩
  simp [Instruction.operand, hi, hi']

namespace Decoder

variable {d : Decoder}

/-- What a decoder yields is a well-formed body at the place where the decoder stands. -/
theorem exists_body_of_next (h : d.position ≤ d.data.length) {inst : Instruction}
    (hnext : d.next.1 = .ok inst) :
    ∃ body : Body, body.WellFormed ∧ inst = body.place d.mode d.currentIp := by
  obtain ⟨body, t, hbody, hinst⟩ := (next_eq_ok_iff h).1 hnext
  exact ⟨body, (Reader.ensures_body d.mode rfl).of_ok hbody, hinst⟩

theorem exists_class_of_next (h : d.position ≤ d.data.length) {e : DecodeError}
    (hnext : d.next.1 = .error e) : ∃ cls, e.fault.class? = some cls := by
  rw [next_fst h] at hnext
  obtain ⟨t, hbody, -⟩ := decodeFrom_eq_error_iff.1 hnext
  exact Option.isSome_iff_exists.1 ((Reader.ensures_body d.mode rfl).of_error hbody)

/-- The bytes of an instruction are found again where the decoder stood, in data whose offsets are
words. -/
theorem bytes_of_next (h : d.position ≤ d.data.length) {inst : Instruction}
    (hnext : d.next.1 = .ok inst) (hsize : d.data.length < UInt64.size) :
    inst.bytes d.data d.ip = .ok ((d.data.drop d.position).take inst.length) := by
  have hle := position_add_length_le h hnext
  obtain ⟨body, -, hinst⟩ := exists_body_of_next h hnext
  have hip : inst.ip = d.ip + d.position.toUInt64 := by
    rw [hinst]
    rfl
  -- Instruction pointers wrap around, but offsets are subtracted from them again.
  have hstart : inst.ip - d.ip = d.position.toUInt64 := by
    rw [hip]
    grind
  have hposition : d.position.toUInt64.toNat = d.position :=
    UInt64.toNat_ofNat_of_lt' (Nat.lt_of_le_of_lt h hsize)
  have hstop : (d.position.toUInt64 + inst.length.toUInt64).toNat = d.position + inst.length := by
    have hlength : inst.length.toUInt64.toNat = inst.length :=
      UInt64.toNat_ofNat_of_lt' (by omega)
    rw [UInt64.toNat_add, hposition, hlength]
    exact Nat.mod_eq_of_lt (Nat.lt_of_le_of_lt hle hsize)
  rw [Instruction.bytes, hstart, hposition, hstop, if_pos]
  refine ⟨?_, hle⟩
  rw [UInt64.le_iff_toNat_le, hposition, hstop]
  exact Nat.le_add_right _ _

/-- Decoding is total. Wherever the decoder stands in its data, it yields an instruction or a fault
of one of the five classes. The instruction can be written out, its operands can be asked for, and
its bytes are found again in the data. No form of the table leads to another fault, whatever the
prefixes, with any ModR/M byte that it matches: there is a reader for every operand. -/
theorem next_total (d : Decoder) (h : d.position ≤ d.data.length) :
    ((∃ inst, d.next.1 = .ok inst ∧ (∃ text, inst.text = .ok text) ∧
        (d.data.length < UInt64.size →
          inst.bytes d.data d.ip = .ok ((d.data.drop d.position).take inst.length)) ∧
        ∀ i < inst.operands.length, ∃ operand, inst.operand i = .ok operand) ∨
      ∃ e cls, d.next.1 = .error e ∧ e.fault.class? = some cls) ∧
    ∀ f ∈ Table.forms, ∀ (p : PrefixState) (m : ModRM) (s : ReadState) (fault : DecodeFault),
      f.modrmMismatch m = none → s.relative = false →
      ((Reader.formBody p d.mode m f).runOn s).1 = .error fault →
      ∃ cls, fault.class? = some cls := by
  refine ⟨?_, fun f hf p m s fault hmatch hs hfault => ?_⟩
  · cases hnext : d.next.1 with
    | ok inst =>
      obtain ⟨body, hbody, rfl⟩ := exists_body_of_next h hnext
      exact .inl ⟨_, rfl, hbody.exists_text d.mode d.currentIp, bytes_of_next h hnext,
        fun i hi => Instruction.exists_operand _ hi⟩
    | error e =>
      obtain ⟨cls, hcls⟩ := exists_class_of_next h hnext
      exact .inr ⟨e, cls, rfl, hcls⟩
  · have hclass := (Reader.ensures_formBody hf hmatch hs).of_error (Prod.ext hfault rfl)
    exact Option.isSome_iff_exists.1 hclass

/-- Decoders in the middle of their data, with a reader that a relative address has marked: one
finds an instruction, and the data of the other run out. -/
theorem next_total_midway :
    let d : Decoder :=
      { mode := .bits32, data := [0x90, 0xc5, 0x00], ip := 0xffffffffffffffff, position := 1
        reader := { rest := [], consumed := 7, relative := true } }
    let d' : Decoder := { d with data := [0x90, 0xc5] }
    d.position ≤ d.data.length ∧ d'.position ≤ d'.data.length ∧
      (∃ inst text, d.next.1 = .ok inst ∧ inst.code = lds ∧ inst.text = .ok text ∧
        inst.bytes d.data d.ip = .ok [0xc5, 0x00] ∧
        ∀ i < inst.operands.length, ∃ operand, inst.operand i = .ok operand) ∧
      ∃ e, d'.next.1 = .error e ∧ e.fault.class? = some .truncated := by
  intro d d'
  have hd : d.position ≤ d.data.length := by decide
  have hd' : d'.position ≤ d'.data.length := by decide
  obtain ⟨inst, hinst, hlength, hcode⟩ := exists_decode_lds d.currentIp
  have hnext : d.next.1 = .ok inst := (next_fst hd).trans hinst
  have hnext' : d'.next.1 = .error ⟨1, .truncated⟩ :=
    (next_fst hd').trans (outcome_decode_take_of_lt hinst (k := 1) (by omega))
  refine ⟨hd, hd', ?_, ?_⟩
  · rcases (next_total d hd).1 with ⟨inst', hok, ⟨text, htext⟩, hbytes, hoperands⟩ | ⟨e, -, he, -⟩
    · rw [hnext] at hok
      cases hok
      refine ⟨inst, text, hnext, hcode, htext, ?_, hoperands⟩
      rw [hbytes (by decide), hlength]
      rfl
    · rw [hnext] at he
      cases he
  · rcases (next_total d' hd').1 with ⟨inst', hok, -⟩ | ⟨e, cls, he, hcls⟩
    · rw [hnext'] at hok
      cases hok
    · rw [hnext'] at he
      cases he
      exact ⟨_, hnext', rfl⟩

end Decoder

end X86Decoder
