import X86Decoder.Proofs.Operands

/-!
# Progress on zero bytes

Most of what can be wrong with an instruction once its form is known lies in the numbers of its
registers. Zero names a register in every class, so a form whose fields are all zero can be read to
its end if zero bytes follow.

* `Reader.Passes m n P`: the reader succeeds if it has so many zero bytes ahead, and takes no more.
* `Reader.passes_operand`, `Reader.passes_operands`: the operands of a plain form.
* `Reader.passes_formBody`: what is left of an instruction once its form is known.
-/

namespace X86Decoder

/-- Zero bytes lie ahead, and so many of them can still be read. -/
structure ReadState.Ready (s : ReadState) (n : Nat) : Prop where
  eq_zero : ∀ b ∈ s.rest, b = 0
  le_length : n ≤ s.rest.length
  le_maxLength : s.consumed + n ≤ maxLength

namespace Reader

variable {α β : Type}

/-- With so many zero bytes ahead the reader succeeds with the postcondition. It takes no more of
them than that. -/
structure Passes (m : Reader α) (n : Nat) (P : α → Prop) : Prop where
  run : ∀ {s : ReadState} {k : Nat}, s.Ready (n + k) →
    ∃ a t, m.runOn s = (.ok a, t) ∧ t.Ready k ∧ P a

namespace Passes

variable {m : Reader α} {f : α → Reader β} {n k : Nat} {P : α → Prop} {Q : β → Prop}

/-- The second reader goes on where the first one stops. -/
theorem bind (hm : m.Passes n P) (hf : ∀ a, P a → (f a).Passes k Q) :
    (m >>= f).Passes (n + k) Q where
  run hs := by
    rw [Nat.add_assoc] at hs
    obtain ⟨a, t, hrun, ht, ha⟩ := hm.run hs
    rw [runOn_bind_of_ok hrun]
    exact (hf a ha).run ht

/-- A reader that takes no bytes comes first. -/
theorem zero_bind (hm : m.Passes 0 P) (hf : ∀ a, P a → (f a).Passes k Q) :
    (m >>= f).Passes k Q := by
  have h := hm.bind hf
  rwa [Nat.zero_add] at h

/-- A reader that takes no bytes comes last. -/
theorem bind_zero (hm : m.Passes n P) (hf : ∀ a, P a → (f a).Passes 0 Q) :
    (m >>= f).Passes n Q :=
  hm.bind hf

end Passes

section Elementary

variable {P : α → Prop}

theorem passes_of_runOn {m : Reader α} {a : ReadState → α} (hrun : ∀ s, m.runOn s = (.ok (a s), s))
    (h : ∀ s, P (a s)) : m.Passes 0 P where
  run {s k} hs := by
    rw [Nat.zero_add] at hs
    exact ⟨a s, s, hrun s, hs, h s⟩

theorem passes_pure {a : α} (h : P a) : (pure a : Reader α).Passes 0 P :=
  passes_of_runOn (fun _ => rfl) fun _ => h

theorem passes_request {r : Except Misuse α} (h : ∃ a, r = .ok a ∧ P a) :
    (request r).Passes 0 P := by
  obtain ⟨a, rfl, ha⟩ := h
  exact passes_pure ha

theorem passes_position : position.Passes 0 fun _ => True :=
  passes_of_runOn (fun _ => rfl) fun _ => trivial

theorem passes_isRelative : isRelative.Passes 0 fun _ => True :=
  passes_of_runOn (fun _ => rfl) fun _ => trivial

theorem passes_byte : byte.Passes 1 fun b => b = 0 := by
  refine ⟨fun {s k} ⟨hzero, hlength, hmax⟩ => ?_⟩
  have hread : ¬maxLength ≤ s.consumed := by omega
  rw [runOn_byte, if_neg hread]
  cases hrest : s.rest with
  | nil =>
    rw [hrest, List.length_nil] at hlength
    omega
  | cons b rest =>
    rw [hrest] at hzero hlength
    rw [List.length_cons] at hlength
    refine ⟨b, _, rfl, ⟨?_, ?_, ?_⟩, hzero b List.mem_cons_self⟩
    · exact fun c hc => hzero c (List.mem_cons_of_mem b hc)
    · change k ≤ rest.length
      omega
    · change s.consumed + 1 + k ≤ maxLength
      omega

/-- Zero bytes make the number zero. -/
theorem passes_bytes (n : Nat) : (bytes n).Passes n fun bs => Word.littleEndian bs = 0 := by
  induction n with
  | zero => exact passes_pure rfl
  | succ n ih =>
    rw [bytes, Nat.add_comm n 1]
    refine passes_byte.bind fun b hb => ih.bind_zero fun bs hbs => passes_pure ?_
    rw [Word.littleEndian, hb, hbs]
    rfl

theorem passes_number {size : Nat} (h : size ≤ 8) : (number size).Passes size fun v => v = 0 := by
  rw [number, if_neg (Nat.not_lt.2 h)]
  refine (passes_bytes size).bind_zero fun bs hbs => passes_pure ?_
  rw [hbs]
  rfl

end Elementary

/-! ### Registers -/

/-- A numbered family has a register with the number zero. -/
theorem exists_member_zero {cls : RegisterClass} (h : cls.family ≠ .general) :
    ∃ r, cls.family.member 0 = .ok r ∧ r ≠ .none := by
  cases cls <;> first | exact ⟨_, rfl, by decide⟩ | exact absurd rfl h

section Registers

variable {p : PrefixState} {m : ModRM} {spec : OperandSpec} {cls : RegisterClass}

theorem passes_register_zero (hfamily : spec.family = cls.family) (hbits : spec.bits = cls.bits) :
    (register p spec 0).Passes 0 fun _ => True := by
  rw [register, hfamily, hbits]
  split
  · rename_i hgeneral
    obtain ⟨r, hr⟩ := exists_generalRegister p hgeneral 0
    exact passes_request ⟨r, hr, trivial⟩
  · rename_i hgeneral
    have hnumber : (if cls.family = .mmx ∨ cls.family = .x87 then 0 % 8 else 0) = 0 := by
      split <;> rfl
    dsimp only
    rw [hnumber]
    obtain ⟨r, hr, hne⟩ := exists_member_zero hgeneral
    refine (passes_request (P := (· ≠ .none)) ⟨r, hr, hne⟩).zero_bind fun r hne => ?_
    rw [if_neg hne]
    exact passes_pure trivial

theorem passes_regRegister (hreg : m.reg = 0) (hr : p.r = false) (hrHigh : p.rHigh = false)
    (hfamily : spec.family = cls.family) (hbits : spec.bits = cls.bits) :
    (regRegister p spec m).Passes 0 fun _ => True := by
  have hzero := passes_register_zero (p := p) hfamily hbits
  rw [regRegister, hreg, hr, hrHigh]
  split <;> exact hzero

theorem passes_rmRegister (hrm : m.rm = 0) (hb : p.b = false) (hxHigh : p.xHigh = false)
    (hfamily : spec.family = cls.family) (hbits : spec.bits = cls.bits) :
    (rmRegister p spec m).Passes 0 fun _ => True := by
  have hzero := passes_register_zero (p := p) hfamily hbits
  rw [rmRegister, hrm, hb, hxHigh]
  split <;> exact hzero

theorem passes_vvvvRegister (hvvvv : p.vvvv = 0) (hfamily : spec.family = cls.family)
    (hbits : spec.bits = cls.bits) : (vvvvRegister p spec).Passes 0 fun _ => True := by
  have hzero := passes_register_zero (p := p) hfamily hbits
  rw [vvvvRegister, hvvvv, if_neg (by simp)]
  exact hzero

end Registers

end Reader

/-! ### Operands -/

/-- Of the fields that number registers, those that only a prefix with R, X or vvvv can set are
zero, and the b and z bits of an EVEX prefix are clear. -/
structure PrefixState.Plain (p : PrefixState) : Prop where
  r : p.r = false
  rHigh : p.rHigh = false
  xHigh : p.xHigh = false
  vvvv : p.vvvv = 0
  broadcast : p.broadcast = false
  zeroing : p.zeroing = false

namespace OperandSpec

/-- Whether an operand that is not a vector of indices is register zero of its class, if it is a
register that the ModR/M byte names. Numbers are compared by `Nat.beq`, which evaluates fastest. -/
def isPlain (p : PrefixState) (m : ModRM) (isMemory : Bool) : OperandSpec → Bool
  | reg _ => Nat.beq m.reg.toNat 0
  | rm _ | rmRegister _ => isMemory || (Nat.beq m.rm.toNat 0 && !p.b)
  | rmMemory => isMemory
  | vsib _ _ => false
  | _ => true

/-- How many bytes are read for an operand, by address size. -/
def bytesRead (width : WordSize) : OperandSpec → Nat
  | moffs _ => width.bytes
  | spec => spec.size

end OperandSpec

/-- How many bytes are read for operands, by address size. -/
def bytesRead (width : WordSize) : List FormOperand → Nat
  | [] => 0
  | o :: os => o.spec.bytesRead width + bytesRead width os

/-- Whether every operand of a form is plain and memory, if any, has the address in a register with
the number zero. -/
def Form.isPlain (f : Form) (p : PrefixState) (m : ModRM) : Bool :=
  let isMemory := f.namesMemory m
  f.operands.all (fun o => o.spec.isPlain p m isMemory)
    && (!isMemory || (Nat.beq m.mod.toNat 0 && Nat.beq m.rm.toNat 0))

/-- A number that passes the test is zero. -/
theorem Bits.eq_zero_of_beq {n : UInt8} (h : Nat.beq n.toNat 0) : n = 0 :=
  UInt8.toNat_inj.1 (Nat.eq_of_beq_eq_true h)

theorem WordSize.bytes_le (width : WordSize) : width.bytes ≤ 8 := by
  cases width <;> decide

theorem DataWidth.bytes_le (width : DataWidth) : width.bytes ≤ 8 := by
  cases width <;> decide

namespace Reader

variable {p : PrefixState} {mode : Mode} {m : ModRM} {isMemory : Bool} {f : Form}

/-- An immediate adds no operand. -/
theorem passes_immediate (draft : Draft) {size : Nat} (h : size ≤ 8) :
    (immediate draft size).Passes size fun result =>
      result.1 = 0 ∧ result.2.operands.length = draft.operands.length :=
  passes_position.zero_bind fun _ _ =>
    (passes_number h).bind_zero fun _ hv => passes_pure ⟨hv, rfl⟩

theorem passes_memoryOffset (draft : Draft) :
    (memoryOffset p mode draft).Passes (p.addressSize mode).bytes fun next =>
      next.operands.length = draft.operands.length + 1 := by
  refine passes_position.zero_bind fun _ _ => ?_
  refine (passes_number (p.addressSize mode).bytes_le).bind_zero fun v _ => passes_pure ?_
  simp [Draft.push]

/-- A plain operand can be resolved. -/
theorem passes_operand (hp : p.Plain) {spec : OperandSpec} (hspec : spec.isPlain p m isMemory)
    (draft : Draft) :
    (operand p mode m isMemory draft spec).Passes (spec.bytesRead (p.addressSize mode))
      fun next => next.operands.length = draft.operands.length + 1 := by
  have hpush : ∀ {next : Draft} (o : Operand), next.operands.length = draft.operands.length →
      (next.push o).operands.length = draft.operands.length + 1 := by
    intro next o h
    simp [Draft.push, h]
  cases spec with
  | reg cls =>
    have hreg := Bits.eq_zero_of_beq hspec
    exact (passes_regRegister hreg hp.r hp.rHigh rfl rfl).zero_bind fun r _ =>
      passes_pure (hpush _ rfl)
  | rm cls | rmRegister cls =>
    cases isMemory with
    | true => exact passes_pure (hpush _ rfl)
    | false =>
      rw [OperandSpec.isPlain, Bool.false_or, Bool.and_eq_true, Bool.not_eq_true'] at hspec
      have hrm := Bits.eq_zero_of_beq hspec.1
      exact (passes_rmRegister hrm hspec.2 hp.xHigh rfl rfl).zero_bind fun r _ =>
        passes_pure (hpush _ rfl)
  | rmMemory =>
    -- Plain only where the ModR/M byte names memory.
    cases hspec
    exact passes_pure (hpush _ rfl)
  | vvvv cls =>
    exact (passes_vvvvRegister hp.vvvv rfl rfl).zero_bind fun r _ => passes_pure (hpush _ rfl)
  | is4 cls =>
    refine (passes_immediate draft (by decide)).bind_zero ?_
    rintro ⟨v, next⟩ ⟨rfl, hnext⟩
    -- The byte is zero, so its high half is, in whichever mode it is cut.
    have hnumber : (0 : UInt64).toNat / 16 % (if mode = .bits64 then 16 else 8) = 0 := by
      split <;> rfl
    dsimp only
    rw [is4Register, hnumber]
    exact (passes_register_zero rfl rfl).zero_bind fun r _ => passes_pure (hpush _ hnext)
  | implicit r => exact passes_pure (hpush _ rfl)
  | one => exact passes_pure (hpush _ rfl)
  | immediate value =>
    refine (passes_immediate draft value.width.bytes_le).bind_zero ?_
    rintro ⟨v, next⟩ ⟨-, hnext⟩
    exact passes_pure (hpush _ hnext)
  | relative offset target =>
    refine (passes_immediate draft offset.bytes_le).bind_zero ?_
    rintro ⟨v, next⟩ ⟨-, hnext⟩
    exact passes_pure (hpush _ hnext)
  | far wide =>
    refine (passes_immediate draft (WordSize.bytes_le _)).bind (k := 2) ?_
    rintro ⟨v, next⟩ ⟨-, hnext⟩
    refine (passes_immediate next (by decide)).bind_zero ?_
    rintro ⟨v', next'⟩ ⟨-, hnext'⟩
    exact passes_pure (by simpa [Draft.push] using hnext'.trans hnext)
  | moffs element => exact passes_memoryOffset draft
  | stringSource element => exact passes_pure (hpush _ rfl)
  | stringDestination element =>
    refine passes_pure (hpush _ ?_)
    split <;> rfl
  | maskDestination => exact passes_pure (hpush _ rfl)
  | vsib index element => cases hspec

/-- Plain operands can be resolved, if there is a place for each. -/
theorem passes_operands (hp : p.Plain) {os : List FormOperand}
    (hos : ∀ o ∈ os, o.spec.isPlain p m isMemory) {draft : Draft}
    (hlength : draft.operands.length + os.length ≤ Instruction.maxOperands) :
    (operands p mode m isMemory os draft).Passes (bytesRead (p.addressSize mode) os)
      fun _ => True := by
  induction os generalizing draft with
  | nil => exact passes_pure trivial
  | cons o os ih =>
    rw [List.length_cons] at hlength
    have hplace : ¬Instruction.maxOperands ≤ draft.operands.length := by omega
    rw [operands, if_neg hplace]
    refine (passes_operand hp (hos o List.mem_cons_self) draft).bind fun next hnext => ?_
    exact ih (fun o' ho' => hos o' (List.mem_cons_of_mem o ho')) (by omega)

/-! ### The rest of an instruction -/

theorem passes_address (width : WordSize) (base index : Register) (scale : Int) :
    (address p f width base index scale 0).Passes 0 fun _ => True :=
  passes_pure trivial

/-- An address in a register takes no bytes after the ModR/M byte. -/
theorem passes_memory (hmod : m.mod = 0) (hrm : m.rm = 0) (hvsib : f.vsib? = none) :
    (memory p mode f m).Passes 0 fun _ => True := by
  have hwide : ∀ width, (memory32 p mode f m width).Passes 0 fun _ => True := by
    intro width
    rw [memory32, hmod, hrm, hvsib, if_neg (by decide), if_neg (by decide), if_neg (by decide),
      Register.ofBits_wordSize, displacementSize, hmod]
    exact (passes_request ⟨_, rfl, trivial⟩).zero_bind fun base (_ : True) => passes_address ..
  -- The rm field is neither 4 nor 5 nor 6, so there is no SIB byte and no displacement.
  rw [memory]
  split
  · rw [hvsib, if_neg (by decide), memory16, hmod, hrm]
    exact (passes_request ⟨_, rfl, trivial⟩).zero_bind fun pair (_ : True) => passes_address ..
  · exact hwide .w32
  · exact hwide .w64

/-- A plain form has no vector of indices. -/
theorem vsib?_eq_none (hf : f.isPlain p m) : f.vsib? = none := by
  rw [Form.isPlain, Bool.and_eq_true, List.all_eq_true] at hf
  rw [Form.vsib?, List.findSome?_eq_none_iff]
  intro o ho
  have hplain := hf.1 o ho
  split
  · rename_i hspec
    rw [hspec] at hplain
    cases hplain
  · rfl

theorem passes_draft (hf : f.isPlain p m) :
    (draft p mode f m (f.namesMemory m)).Passes 0 fun start => start.operands = [] := by
  rw [draft]
  split
  · rename_i hmemory
    have haddress := (Bool.and_eq_true_iff.1 hf).2
    rw [hmemory, Bool.not_true, Bool.false_or, Bool.and_eq_true] at haddress
    exact (passes_memory (Bits.eq_zero_of_beq haddress.1) (Bits.eq_zero_of_beq haddress.2)
      (vsib?_eq_none hf)).zero_bind fun _ _ => passes_pure rfl
  · exact passes_pure rfl

/-- No form limits the fields of a plain prefix but for the opmask. -/
theorem checkForm_eq_none (hp : p.Plain)
    (hopmask : p.encoding = .evex → Body.checkOpmask f p = none) :
    Body.checkForm f p isMemory = none := by
  have hvvvv : Body.checkVvvv f p = none := by simp [Body.checkVvvv, hp.vvvv]
  rw [Body.checkForm, hvvvv]
  split
  · rfl
  · rename_i hevex
    rw [hopmask (Decidable.not_not.1 hevex)]
    simp [Body.checkBroadcast, Body.checkZeroing, hp.broadcast, hp.zeroing]

/-- A plain form can be read to its end, and is the form of what was read. -/
theorem passes_formBody (hp : p.Plain) (hf : f.isPlain p m)
    (hlength : f.operands.length ≤ Instruction.maxOperands)
    (hopmask : p.encoding = .evex → Body.checkOpmask f p = none) :
    (formBody p mode m f).Passes (bytesRead (p.addressSize mode) f.operands) fun body =>
      body.form = f := by
  have hoperands : ∀ o ∈ f.operands, o.spec.isPlain p m (f.namesMemory m) :=
    List.all_eq_true.1 (Bool.and_eq_true_iff.1 hf).1
  rw [formBody, checkForm_eq_none hp hopmask]
  refine (passes_pure trivial).zero_bind fun _ (_ : True) => ?_
  refine (passes_draft hf).zero_bind fun start hstart => ?_
  have hplaces : start.operands.length + f.operands.length ≤ Instruction.maxOperands := by
    rwa [hstart, List.length_nil, Nat.zero_add]
  refine (passes_operands hp hoperands hplaces).bind_zero fun _ _ => ?_
  exact passes_isRelative.zero_bind fun _ _ => passes_position.zero_bind fun _ _ => passes_pure rfl

end Reader

end X86Decoder
