import X86Decoder.Proofs.Memory

/-!
# What reading leaves alone

Once the opcode has been read, nothing changes what the prefixes say, however reading ends. The mark
for relative addresses is changed in one place only, and there the base is an instruction pointer.

* `Reader.Quiet m P`: the reader leaves the prefixes and the mark alone, and what it yields has `P`.
* `Reader.Marks mode base m`: the reader leaves the prefixes alone and sets the mark exactly if the
  base that it yields is an instruction pointer, which is so in 64-bit mode only.
* `Reader.marks_formBody`: all that is read after the form does so.
* `Reader.prefixes_runOn_body`: the prefixes are what they are when the opcode has been read.
-/

namespace X86Decoder

/-- Whether an address with this base is relative to the instruction pointer. -/
def Register.isPointer (r : Register) : Bool :=
  r == .rip || r == .eip

theorem Register.isPointer_general (width : DataWidth) {n : Nat} (hn : n < 16) :
    (Register.general width n).isPointer = false := by
  have hall : ∀ width ∈ [DataWidth.w8, .w16, .w32, .w64], ∀ n < 16,
      (Register.general width (n : Nat)).isPointer = false := by decide
  exact hall width (by cases width <;> decide) n hn

theorem isPointer_of_addressPair16 {rm : UInt8} {pair : Register × Register}
    (h : addressPair16 rm = .ok pair) : pair.1.isPointer = false := by
  have hall : ∀ pair ∈ addressPairs16, pair.1.isPointer = false := by decide
  rw [addressPair16] at h
  split at h
  · rename_i found hfound
    cases h
    exact hall _ (List.mem_of_getElem? hfound)
  · cases h

/-- The memory operand without its segment. -/
def MemoryReference.unsegmented (memory : MemoryReference) : MemoryReference :=
  { memory with segment := .none }

/-- Whether an operand is an absolute memory offset. -/
def OperandSpec.isMoffs : OperandSpec → Bool
  | moffs _ => true
  | _ => false

theorem OperandSpec.isMoffs_iff {spec : OperandSpec} :
    spec.isMoffs ↔ ∃ element, spec = .moffs element := by
  cases spec <;> simp [isMoffs]

namespace Reader

variable {α β : Type}

/-- However it ends, the reader leaves the prefixes and the mark for relative addresses alone; and
what it yields, if anything, has the postcondition. -/
structure Quiet (m : Reader α) (P : α → Prop) : Prop where
  agree : ∀ s : ReadState, s.Agree (m.runOn s).2
  ok : ∀ (s t : ReadState) (a : α), m.runOn s = (.ok a, t) → P a

namespace Quiet

variable {m : Reader α} {f : α → Reader β} {P : α → Prop} {Q : β → Prop}

theorem mono {P' : α → Prop} (h : m.Quiet P) (hP : ∀ a, P a → P' a) : m.Quiet P' :=
  ⟨h.agree, fun s t a hrun => hP a (h.ok s t a hrun)⟩

/-- The state in which a quiet reader stops. -/
theorem agree_of_runOn (h : m.Quiet P) {s t : ReadState} {r : Except DecodeFault α}
    (hrun : m.runOn s = (r, t)) : s.Agree t := by
  have hagree := h.agree s
  rwa [hrun] at hagree

theorem bind (hm : m.Quiet P) (hf : ∀ a, P a → (f a).Quiet Q) : (m >>= f).Quiet Q where
  agree s := by
    rcases hrun : m.runOn s with ⟨fault | a, t⟩
    · rw [runOn_bind_of_error hrun]
      exact hm.agree_of_runOn hrun
    · rw [runOn_bind_of_ok hrun]
      exact (hm.agree_of_runOn hrun).trans ((hf a (hm.ok s t a hrun)).agree t)
  ok s u b hrun := by
    obtain ⟨a, t, ha, hb⟩ := exists_of_runOn_bind_ok hrun
    exact (hf a (hm.ok s t a ha)).ok t u b hb

end Quiet

section Elementary

variable {P : α → Prop}

theorem quiet_pure {a : α} (h : P a) : (pure a : Reader α).Quiet P where
  agree := .refl
  ok _ _ _ hrun := by
    cases hrun
    exact h

theorem quiet_throw (fault : DecodeFault) : (throw fault : Reader α).Quiet P where
  agree := .refl
  ok _ _ _ hrun := by cases hrun

theorem quiet_request {r : Except Misuse α} (h : ∀ a, r = .ok a → P a) : (request r).Quiet P := by
  cases r with
  | ok a => exact quiet_pure (h a rfl)
  | error cause => exact quiet_throw _

theorem quiet_checkPrefixes (fault? : Option PrefixFault) :
    (checkPrefixes fault?).Quiet fun _ => True := by
  cases fault? with
  | none => exact quiet_pure trivial
  | some fault => exact quiet_throw _

theorem quiet_position : position.Quiet fun _ => True :=
  ⟨.refl, fun _ _ _ _ => trivial⟩

theorem quiet_isRelative : isRelative.Quiet fun _ => True :=
  ⟨.refl, fun _ _ _ _ => trivial⟩

theorem quiet_byte : byte.Quiet fun _ => True where
  agree s := by
    rw [runOn_byte]
    split
    · exact .refl s
    · split <;> exact ⟨rfl, rfl⟩
  ok _ _ _ _ := trivial

theorem quiet_bytes (n : Nat) : (bytes n).Quiet fun _ => True := by
  induction n with
  | zero => exact quiet_pure trivial
  | succ n ih => exact quiet_byte.bind fun _ _ => ih.bind fun _ _ => quiet_pure trivial

theorem quiet_number (size : Nat) : (number size).Quiet fun _ => True := by
  rw [number]
  split
  · exact quiet_throw _
  · exact (quiet_bytes size).bind fun _ _ => quiet_pure trivial

end Elementary

/-! ### Before the operands -/

theorem quiet_modrm (p : PrefixState) (op : UInt8) : (modrm p op).Quiet fun _ => True := by
  rw [modrm]
  split
  · exact quiet_throw _
  · split
    · exact quiet_byte.bind fun _ _ => quiet_pure trivial
    · exact quiet_pure trivial

theorem quiet_form (p : PrefixState) (mode : Mode) (op : UInt8) (m : ModRM) :
    (form p mode op m).Quiet fun _ => True := by
  refine (quiet_request fun _ _ => trivial).bind fun found (_ : True) => ?_
  cases found with
  | ok f => exact quiet_pure trivial
  | error failure =>
    dsimp only
    split <;> exact quiet_throw _

/-! ### Operands -/

section Operands

variable (p : PrefixState) (mode : Mode) (spec : OperandSpec) (m : ModRM)

theorem quiet_register (n : Nat) : (register p spec n).Quiet fun _ => True := by
  rw [register]
  split
  · exact quiet_request fun _ _ => trivial
  · refine (quiet_request fun _ _ => trivial).bind fun r (_ : True) => ?_
    split
    · exact quiet_throw _
    · exact quiet_pure trivial

theorem quiet_regRegister : (regRegister p spec m).Quiet fun _ => True := by
  rw [regRegister]
  split
  case h_4 =>
    split
    · exact quiet_throw _
    · exact quiet_register ..
  all_goals exact quiet_register ..

theorem quiet_rmRegister : (rmRegister p spec m).Quiet fun _ => True := by
  rw [rmRegister]
  split <;> exact quiet_register ..

theorem quiet_vvvvRegister : (vvvvRegister p spec).Quiet fun _ => True := by
  rw [vvvvRegister]
  split
  · exact quiet_throw _
  · exact quiet_register ..

/-- An immediate leaves the memory of a draft alone. -/
theorem quiet_immediate (draft : Draft) (size : Nat) :
    (immediate draft size).Quiet fun result => result.2.memory = draft.memory :=
  quiet_position.bind fun _ _ => (quiet_number size).bind fun _ _ => quiet_pure rfl

/-- No operand but an absolute offset changes more of an address than its segment. -/
theorem quiet_operand_unsegmented (hmoffs : spec.isMoffs = false) (isMemory : Bool)
    (draft : Draft) :
    (operand p mode m isMemory draft spec).Quiet fun next =>
      next.memory.unsegmented = draft.memory.unsegmented := by
  cases spec with
  | reg cls => exact (quiet_regRegister ..).bind fun _ _ => quiet_pure rfl
  | rm _ | rmRegister _ | rmMemory =>
    cases isMemory with
    | true => exact quiet_pure rfl
    | false => exact (quiet_rmRegister ..).bind fun _ _ => quiet_pure rfl
  | vvvv cls => exact (quiet_vvvvRegister ..).bind fun _ _ => quiet_pure rfl
  | is4 cls =>
    exact (quiet_immediate draft 1).bind fun (_, _) h =>
      (quiet_register ..).bind fun _ _ => quiet_pure (congrArg _ h)
  | immediate value =>
    exact (quiet_immediate ..).bind fun (_, _) h => quiet_pure (congrArg _ h)
  | relative offset target =>
    exact (quiet_immediate ..).bind fun (_, _) h => quiet_pure (congrArg _ h)
  | far wide =>
    exact (quiet_immediate ..).bind fun (_, _) h => (quiet_immediate ..).bind fun (_, _) h' =>
      quiet_pure (congrArg _ (h'.trans h))
  | moffs element => cases hmoffs
  | stringDestination element =>
    refine quiet_pure ?_
    change (if _ then _ else draft).memory.unsegmented = _
    split <;> rfl
  | vsib index element =>
    rw [operand]
    split
    · exact quiet_throw _
    · exact quiet_pure rfl
  | implicit _ | one | stringSource _ | maskDestination => exact quiet_pure rfl

/-- No operand changes the base of the address, though some change the rest of it. -/
theorem quiet_operand (isMemory : Bool) (draft : Draft) :
    (operand p mode m isMemory draft spec).Quiet fun next =>
      next.memory.base = draft.memory.base := by
  cases hmoffs : spec.isMoffs with
  | false =>
    refine (quiet_operand_unsegmented p mode spec m hmoffs isMemory draft).mono fun next h => ?_
    change next.memory.unsegmented.base = draft.memory.unsegmented.base
    rw [h]
  | true =>
    obtain ⟨element, rfl⟩ := OperandSpec.isMoffs_iff.1 hmoffs
    exact quiet_position.bind fun _ _ => (quiet_number _).bind fun _ _ => quiet_pure rfl

/-- Without an absolute offset the operands leave the address as it was but for its segment. -/
theorem quiet_operands_unsegmented (isMemory : Bool) {os : List FormOperand}
    (hmoffs : ∀ o ∈ os, o.spec.isMoffs = false) (draft : Draft) :
    (operands p mode m isMemory os draft).Quiet fun final =>
      final.memory.unsegmented = draft.memory.unsegmented := by
  induction os generalizing draft with
  | nil => exact quiet_pure rfl
  | cons o os ih =>
    rw [List.forall_mem_cons] at hmoffs
    rw [operands]
    split
    · exact quiet_throw _
    · refine (quiet_operand_unsegmented p mode o.spec m hmoffs.1 isMemory draft).bind
        fun next hnext => ?_
      exact (ih hmoffs.2 next).mono fun final hfinal => hfinal.trans hnext

theorem quiet_operands (isMemory : Bool) (os : List FormOperand) (draft : Draft) :
    (operands p mode m isMemory os draft).Quiet fun final =>
      final.memory.base = draft.memory.base := by
  induction os generalizing draft with
  | nil => exact quiet_pure rfl
  | cons o os ih =>
    rw [operands]
    split
    · exact quiet_throw _
    · refine (quiet_operand p mode o.spec m isMemory draft).bind fun next hnext => ?_
      exact (ih next).mono fun final hfinal => hfinal.trans hnext

end Operands

/-! ### Addresses -/

/-- However it ends, the reader leaves the prefixes alone. If it yields something, it has set the
mark for relative addresses exactly if the base is an instruction pointer, and that is so in 64-bit
mode only. -/
structure Marks (mode : Mode) (base : α → Register) (m : Reader α) : Prop where
  prefixes : ∀ s : ReadState, (m.runOn s).2.prefixes = s.prefixes
  relative : ∀ (s t : ReadState) (a : α), m.runOn s = (.ok a, t) →
    t.relative = (s.relative || (base a).isPointer)
  bits64 : ∀ (s t : ReadState) (a : α), m.runOn s = (.ok a, t) →
    (base a).isPointer → mode = .bits64

variable {mode : Mode} {base : α → Register} {base' : β → Register}

theorem Quiet.marks {m : Reader α} (h : m.Quiet fun a => (base a).isPointer = false) :
    m.Marks mode base where
  prefixes s := (h.agree s).prefixes
  relative s t a hrun := by
    rw [(h.agree_of_runOn hrun).relative, h.ok s t a hrun, Bool.or_false]
  bits64 s t a hrun hpointer := by
    rw [h.ok s t a hrun] at hpointer
    cases hpointer

/-- A quiet reader may follow that keeps the base. -/
theorem Marks.bind {m : Reader α} {f : α → Reader β} (hm : m.Marks mode base)
    (hf : ∀ a, (f a).Quiet fun b => base' b = base a) : (m >>= f).Marks mode base' where
  prefixes s := by
    have hst := hm.prefixes s
    rcases hrun : m.runOn s with ⟨fault | a, t⟩ <;> rw [hrun] at hst
    · rw [runOn_bind_of_error hrun]
      exact hst
    · rw [runOn_bind_of_ok hrun, ((hf a).agree t).prefixes]
      exact hst
  relative s u b hrun := by
    obtain ⟨a, t, ha, hb⟩ := exists_of_runOn_bind_ok hrun
    rw [((hf a).agree_of_runOn hb).relative, (hf a).ok t u b hb, hm.relative s t a ha]
  bits64 s u b hrun := by
    obtain ⟨a, t, ha, hb⟩ := exists_of_runOn_bind_ok hrun
    rw [(hf a).ok t u b hb]
    exact hm.bits64 s t a ha

/-- A quiet reader may come before. -/
theorem Quiet.bind_marks {m : Reader α} {f : α → Reader β} {P : α → Prop} (hm : m.Quiet P)
    (hf : ∀ a, (f a).Marks mode base') : (m >>= f).Marks mode base' where
  prefixes s := by
    rcases hrun : m.runOn s with ⟨fault | a, t⟩
    · rw [runOn_bind_of_error hrun]
      exact (hm.agree_of_runOn hrun).prefixes
    · rw [runOn_bind_of_ok hrun, (hf a).prefixes t]
      exact (hm.agree_of_runOn hrun).prefixes
  relative s u b hrun := by
    obtain ⟨a, t, ha, hb⟩ := exists_of_runOn_bind_ok hrun
    rw [(hf a).relative t u b hb, (hm.agree_of_runOn ha).relative]
  bits64 s u b hrun := by
    obtain ⟨a, t, -, hb⟩ := exists_of_runOn_bind_ok hrun
    exact (hf a).bits64 t u b hb

section Addresses

variable (p : PrefixState) (f : Form) (m : ModRM)

theorem quiet_address (width : WordSize) (base index : Register) (scale : Int) (size : Nat) :
    (address p f width base index scale size).Quiet fun result => result.1.base = base := by
  have hdisplacement : (displacement p f size width).Quiet fun _ => True := by
    rw [displacement]
    split
    · exact quiet_pure trivial
    · exact quiet_position.bind fun _ _ => (quiet_number size).bind fun _ _ => quiet_pure trivial
  refine hdisplacement.bind ?_
  rintro ⟨value, span⟩ -
  exact quiet_pure rfl

/-- An address with another base is not relative. -/
theorem quiet_address_of_isPointer {width : WordSize} {base : Register}
    (h : base.isPointer = false) (index : Register) (scale : Int) (size : Nat) :
    (address p f width base index scale size).Quiet fun result =>
      result.1.base.isPointer = false :=
  (quiet_address ..).mono fun _ hbase => by rw [hbase, h]

theorem quiet_generalRegister (width : WordSize) {n : UInt8} (hn : n.toNat ≤ 7) (high : Bool) :
    (request (Register.ofBits width.bits (extended high n))).Quiet fun r =>
      r.isPointer = false := by
  refine quiet_request fun r hr => ?_
  rw [Register.ofBits_wordSize] at hr
  cases hr
  exact Register.isPointer_general _ (extended_lt hn high)

theorem quiet_memory16 :
    (memory16 p f m).Quiet fun result => result.1.base.isPointer = false := by
  refine (quiet_request fun _ h => isPointer_of_addressPair16 h).bind fun (base, index) hbase => ?_
  have hnone : Register.none.isPointer = false := by decide
  dsimp only
  split
  · split
    · exact quiet_address_of_isPointer p f hnone ..
    · exact quiet_address_of_isPointer p f hbase ..
  · split <;> exact quiet_address_of_isPointer p f hbase ..

theorem quiet_memorySib (width : WordSize) :
    (memorySib p f m width).Quiet fun result => result.1.base.isPointer = false := by
  refine (quiet_byte.bind fun b _ => quiet_pure trivial).bind fun s (_ : True) => ?_
  refine (quiet_request fun _ _ => trivial).bind fun index (_ : True) => ?_
  split
  · exact quiet_address_of_isPointer p f (by decide) ..
  · exact (quiet_generalRegister width s.base_le p.b).bind fun base hbase =>
      quiet_address_of_isPointer p f hbase ..

theorem marks_memoryRelative (width : WordSize) :
    (memoryRelative p f width).Marks .bits64 fun result => result.1.base := by
  have haddress := quiet_address p f width (if width = .w32 then .eip else .rip) .none 1 4
  refine ⟨fun s => ?_, fun s u result hrun => ?_, fun _ _ _ _ _ => rfl⟩
  · rw [memoryRelative, runOn_bind]
    have hst := haddress.agree s
    split <;> rename_i hrun <;> rw [hrun] at hst <;> exact hst.prefixes
  · obtain ⟨result', t, haddr, hu⟩ := exists_of_runOn_bind_ok hrun
    have hpointer : (if width = .w32 then Register.eip else .rip).isPointer := by
      cases width <;> decide
    have hbase := haddress.ok s t result' haddr
    cases hu
    rw [hbase, hpointer, Bool.or_true]

theorem marks_memory32 (mode : Mode) (width : WordSize) :
    (memory32 p mode f m width).Marks mode fun result => result.1.base := by
  rw [memory32]
  split
  · exact (quiet_memorySib ..).marks
  split
  · exact (quiet_throw _).marks
  split
  · split
    · rename_i hmode
      subst hmode
      exact marks_memoryRelative p f width
    · exact (quiet_address_of_isPointer p f (by decide) ..).marks
  · exact ((quiet_generalRegister width m.rm_le p.b).bind fun base hbase =>
      quiet_address_of_isPointer p f hbase ..).marks

theorem marks_memory (mode : Mode) :
    (memory p mode f m).Marks mode fun result => result.1.base := by
  rw [memory]
  split
  · split
    · exact (quiet_throw _).marks
    · exact (quiet_memory16 p f m).marks
  · exact marks_memory32 ..
  · exact marks_memory32 ..

theorem marks_draft (mode : Mode) (isMemory : Bool) :
    (draft p mode f m isMemory).Marks mode fun start => start.memory.base := by
  cases isMemory with
  | true => exact (marks_memory p f m mode).bind fun (_, _) => quiet_pure rfl
  | false => exact (quiet_pure (by decide)).marks

end Addresses

/-! ### The rest of an instruction -/

theorem marks_formBody (p : PrefixState) (mode : Mode) (m : ModRM) (f : Form) :
    (formBody p mode m f).Marks mode fun body => body.draft.memory.base := by
  refine (quiet_checkPrefixes _).bind_marks fun _ => ?_
  refine (marks_draft p f m mode _).bind fun start => ?_
  refine (quiet_operands p mode m _ f.operands start).bind fun final hfinal => ?_
  exact quiet_isRelative.bind fun _ _ => quiet_position.bind fun _ _ => quiet_pure hfinal

/-- What the prefixes say is decided by the first of two readers, if the other leaves them alone. -/
theorem prefixes_runOn_bind {m : Reader α} {f : α → Reader β}
    (hf : ∀ a s, ((f a).runOn s).2.prefixes = s.prefixes) (s : ReadState) :
    ((m >>= f).runOn s).2.prefixes = (m.runOn s).2.prefixes := by
  rcases hrun : m.runOn s with ⟨fault | a, t⟩
  · rw [runOn_bind_of_error hrun]
  · rw [runOn_bind_of_ok hrun, hf]

/-- However decoding ends, the prefixes are those that stood before the opcode. -/
theorem prefixes_runOn_body (mode : Mode) (s : ReadState) :
    ((body mode).runOn s).2.prefixes = ((opcode mode).runOn s).2.prefixes := by
  have hselector : ∀ op t, ((withModRM op).runOn t).2.prefixes = t.prefixes := by
    intro op t
    rw [withModRM, runOn_bind_of_ok (runOn_prefixes t)]
    have hquiet : (modrm t.prefixes op >>= fun m => pure (t.prefixes, op, m)).Quiet fun _ => True :=
      (quiet_modrm t.prefixes op).bind fun _ _ => quiet_pure trivial
    exact (hquiet.agree t).prefixes
  have hbody : ∀ (selected : PrefixState × UInt8 × ModRM) t,
      ((form selected.1 mode selected.2.1 selected.2.2 >>=
        formBody selected.1 mode selected.2.2).runOn t).2.prefixes = t.prefixes := by
    intro ⟨p, op, m⟩ t
    exact ((quiet_form p mode op m).bind_marks fun f => marks_formBody p mode m f).prefixes t
  exact (prefixes_runOn_bind hbody s).trans (prefixes_runOn_bind hselector s)

end Reader

end X86Decoder
