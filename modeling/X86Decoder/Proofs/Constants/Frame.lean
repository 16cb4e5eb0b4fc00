import X86Decoder.Proofs.Addressing
import X86Decoder.Proofs.Constants.Takes
import X86Decoder.Proofs.Decodable
import X86Decoder.Proofs.SelfDelimiting.Decode

/-!
# What comes before the constants

All that decides about the shape of an instruction stands before its constants: the prefixes, the
opcode, the ModR/M byte and the SIB byte. They make up a frame, and an instruction is a frame and
then its constants.

* `AddressPlan`: an address without the displacement.
* `Frame`: what is known of an instruction when its constants begin.
* `Reader.body_eq_frame_bind`: reading an instruction is reading a frame and then the constants.
* `Reader.regular_of_runOn_frame`: what holds of every frame.
* `Reader.SelfDelimiting.runOn_congr`: a frame is the same whatever constants follow.
-/

namespace X86Decoder

/-- What the ModR/M and SIB bytes say about an address. -/
structure AddressPlan where
  /-- The base register, or no register. -/
  base : Register
  /-- The index register, or no register. -/
  index : Register
  /-- What the index is multiplied by. -/
  scale : Int
  /-- The number of displacement bytes that follow. -/
  size : Nat
  /-- Whether the address is relative to the instruction pointer. -/
  relative : Bool := false

/-- What is known of an instruction when its constants begin. -/
structure Frame where
  /-- The mode. -/
  mode : Mode
  /-- What the prefixes say. -/
  prefixes : PrefixState
  /-- The ModR/M byte. -/
  modrm : ModRM
  /-- The form. -/
  form : Form
  /-- The address, if the ModR/M byte names memory. -/
  address : Option AddressPlan

namespace Frame

/-- Whether the ModR/M byte names memory. -/
def isMemory (c : Frame) : Bool :=
  c.address.isSome

/-- The address size. -/
def width (c : Frame) : WordSize :=
  c.prefixes.addressSize c.mode

end Frame

namespace Reader

/-! ### Addresses without displacements -/

/-- Read what comes before the displacement of a 16-bit address. -/
def plan16 (m : ModRM) : Reader AddressPlan := do
  let pair ← request (addressPair16 m.rm)
  if m.mod = 0 then
    if m.rm = 6 then return { base := .none, index := pair.2, scale := 1, size := 2 }
    else return { base := pair.1, index := pair.2, scale := 1, size := 0 }
  else if m.mod = 1 then return { base := pair.1, index := pair.2, scale := 1, size := 1 }
  else return { base := pair.1, index := pair.2, scale := 1, size := 2 }

/-- Read the SIB byte of an address. -/
def planSib (p : PrefixState) (f : Form) (m : ModRM) (width : WordSize) : Reader AddressPlan := do
  let s ← Sib.mk <$> byte
  let index ← request (indexRegister p width f.vsib? s)
  if s.base = 5 ∧ m.mod = 0 then
    return { base := .none, index := index, scale := s.factor index, size := 4 }
  else
    let base ← request (Register.ofBits width.bits (extended p.b s.base))
    return { base := base, index := index, scale := s.factor index, size := displacementSize m }

/-- Read what comes before the displacement of a 32-bit or 64-bit address. -/
def plan32 (p : PrefixState) (mode : Mode) (f : Form) (m : ModRM) (width : WordSize) :
    Reader AddressPlan := do
  if m.rm = 4 then planSib p f m width
  else if f.vsib?.isSome then refuseModRM .vsibWithoutSib
  else if m.rm = 5 ∧ m.mod = 0 then
    if mode = .bits64 then
      return { base := if width = .w32 then .eip else .rip, index := .none, scale := 1, size := 4,
               relative := true }
    else return { base := .none, index := .none, scale := 1, size := 4 }
  else
    let base ← request (Register.ofBits width.bits (extended p.b m.rm))
    return { base := base, index := .none, scale := 1, size := displacementSize m }

/-- Read what comes before the displacement of an address. -/
def plan (p : PrefixState) (mode : Mode) (f : Form) (m : ModRM) : Reader AddressPlan :=
  match p.addressSize mode with
  | .w16 => if f.vsib?.isSome then refuseModRM .vsibIn16 else plan16 m
  | .w32 => plan32 p mode f m .w32
  | .w64 => plan32 p mode f m .w64

/-- Set the mark for relative addresses, if the address is one. -/
def mark (relative : Bool) : Reader Unit :=
  if relative then setRelative true else return

/-- Read the displacement of an address. -/
def planned (p : PrefixState) (f : Form) (width : WordSize) (a : AddressPlan) :
    Reader (MemoryReference × Span) := do
  let result ← address p f width a.base a.index a.scale a.size
  mark a.relative
  return result

/-- An address that is not relative has nothing to mark. -/
theorem address_eq (p : PrefixState) (f : Form) (width : WordSize) (base index : Register)
    (scale : Int) (size : Nat) :
    address p f width base index scale size =
      pure { base := base, index := index, scale := scale, size := size } >>=
        planned p f width := by
  rw [pure_bind, planned]
  exact (bind_pure _).symm

theorem memory16_eq (p : PrefixState) (f : Form) (m : ModRM) :
    memory16 p f m = plan16 m >>= planned p f .w16 := by
  rw [plan16, bind_assoc]
  refine bind_congr fun pair => ?_
  dsimp only
  split
  · split <;> exact address_eq ..
  · split <;> exact address_eq ..

theorem memorySib_eq (p : PrefixState) (f : Form) (m : ModRM) (width : WordSize) :
    memorySib p f m width = planSib p f m width >>= planned p f width := by
  rw [planSib, bind_assoc]
  refine bind_congr fun s => ?_
  rw [bind_assoc]
  refine bind_congr fun index => ?_
  split
  · exact address_eq ..
  · rw [bind_assoc]
    refine bind_congr fun base => ?_
    exact address_eq ..

theorem memory32_eq (p : PrefixState) (mode : Mode) (f : Form) (m : ModRM) (width : WordSize) :
    memory32 p mode f m width = plan32 p mode f m width >>= planned p f width := by
  rw [memory32, plan32]
  split
  · exact memorySib_eq p f m width
  split
  · rfl
  split
  · split
    · rw [pure_bind]
      rfl
    · exact address_eq ..
  · rw [bind_assoc]
    refine bind_congr fun base => ?_
    exact address_eq ..

theorem memory_eq (p : PrefixState) (mode : Mode) (f : Form) (m : ModRM) :
    memory p mode f m = plan p mode f m >>= planned p f (p.addressSize mode) := by
  rw [memory, plan]
  cases p.addressSize mode with
  | w16 =>
    dsimp only
    split
    · rfl
    · exact memory16_eq p f m
  | w32 => exact memory32_eq p mode f m .w32
  | w64 => exact memory32_eq p mode f m .w64

/-! ### Frames -/

/-- Read the address of an instruction, if its ModR/M byte names memory. -/
def plan? (p : PrefixState) (mode : Mode) (f : Form) (m : ModRM) : Reader (Option AddressPlan) :=
  if f.namesMemory m then do
    let a ← plan p mode f m
    return some a
  else return none

/-- Read the rest of a frame whose form is known. -/
def formFrame (p : PrefixState) (mode : Mode) (m : ModRM) (f : Form) : Reader Frame := do
  checkPrefixes (Body.checkForm f p (f.namesMemory m))
  let a ← plan? p mode f m
  return ⟨mode, p, m, f, a⟩

/-- Read a frame. -/
def frame (mode : Mode) : Reader Frame := do
  let selected ← selector mode
  let f ← form selected.1 mode selected.2.1 selected.2.2
  formFrame selected.1 mode selected.2.2 f

/-- Read the displacement of the address that the ModR/M byte names. -/
def start (c : Frame) : Reader Draft :=
  match c.address with
  | some a => do
    let result ← planned c.prefixes c.form c.width a
    return { memory := result.1, constants := { displacement := result.2 } }
  | none => return {}

/-- Read the constants of an instruction. -/
def constants (c : Frame) : Reader Body := do
  let first ← start c
  let draft ← operands c.prefixes c.mode c.modrm c.isMemory c.form.operands first
  let relative ← isRelative
  let length ← position
  return ⟨c.form, c.prefixes, c.isMemory, draft, relative, length⟩

theorem formBody_eq (p : PrefixState) (mode : Mode) (m : ModRM) (f : Form) :
    formBody p mode m f = formFrame p mode m f >>= constants := by
  rw [formBody, formFrame, bind_assoc]
  refine bind_congr fun _ => ?_
  rw [plan?, draft]
  cases f.namesMemory m with
  | true =>
    simp only [if_true, memory_eq, bind_assoc, pure_bind]
    refine bind_congr fun a => ?_
    simp only [constants, start, bind_assoc, pure_bind]
    rfl
  | false => rfl

/-- An instruction is a frame and then its constants. -/
theorem body_eq_frame_bind (mode : Mode) : body mode = frame mode >>= constants := by
  rw [frame, bind_assoc]
  refine bind_congr fun selected => ?_
  rw [bind_assoc]
  exact bind_congr fun f => formBody_eq selected.1 mode selected.2.2 f

/-! ### What holds of a frame -/

end Reader

/-- What holds of every address of the given size that the bytes can say. -/
structure AddressPlan.Regular (width : WordSize) (a : AddressPlan) : Prop where
  size_mem : a.size ∈ [0, 1, 2, 4]
  relative_eq : a.relative = a.base.isPointer
  size_of_relative : a.relative → a.size = 4
  bits_of_relative : a.relative → Body.pointerBits a.base = width.bits

theorem AddressPlan.Regular.width_of_relative {width : WordSize} {a : AddressPlan}
    (h : a.Regular width) (hrelative : a.relative) : width ≠ .w16 := by
  rintro rfl
  have hbits := h.bits_of_relative hrelative
  rw [Body.pointerBits] at hbits
  split at hbits <;> cases hbits

/-- An address that is not relative. -/
theorem AddressPlan.Regular.of_not_isPointer {width : WordSize} {base index : Register}
    {scale : Int} {size : Nat} (hbase : base.isPointer = false) (hsize : size ∈ [0, 1, 2, 4]) :
    AddressPlan.Regular width { base := base, index := index, scale := scale, size := size } where
  size_mem := hsize
  relative_eq := hbase.symm
  size_of_relative h := by cases h
  bits_of_relative h := by cases h

/-- What holds of every frame. -/
structure Frame.Regular (c : Frame) : Prop where
  lookup : ∃ op, Table.lookup c.prefixes (.known c.mode) op c.modrm = .ok c.form
  isMemory_eq : c.isMemory = c.form.namesMemory c.modrm
  address : ∀ a ∈ c.address, a.Regular c.width

theorem Frame.Regular.mem_forms {c : Frame} (h : c.Regular) : c.form ∈ Table.forms := by
  obtain ⟨op, hlookup⟩ := h.lookup
  exact (Table.lookup_ok hlookup).1

namespace Reader

theorem quiet_plan16 (m : ModRM) : (plan16 m).Quiet fun a => a.Regular .w16 := by
  refine (quiet_request fun _ h => isPointer_of_addressPair16 h).bind fun pair hbase => ?_
  have hnone : Register.none.isPointer = false := by decide
  split
  · split
    · exact quiet_pure (.of_not_isPointer hnone (by decide))
    · exact quiet_pure (.of_not_isPointer hbase (by decide))
  · split <;> exact quiet_pure (.of_not_isPointer hbase (by decide))

theorem quiet_planSib (p : PrefixState) (f : Form) (m : ModRM) (width : WordSize) :
    (planSib p f m width).Quiet fun a => a.Regular width := by
  refine (quiet_byte.bind fun b _ => quiet_pure trivial).bind fun s (_ : True) => ?_
  refine (quiet_request fun _ _ => trivial).bind fun index (_ : True) => ?_
  split
  · exact quiet_pure (.of_not_isPointer (by decide) (by decide))
  · exact (quiet_generalRegister width s.base_le p.b).bind fun base hbase =>
      quiet_pure (.of_not_isPointer hbase (displacementSize_mem m))

theorem quiet_plan32 (p : PrefixState) (mode : Mode) (f : Form) (m : ModRM) {width : WordSize}
    (hwidth : width ≠ .w16) : (plan32 p mode f m width).Quiet fun a => a.Regular width := by
  rw [plan32]
  split
  · exact quiet_planSib ..
  split
  · exact quiet_throw _
  split
  · split
    · -- The base is the instruction pointer of the address size.
      refine quiet_pure ⟨by simp, ?_, fun _ => rfl, fun _ => ?_⟩
      · cases width <;> rfl
      · cases width <;> first | rfl | exact absurd rfl hwidth
    · exact quiet_pure (.of_not_isPointer (by decide) (by decide))
  · exact (quiet_generalRegister width m.rm_le p.b).bind fun base hbase =>
      quiet_pure (.of_not_isPointer hbase (displacementSize_mem m))

theorem quiet_plan (p : PrefixState) (mode : Mode) (f : Form) (m : ModRM) :
    (plan p mode f m).Quiet fun a => a.Regular (p.addressSize mode) := by
  rw [plan]
  cases p.addressSize mode with
  | w16 =>
    dsimp only
    split
    · exact quiet_throw _
    · exact quiet_plan16 m
  | w32 => exact quiet_plan32 p mode f m (by decide)
  | w64 => exact quiet_plan32 p mode f m (by decide)

theorem quiet_formFrame (p : PrefixState) (mode : Mode) (m : ModRM) (f : Form) :
    (formFrame p mode m f).Quiet fun c =>
      c.mode = mode ∧ c.prefixes = p ∧ c.modrm = m ∧ c.form = f ∧
      c.isMemory = f.namesMemory m ∧ ∀ a ∈ c.address, a.Regular c.width := by
  refine (quiet_checkPrefixes _).bind fun _ _ => ?_
  have hplan : (plan? p mode f m).Quiet fun a? =>
      a?.isSome = f.namesMemory m ∧ ∀ a ∈ a?, a.Regular (p.addressSize mode) := by
    rw [plan?]
    split
    · rename_i hmemory
      refine (quiet_plan p mode f m).bind fun a ha => quiet_pure ⟨hmemory.symm, ?_⟩
      rintro _ ⟨⟩
      exact ha
    · rename_i hmemory
      refine quiet_pure ⟨(Bool.eq_false_of_not_eq_true hmemory).symm, ?_⟩
      rintro _ ⟨⟩
  exact hplan.bind fun a? ha => quiet_pure ⟨rfl, rfl, rfl, rfl, ha⟩

theorem regular_of_runOn_frame {mode : Mode} {s t : ReadState} {c : Frame}
    (h : (frame mode).runOn s = (.ok c, t)) :
    c.Regular ∧ c.mode = mode ∧ t.relative = s.relative := by
  obtain ⟨selected, u, hselector, hrest⟩ := exists_of_runOn_bind_ok h
  obtain ⟨f, v, hform, hframe⟩ := exists_of_runOn_bind_ok hrest
  have hquiet := quiet_formFrame selected.1 mode selected.2.2 f
  obtain ⟨rfl, hprefixes, hmodrm, hf, hmemory, haddress⟩ := hquiet.ok v t c hframe
  have hlookup := lookup_of_form hform
  rw [← hprefixes, ← hmodrm, ← hf] at hlookup
  rw [← hf, ← hmodrm] at hmemory
  refine ⟨⟨⟨_, hlookup⟩, hmemory, haddress⟩, rfl, ?_⟩
  rw [(hquiet.agree_of_runOn hframe).relative, ((quiet_form ..).agree_of_runOn hform).relative,
    ((ensures_selector c.mode s).of_ok hselector).1]

/-- The frame of an instruction has the prefixes that the opcode was read with. -/
theorem exists_opcode_of_runOn_frame {mode : Mode} {data : List UInt8} {c : Frame} {t : ReadState}
    (h : (frame mode).runOn { rest := data } = (.ok c, t)) :
    ∃ op u m f v, (opcode mode).runOn { rest := data } = (.ok op, u) ∧ c.prefixes = u.prefixes ∧
      (formFrame u.prefixes mode m f).runOn v = (.ok c, t) := by
  obtain ⟨selected, u, hselector, hrest⟩ := exists_of_runOn_bind_ok h
  obtain ⟨f, v, hform, hframe⟩ := exists_of_runOn_bind_ok hrest
  obtain ⟨op, w, hopcode, hmodrm⟩ := exists_of_runOn_bind_ok hselector
  obtain ⟨p, x, hprefixes, hread⟩ := exists_of_runOn_bind_ok hmodrm
  obtain ⟨m, y, -, hselected⟩ := exists_of_runOn_bind_ok hread
  cases hprefixes
  cases hselected
  obtain ⟨-, hp, -⟩ := (quiet_formFrame ..).ok _ _ _ hframe
  exact ⟨op, w, m, f, v, hopcode, hp, hframe⟩

theorem prefixes_of_runOn_frame {mode : Mode} {data : List UInt8} {c : Frame} {t : ReadState}
    (h : (frame mode).runOn { rest := data } = (.ok c, t)) (ip : UInt64) :
    (decode mode data ip).prefixes = c.prefixes := by
  obtain ⟨op, u, -, -, -, hopcode, hprefixes, -⟩ := exists_opcode_of_runOn_frame h
  rw [prefixes_decode, hopcode, hprefixes]

/-! ### A frame ends by itself -/

theorem selfDelimiting_plan16 (m : ModRM) : (plan16 m).SelfDelimiting := by
  refine (selfDelimiting_request _).bind fun pair => ?_
  split
  · split <;> exact selfDelimiting_pure _
  · split <;> exact selfDelimiting_pure _

theorem selfDelimiting_planSib (p : PrefixState) (f : Form) (m : ModRM) (width : WordSize) :
    (planSib p f m width).SelfDelimiting := by
  refine (selfDelimiting_byte.map _).bind fun s => (selfDelimiting_request _).bind fun index => ?_
  split
  · exact selfDelimiting_pure _
  · exact (selfDelimiting_request _).bind fun base => selfDelimiting_pure _

theorem selfDelimiting_plan32 (p : PrefixState) (mode : Mode) (f : Form) (m : ModRM)
    (width : WordSize) : (plan32 p mode f m width).SelfDelimiting := by
  rw [plan32]
  split
  · exact selfDelimiting_planSib ..
  split
  · exact selfDelimiting_refuseModRM _
  split
  · split <;> exact selfDelimiting_pure _
  · exact (selfDelimiting_request _).bind fun base => selfDelimiting_pure _

theorem selfDelimiting_plan (p : PrefixState) (mode : Mode) (f : Form) (m : ModRM) :
    (plan p mode f m).SelfDelimiting := by
  rw [plan]
  split
  · split
    · exact selfDelimiting_refuseModRM _
    · exact selfDelimiting_plan16 m
  · exact selfDelimiting_plan32 ..
  · exact selfDelimiting_plan32 ..

theorem selfDelimiting_plan? (p : PrefixState) (mode : Mode) (f : Form) (m : ModRM) :
    (plan? p mode f m).SelfDelimiting := by
  rw [plan?]
  split
  · exact (selfDelimiting_plan p mode f m).bind fun a => selfDelimiting_pure _
  · exact selfDelimiting_pure _

theorem selfDelimiting_frame (mode : Mode) : (frame mode).SelfDelimiting :=
  (selfDelimiting_selector mode).bind fun _ => (selfDelimiting_form ..).bind fun _ =>
    (selfDelimiting_checkPrefixes _).bind fun _ => (selfDelimiting_plan? ..).bind fun _ =>
      selfDelimiting_pure _

/-- A run that succeeds depends on the bytes that it takes only. Whatever else follows them is left
over. -/
theorem SelfDelimiting.runOn_congr {α : Type} {m : Reader α} (hm : m.SelfDelimiting)
    {s t : ReadState} {a : α} {taken : List UInt8} (hrun : m.runOn s = (.ok a, t))
    (hrest : s.rest = taken ++ t.rest) (more : List UInt8) :
    m.runOn { s with rest := taken ++ more } = (.ok a, { t with rest := more }) := by
  have hat := hm.delimitsAt { s with rest := taken }
  have happend : ∀ rest, ReadState.append { s with rest := taken } rest =
      { s with rest := taken ++ rest } := fun _ => rfl
  have hs : { s with rest := taken ++ t.rest } = s := by rw [← hrest]
  obtain ⟨u, hu⟩ : ∃ u, m.runOn { s with rest := taken } = (.ok a, u) := by
    rw [← hs, ← happend] at hrun
    exact hat.runOn_of_append hrun (Nat.le_refl _)
  have hmore : ∀ rest, m.runOn { s with rest := taken ++ rest } = (.ok a, u.append rest) := by
    intro rest
    have h := hat.runOn_append rest (by rw [hu]; simp)
    rwa [happend, hu] at h
  -- With the bytes of the run alone nothing is left over.
  have ht : u.append t.rest = t := by
    have h := hmore t.rest
    rw [hs, hrun] at h
    exact ((Prod.mk.inj h).2).symm
  rw [hmore more, ← ht]
  have hnil : u.rest = [] := by
    have h : u.rest ++ t.rest = t.rest := congrArg ReadState.rest ht
    exact List.append_left_eq_self.1 h
  rw [ReadState.append, ReadState.append, hnil]
  rfl

end Reader

end X86Decoder
