import Mathlib.Data.List.Basic
import X86Decoder.Proofs.Constants.Frame
import X86Decoder.Proofs.Constants.Takes

/-!
# Readers that do not look at the prefixes

Behind the opcode the prefixes are given to the readers, and none of them looks at those of the
state. So where other bytes of an extended prefix select the same form, all that follows is read in
the same way.

* `Reader.Oblivious`: the reader does not look at the prefixes.
* `Reader.oblivious_formBody`: no reader does once the form is known.
* `Reader.runOn_evexPrefix_eq_ok_iff`, `Reader.runOn_vexLikePrefix_eq_ok_iff`: what the rest of an
  extended prefix says.
* `Reader.Takes.runOn_replace`: a payload with other bytes.
* `Reader.runOn_frame_of_prefixes`: a frame behind an opcode with other prefixes.
-/

namespace X86Decoder

namespace Reader

variable {α β : Type}

/-- With other prefixes the reader does and yields the same, and it leaves them alone. -/
structure Oblivious (m : Reader α) : Prop where
  runOn_eq : ∀ (s : ReadState) (p : PrefixState), m.runOn { s with prefixes := p } =
    ((m.runOn s).1, { (m.runOn s).2 with prefixes := p })

theorem Oblivious.runOn_of_ok {m : Reader α} (hm : m.Oblivious) {s t : ReadState} {a : α}
    (h : m.runOn s = (.ok a, t)) (p : PrefixState) :
    m.runOn { s with prefixes := p } = (.ok a, { t with prefixes := p }) := by
  rw [hm.runOn_eq, h]

theorem Oblivious.bind {m : Reader α} {f : α → Reader β} (hm : m.Oblivious)
    (hf : ∀ a, (f a).Oblivious) : (m >>= f).Oblivious := by
  refine ⟨fun s p => ?_⟩
  have heq := hm.runOn_eq s p
  rcases h : m.runOn s with ⟨fault | a, t⟩ <;> rw [h] at heq
  · rw [runOn_bind_of_error h, runOn_bind_of_error heq]
  · rw [runOn_bind_of_ok h, runOn_bind_of_ok heq]
    exact (hf a).runOn_eq t p

theorem oblivious_pure (a : α) : (pure a : Reader α).Oblivious :=
  ⟨fun _ _ => rfl⟩

theorem oblivious_throw (fault : DecodeFault) : (throw fault : Reader α).Oblivious :=
  ⟨fun _ _ => rfl⟩

theorem oblivious_request (r : Except Misuse α) : (request r).Oblivious := by
  cases r with
  | ok a => exact oblivious_pure a
  | error cause => exact oblivious_throw _

theorem oblivious_byte : byte.Oblivious := by
  refine ⟨fun s p => ?_⟩
  obtain ⟨rest, consumed, _, _⟩ := s
  rw [runOn_byte, runOn_byte]
  dsimp only
  split
  · rfl
  · cases rest <;> rfl

theorem oblivious_bytes (n : Nat) : (bytes n).Oblivious := by
  induction n with
  | zero => exact oblivious_pure _
  | succ n ih => exact oblivious_byte.bind fun _ => ih.bind fun _ => oblivious_pure _

theorem oblivious_number (size : Nat) : (number size).Oblivious := by
  rw [number]
  split
  · exact oblivious_throw _
  · exact (oblivious_bytes size).bind fun _ => oblivious_pure _

theorem oblivious_position : position.Oblivious :=
  ⟨fun _ _ => rfl⟩

theorem oblivious_isRelative : isRelative.Oblivious :=
  ⟨fun _ _ => rfl⟩

theorem oblivious_mark (relative : Bool) : (mark relative).Oblivious := by
  cases relative <;> exact ⟨fun _ _ => rfl⟩

theorem oblivious_modrm (p : PrefixState) (op : UInt8) : (modrm p op).Oblivious := by
  rw [modrm]
  split
  · exact oblivious_throw _
  · split
    · exact oblivious_byte.bind fun _ => oblivious_pure _
    · exact oblivious_pure _

theorem oblivious_plan16 (m : ModRM) : (plan16 m).Oblivious := by
  refine (oblivious_request _).bind fun pair => ?_
  split
  · split <;> exact oblivious_pure _
  · split <;> exact oblivious_pure _

theorem oblivious_planSib (p : PrefixState) (f : Form) (m : ModRM) (width : WordSize) :
    (planSib p f m width).Oblivious := by
  refine (oblivious_byte.bind fun _ => oblivious_pure _).bind fun s =>
    (oblivious_request _).bind fun index => ?_
  split
  · exact oblivious_pure _
  · exact (oblivious_request _).bind fun base => oblivious_pure _

theorem oblivious_plan32 (p : PrefixState) (mode : Mode) (f : Form) (m : ModRM)
    (width : WordSize) : (plan32 p mode f m width).Oblivious := by
  rw [plan32]
  split
  · exact oblivious_planSib p f m width
  split
  · exact oblivious_throw _
  split
  · split <;> exact oblivious_pure _
  · exact (oblivious_request _).bind fun base => oblivious_pure _

theorem oblivious_plan (p : PrefixState) (mode : Mode) (f : Form) (m : ModRM) :
    (plan p mode f m).Oblivious := by
  rw [plan]
  cases p.addressSize mode with
  | w16 =>
    dsimp only
    split
    · exact oblivious_throw _
    · exact oblivious_plan16 m
  | w32 => exact oblivious_plan32 p mode f m .w32
  | w64 => exact oblivious_plan32 p mode f m .w64

theorem oblivious_formFrame (p : PrefixState) (mode : Mode) (m : ModRM) (f : Form) :
    (formFrame p mode m f).Oblivious := by
  have hcheck : (checkPrefixes (Body.checkForm f p (f.namesMemory m))).Oblivious := by
    cases Body.checkForm f p (f.namesMemory m) with
    | none => exact oblivious_pure ()
    | some fault => exact oblivious_throw _
  have hplan : (plan? p mode f m).Oblivious := by
    rw [plan?]
    split
    · exact (oblivious_plan p mode f m).bind fun a => oblivious_pure _
    · exact oblivious_pure _
  exact hcheck.bind fun _ => hplan.bind fun _ => oblivious_pure _

theorem oblivious_form (p : PrefixState) (mode : Mode) (op : UInt8) (m : ModRM) :
    (form p mode op m).Oblivious := by
  refine (oblivious_request _).bind fun found => ?_
  cases found with
  | ok f => exact oblivious_pure f
  | error failure =>
    dsimp only
    split <;> exact oblivious_throw _

/-! ### Constants -/

section Operands

variable (p : PrefixState) (mode : Mode) (spec : OperandSpec) (m : ModRM)

theorem oblivious_register (n : Nat) : (register p spec n).Oblivious := by
  rw [register]
  split
  · exact oblivious_request _
  · refine (oblivious_request _).bind fun r => ?_
    split
    · exact oblivious_throw _
    · exact oblivious_pure r

theorem oblivious_regRegister : (regRegister p spec m).Oblivious := by
  rw [regRegister]
  split
  case h_4 =>
    split
    · exact oblivious_throw _
    · exact oblivious_register ..
  all_goals exact oblivious_register ..

theorem oblivious_rmRegister : (rmRegister p spec m).Oblivious := by
  rw [rmRegister]
  split <;> exact oblivious_register ..

theorem oblivious_vvvvRegister : (vvvvRegister p spec).Oblivious := by
  rw [vvvvRegister]
  split
  · exact oblivious_throw _
  · exact oblivious_register ..

theorem oblivious_immediate (draft : Draft) (size : Nat) : (immediate draft size).Oblivious :=
  oblivious_position.bind fun _ => (oblivious_number size).bind fun _ => oblivious_pure _

theorem oblivious_operand (isMemory : Bool) (draft : Draft) :
    (operand p mode m isMemory draft spec).Oblivious := by
  cases spec with
  | reg cls => exact (oblivious_regRegister ..).bind fun _ => oblivious_pure _
  | rm _ | rmRegister _ | rmMemory =>
    cases isMemory with
    | true => exact oblivious_pure _
    | false => exact (oblivious_rmRegister ..).bind fun _ => oblivious_pure _
  | vvvv cls => exact (oblivious_vvvvRegister ..).bind fun _ => oblivious_pure _
  | is4 cls =>
    exact (oblivious_immediate draft 1).bind fun _ =>
      (oblivious_register ..).bind fun _ => oblivious_pure _
  | immediate value => exact (oblivious_immediate ..).bind fun _ => oblivious_pure _
  | relative offset target => exact (oblivious_immediate ..).bind fun _ => oblivious_pure _
  | far wide =>
    exact (oblivious_immediate ..).bind fun _ => (oblivious_immediate ..).bind fun _ =>
      oblivious_pure _
  | moffs element =>
    exact oblivious_position.bind fun _ => (oblivious_number _).bind fun _ => oblivious_pure _
  | vsib index element =>
    rw [operand]
    split
    · exact oblivious_throw _
    · exact oblivious_pure _
  | implicit _ | one | stringSource _ | stringDestination _ | maskDestination =>
    exact oblivious_pure _

theorem oblivious_operands (isMemory : Bool) (os : List FormOperand) (draft : Draft) :
    (operands p mode m isMemory os draft).Oblivious := by
  induction os generalizing draft with
  | nil => exact oblivious_pure draft
  | cons o os ih =>
    rw [operands]
    split
    · exact oblivious_throw _
    · exact (oblivious_operand ..).bind fun next => ih next

end Operands

theorem oblivious_start (c : Frame) : (start c).Oblivious := by
  have hdisplacement : ∀ size, (displacement c.prefixes c.form size c.width).Oblivious := by
    intro size
    rw [displacement]
    split
    · exact oblivious_pure _
    · exact oblivious_position.bind fun _ => (oblivious_number size).bind fun _ =>
        oblivious_pure _
  rw [start]
  cases c.address with
  | none => exact oblivious_pure _
  | some a =>
    have haddress : (planned c.prefixes c.form c.width a).Oblivious :=
      ((hdisplacement a.size).bind fun _ => oblivious_pure _).bind fun _ =>
        (oblivious_mark a.relative).bind fun _ => oblivious_pure _
    exact haddress.bind fun _ => oblivious_pure _

/-- Nothing that is read once the form is known looks at the prefixes of the state. -/
theorem oblivious_formBody (p : PrefixState) (mode : Mode) (m : ModRM) (f : Form) :
    (formBody p mode m f).Oblivious := by
  rw [formBody_eq]
  refine (oblivious_formFrame p mode m f).bind fun c => (oblivious_start c).bind fun first => ?_
  exact (oblivious_operands ..).bind fun _ => oblivious_isRelative.bind fun _ =>
    oblivious_position.bind fun _ => oblivious_pure _

/-! ### Extended prefixes -/

/-- A reader of a fixed number of bytes with others of them in their place. -/
theorem Takes.runOn_replace {m : Reader α} {n : Nat} {f : Nat → List UInt8 → Option α}
    (hm : m.Takes n f) {s t : ReadState} {rest : List UInt8} {a a' : α} (bs bs' : List UInt8)
    (hrest : s.rest = bs ++ rest) (hbs : bs.length = n) (hbs' : bs'.length = n)
    (h : m.runOn s = (.ok a, t)) (ha' : f s.consumed bs' = some a') :
    f s.consumed bs = some a ∧ m.runOn { s with rest := bs' ++ rest } = (.ok a', t) := by
  obtain ⟨hroom, ha, rfl⟩ := (hm.runOn_iff s a t).1 h
  rw [hrest, ← hbs, List.take_left] at ha
  refine ⟨ha, (hm.runOn_iff _ a' _).2 ⟨⟨?_, hroom.2⟩, ?_, ?_⟩⟩
  · simp [hbs']
  · rw [← hbs', List.take_left]
    exact ha'
  · simp only [ReadState.skip, hrest]
    rw [List.drop_left' hbs, List.drop_left' hbs']

theorem takes_vexPayload :
    (vexPayload false).Takes 2 fun _ bs =>
      bs.head?.bind fun p0 => bs.tail.head?.map fun p1 => ⟨p0, p1⟩ := by
  refine (takes_byte.bind fun p0 => takes_byte.map (Vex.mk p0)).congr rfl fun start bs hbs => ?_
  obtain ⟨p0, p1, rfl⟩ := List.length_eq_two.1 hbs
  rfl

theorem takes_evexPayload :
    evexPayload.Takes 3 fun _ bs =>
      bs.head?.bind fun p0 => bs.tail.head?.bind fun p1 =>
        bs.tail.tail.head?.map fun p2 => ⟨p0, p1, p2⟩ := by
  refine (takes_byte.bind fun p0 => takes_byte.bind fun p1 =>
    takes_byte.map (Evex.mk p0 p1)).congr rfl fun start bs hbs => ?_
  obtain ⟨p0, p1, p2, rfl⟩ := List.length_eq_three.1 hbs
  rfl

section Prefixes

variable {mode : Mode} {encoding : EncodingKind} {map? : UInt8 → Option OpcodeMap}
  {s t : ReadState} {u : Unit}

theorem runOn_checkPrefixes_eq_ok_iff {fault? : Option PrefixFault} :
    (checkPrefixes fault?).runOn s = (.ok u, t) ↔ fault? = none ∧ t = s := by
  cases fault? with
  | none => simp [checkPrefixes, eq_comm]
  | some fault => simp [checkPrefixes, refusePrefixes]

theorem runOn_checkBefore_eq_ok_iff :
    (checkBefore encoding).runOn s = (.ok u, t) ↔
      s.prefixes.faultBefore? encoding = none ∧ t = s := by
  rw [checkBefore, runOn_bind_of_ok (runOn_prefixes s), runOn_checkPrefixes_eq_ok_iff]

theorem runOn_selectMap_eq_ok_iff {n : UInt8} {map? : Option OpcodeMap} :
    (selectMap encoding n map?).runOn s = (.ok u, t) ↔
      ∃ map, map? = some map ∧
        t = { s with prefixes := { s.prefixes with encoding := encoding, map := map } } := by
  cases map? with
  | none => simp [selectMap, runOn_bind_eq_ok_iff, refusePrefixes]
  | some map =>
    rw [selectMap, runOn_bind_of_ok (runOn_modifyPrefixes _ _), runOn_modifyPrefixes]
    simp [eq_comm]

/-- What the rest of a VEX or XOP prefix says, and what it may not follow. -/
theorem runOn_vexLikePrefix_eq_ok_iff {short : Bool} :
    (vexLikePrefix encoding map? mode short).runOn s = (.ok (), t) ↔
      s.prefixes.faultBefore? encoding = none ∧
        ∃ v u, (vexPayload short).runOn s = (.ok v, u) ∧ ∃ map, map? v.mmmmm = some map ∧
          t = { u with prefixes :=
            PrefixState.addVex { u.prefixes with encoding := encoding, map := map } mode v } := by
  simp only [vexLikePrefix, runOn_bind_eq_ok_iff, runOn_checkBefore_eq_ok_iff,
    runOn_selectMap_eq_ok_iff, runOn_modifyPrefixes]
  constructor
  · rintro ⟨_, _, ⟨hbefore, rfl⟩, v, u, hpayload, _, _, ⟨map, hmap, rfl⟩, h⟩
    cases h
    exact ⟨hbefore, v, u, hpayload, map, hmap, rfl⟩
  · rintro ⟨hbefore, v, u, hpayload, map, hmap, rfl⟩
    exact ⟨(), s, ⟨hbefore, rfl⟩, v, u, hpayload, (), _, ⟨map, hmap, rfl⟩, rfl⟩

/-- What the rest of an EVEX prefix says, and what it may not follow. -/
theorem runOn_evexPrefix_eq_ok_iff :
    (evexPrefix mode).runOn s = (.ok (), t) ↔
      s.prefixes.faultBefore? .evex = none ∧
        ∃ e u, evexPayload.runOn s = (.ok e, u) ∧ e.fixedFault? = none ∧ e.maskingFault? = none ∧
          ∃ map, vexMap? e.mm = some map ∧
            t = { u with prefixes :=
              PrefixState.addEvex { u.prefixes with encoding := .evex, map := map } mode e } := by
  simp only [evexPrefix, runOn_bind_eq_ok_iff, runOn_checkBefore_eq_ok_iff,
    runOn_checkPrefixes_eq_ok_iff, runOn_selectMap_eq_ok_iff, runOn_modifyPrefixes]
  constructor
  · rintro ⟨_, _, ⟨hbefore, rfl⟩, e, _, hpayload, _, u, ⟨hfixed, rfl⟩, _, _, ⟨map, hmap, rfl⟩,
      _, _, hadd, hmasking, rfl⟩
    cases hadd
    exact ⟨hbefore, e, u, hpayload, hfixed, hmasking, map, hmap, rfl⟩
  · rintro ⟨hbefore, e, u, hpayload, hfixed, hmasking, map, hmap, rfl⟩
    exact ⟨(), s, ⟨hbefore, rfl⟩, e, u, hpayload, (), u, ⟨hfixed, rfl⟩, (), _, ⟨map, hmap, rfl⟩,
      (), _, rfl, hmasking, rfl⟩

end Prefixes

/-! ### Frames -/

/-- What follows an opcode is read in the same way with other prefixes, if they select the same form
and the form makes of them what it made of the others. -/
theorem runOn_frame_of_prefixes {mode : Mode} {data data' : List UInt8} {op : UInt8} {c : Frame}
    {p : PrefixState} {t u : ReadState}
    (hopcode : (opcode mode).runOn { rest := data } = (.ok op, u))
    (hopcode' : (opcode mode).runOn { rest := data' } = (.ok op, { u with prefixes := p }))
    (h : (frame mode).runOn { rest := data } = (.ok c, t))
    (hencoding : p.encoding = u.prefixes.encoding) (hmap : p.map = u.prefixes.map)
    (hlookup : ∀ m, Table.lookup u.prefixes (.known mode) op m = .ok c.form →
      Table.lookup p (.known mode) op m = .ok c.form)
    (hframe : ∀ m, formFrame p mode m c.form =
      formFrame u.prefixes mode m c.form >>= fun c => pure { c with prefixes := p }) :
    (frame mode).runOn { rest := data' } =
      (.ok { c with prefixes := p }, { t with prefixes := p }) := by
  -- The frame is taken apart into what its readers yielded,
  obtain ⟨selected, v, hselector, hrest⟩ := exists_of_runOn_bind_ok h
  obtain ⟨f, w, hform, hformFrame⟩ := exists_of_runOn_bind_ok hrest
  obtain ⟨op', u', hop, hwith⟩ := exists_of_runOn_bind_ok hselector
  cases hopcode.symm.trans hop
  obtain ⟨q, x, hprefixes, hread⟩ := exists_of_runOn_bind_ok hwith
  obtain ⟨m, y, hmodrm, hselected⟩ := exists_of_runOn_bind_ok hread
  cases hprefixes
  cases hselected
  obtain ⟨-, -, -, rfl, -⟩ := (quiet_formFrame ..).ok _ _ _ hformFrame
  have hfound := lookup_of_form hform
  have hcovers : Table.covers u.prefixes.encoding u.prefixes.map := by
    obtain ⟨hmem, hencoding, hmap, -⟩ := Table.lookup_ok hfound
    rw [← hencoding, ← hmap]
    exact Table.covers_of_mem hmem
  cases hform.symm.trans (runOn_form_of_lookup hcovers hfound v)
  -- and these are put together with the other prefixes.
  have hmodrm' : (modrm p op).runOn { u with prefixes := p } =
      (.ok m, { v with prefixes := p }) := by
    have heq : modrm p op = modrm u.prefixes op := by rw [modrm, modrm, hencoding, hmap]
    rw [heq]
    exact (oblivious_modrm u.prefixes op).runOn_of_ok hmodrm p
  have hselector' : (selector mode).runOn { rest := data' } =
      (.ok (p, op, m), { v with prefixes := p }) :=
    runOn_bind_eq_ok_iff.2 ⟨op, _, hopcode', runOn_bind_eq_ok_iff.2 ⟨_, _, rfl,
      runOn_bind_eq_ok_iff.2 ⟨m, _, hmodrm', rfl⟩⟩⟩
  have hform' := runOn_form_of_lookup (p := p) (by rw [hencoding, hmap]; exact hcovers)
    (hlookup m hfound) { v with prefixes := p }
  rw [frame, runOn_bind_of_ok hselector', runOn_bind_of_ok hform', hframe]
  exact runOn_bind_of_ok ((oblivious_formFrame ..).runOn_of_ok hformFrame p)

end Reader

end X86Decoder
