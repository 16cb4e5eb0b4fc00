import X86Decoder.Proofs.Constants.Patch
import X86Decoder.Proofs.Delay.Instruction
import X86Decoder.Proofs.DisplacementUnit
import X86Decoder.Proofs.Oblivious

/-!
# Forms that ignore W

Some forms ignore the W bit of their extended prefix outside 64-bit mode. The other W selects the
same form then, since every form of the slot ignores W too or is told apart by something else, and
all that follows is read in the same way. Only the unit of a displacement may still follow W.

* `PrefixState.flipW`: the prefixes with the other W.
* `Reader.runOn_frame_flipW`: what is read with the other W.
* `Form.displacementUnit_flipW`: the unit of a displacement with the other W.
* `decode_flipW`: what is decoded with the other W.
-/

namespace X86Decoder

/-- The prefixes with the other W. -/
def PrefixState.flipW (p : PrefixState) : PrefixState :=
  { p with w := !p.w }

/-! ### The bit of the prefix -/

/-- The byte with the other top bit. -/
def Bits.flipTop (b : UInt8) : UInt8 :=
  b ^^^ 0x80

/-- The top bit of a byte is in none of its lower fields. -/
theorem Bits.fields_flipTop (b : UInt8) :
    get (flipTop b) 7 = !get b 7 ∧ getRun (flipTop b) 3 0b1111 = getRun b 3 0b1111 ∧
      get (flipTop b) 2 = get b 2 ∧ getRun (flipTop b) 0 0b11 = getRun b 0 0b11 := by
  have hall := of_all_bytes (fun b =>
    decide (get (flipTop b) 7 = !get b 7 ∧ getRun (flipTop b) 3 0b1111 = getRun b 3 0b1111 ∧
      get (flipTop b) 2 = get b 2 ∧ getRun (flipTop b) 0 0b11 = getRun b 0 0b11)) (by decide)
  exact of_decide_eq_true (hall b)

/-- The prefix with the other W. -/
def Vex.flipW (v : Vex) : Vex :=
  { v with p1 := Bits.flipTop v.p1 }

/-- The prefix with the other W. -/
def Evex.flipW (e : Evex) : Evex :=
  { e with p1 := Bits.flipTop e.p1 }

theorem PrefixState.addVex_flipW (p : PrefixState) (mode : Mode) (v : Vex) :
    p.addVex mode v.flipW = (p.addVex mode v).flipW := by
  obtain ⟨hw, hvvvv, hl, hpp⟩ := Bits.fields_flipTop v.p1
  simp only [addVex, flipW, Vex.flipW, Vex.r, Vex.x, Vex.b, Vex.w, Vex.vvvv, Vex.l, Vex.pp, hw,
    hvvvv, hl, hpp]

theorem PrefixState.addEvex_flipW (p : PrefixState) (mode : Mode) (e : Evex) :
    p.addEvex mode e.flipW = (p.addEvex mode e).flipW := by
  obtain ⟨hw, hvvvv, -, hpp⟩ := Bits.fields_flipTop e.p1
  have hw : e.flipW.w = !e.w := hw
  have hvvvv : e.flipW.vvvv = e.vvvv := hvvvv
  have hpp : e.flipW.pp = e.pp := hpp
  rw [addEvex, addEvex, hw, hvvvv, hpp]
  rfl

theorem Evex.fixedFault?_flipW (e : Evex) : e.flipW.fixedFault? = e.fixedFault? := by
  have hon : e.flipW.on = e.on := (Bits.fields_flipTop e.p1).2.2.1
  rw [fixedFault?, fixedFault?, hon]
  rfl

/-! ### The opcode -/

namespace Reader

section Opcode

variable {mode : Mode} {encoding : EncodingKind} {map? : UInt8 → Option OpcodeMap} {p0 p1 : UInt8}
  {rest : List UInt8} {s t : ReadState}

/-- With the other W the rest of a VEX or XOP prefix ends in the same place. -/
theorem runOn_vexLikePrefix_flipW (hrest : s.rest = p0 :: p1 :: rest)
    (h : (vexLikePrefix encoding map? mode false).runOn s = (.ok (), t)) :
    t.prefixes.w = Bits.get p1 7 ∧
      (vexLikePrefix encoding map? mode false).runOn
          { s with rest := p0 :: Bits.flipTop p1 :: rest } =
        (.ok (), { t with prefixes := t.prefixes.flipW }) := by
  obtain ⟨hbefore, v, u, hpayload, map, hmap, rfl⟩ := runOn_vexLikePrefix_eq_ok_iff.1 h
  obtain ⟨hv, hpayload'⟩ := takes_vexPayload.runOn_replace [p0, p1]
    [p0, Bits.flipTop p1] hrest rfl rfl hpayload rfl
  cases hv
  refine ⟨rfl, runOn_vexLikePrefix_eq_ok_iff.2
    ⟨hbefore, Vex.flipW ⟨p0, p1⟩, u, hpayload', map, hmap, ?_⟩⟩
  rw [PrefixState.addVex_flipW]

/-- With the other W the rest of an EVEX prefix ends in the same place. -/
theorem runOn_evexPrefix_flipW (hrest : s.rest = p0 :: p1 :: rest)
    (h : (evexPrefix mode).runOn s = (.ok (), t)) :
    t.prefixes.w = Bits.get p1 7 ∧
      (evexPrefix mode).runOn { s with rest := p0 :: Bits.flipTop p1 :: rest } =
        (.ok (), { t with prefixes := t.prefixes.flipW }) := by
  obtain ⟨hbefore, e, u, hpayload, hfixed, hmasking, map, hmap, rfl⟩ :=
    runOn_evexPrefix_eq_ok_iff.1 h
  -- The payload has a third byte, since it could be read.
  obtain ⟨p2, rest, rfl⟩ : ∃ p2 rest', rest = p2 :: rest' := by
    have hlength := ((takes_evexPayload.runOn_iff _ _ _).1 hpayload).1.1
    rw [hrest, List.length_cons, List.length_cons] at hlength
    exact List.exists_cons_of_length_pos (by omega)
  obtain ⟨he, hpayload'⟩ := takes_evexPayload.runOn_replace [p0, p1, p2]
    [p0, Bits.flipTop p1, p2] hrest rfl rfl hpayload rfl
  cases he
  refine ⟨rfl, runOn_evexPrefix_eq_ok_iff.2 ⟨hbefore, Evex.flipW ⟨p0, p1, p2⟩, u, hpayload',
    ?_, hmasking, map, hmap, ?_⟩⟩
  · rw [Evex.fixedFault?_flipW]
    exact hfixed
  · rw [PrefixState.addEvex_flipW]

/-- The opcode behind a prefix with the other W. -/
theorem runOn_extendedOpcode_flipW {b op : UInt8} {test : UInt8 → Bool} {reader : Reader Unit}
    (hreader : ∀ t, reader.runOn s = (.ok (), t) →
      t.prefixes.w = Bits.get p1 7 ∧
        reader.runOn { s with rest := p0 :: Bits.flipTop p1 :: rest } =
          (.ok (), { t with prefixes := t.prefixes.flipW }))
    (hrest : s.rest = p0 :: p1 :: rest) (hencoding : s.prefixes.encoding = .legacy)
    (h : (extendedOpcode b (nextIs test) reader).runOn s = (.ok op, t))
    (ht : t.prefixes.encoding ≠ .legacy) :
    t.prefixes.w = Bits.get p1 7 ∧
      (extendedOpcode b (nextIs test) reader).runOn
          { s with rest := p0 :: Bits.flipTop p1 :: rest } =
        (.ok op, { t with prefixes := t.prefixes.flipW }) := by
  -- Whether there is an extended prefix goes by the byte before that with W.
  obtain ⟨extended, hnext⟩ : ∃ extended, ∀ p1,
      (nextIs test).runOn { s with rest := p0 :: p1 :: rest } =
        (.ok extended, { s with rest := p0 :: p1 :: rest }) :=
    ⟨(if maxLength ≤ s.consumed then none else some p0).any test, fun p1 => runOn_nextIs test _⟩
  have hself : { s with rest := p0 :: p1 :: rest } = s := by rw [← hrest]
  rw [extendedOpcode, runOn_bind_of_ok (hself ▸ hnext p1)] at h
  rw [extendedOpcode, runOn_bind_of_ok (hnext _)]
  cases extended with
  | false =>
    -- The byte was an opcode, so there is no extended prefix.
    cases h
    exact absurd hencoding ht
  | true =>
    obtain ⟨_, u, hprefix, hbyte⟩ := exists_of_runOn_bind_ok h
    obtain ⟨hw, hprefix'⟩ := hreader u hprefix
    have hprefixes : t.prefixes = u.prefixes := (quiet_byte.agree_of_runOn hbyte).prefixes
    rw [hprefixes, if_pos rfl, runOn_bind_of_ok hprefix']
    exact ⟨hw, oblivious_byte.runOn_of_ok hbyte u.prefixes.flipW⟩

/-- The opcode of an instruction whose prefix has the other W. -/
theorem runOn_opcode_flipW {run : List UInt8} {b op : UInt8} (hmode : mode ≠ .bits64)
    (hrun : run.all (isPrefixByte mode)) (hlength : run.length < maxLength)
    (hb : b ∈ [0xc4, 0x8f, 0x62])
    (h : (opcode mode).runOn { rest := run ++ b :: p0 :: p1 :: rest } = (.ok op, t))
    (ht : t.prefixes.encoding ≠ .legacy) :
    t.prefixes.w = Bits.get p1 7 ∧
      (opcode mode).runOn { rest := run ++ b :: p0 :: Bits.flipTop p1 :: rest } =
        (.ok op, { t with prefixes := t.prefixes.flipW }) := by
  have hcases : b = 0xc4 ∨ b = 0x8f ∨ b = 0x62 := by simpa using hb
  have hnone : isPrefixByte mode b = false := by
    rcases hcases with rfl | rfl | rfl <;> cases mode <;> rfl
  have hstarts : startsExtended mode = nextIs fun b => (ModRM.mk b).isRegister := if_neg hmode
  rw [runOn_opcode_run hrun hlength hnone] at h ⊢
  rcases hcases with rfl | rfl | rfl
  · have heq : opcodeFrom mode 0xc4 =
        extendedOpcode 0xc4 (startsExtended mode) (vexPrefix mode false) := rfl
    rw [heq, hstarts] at h ⊢
    exact runOn_extendedOpcode_flipW (fun _ => runOn_vexLikePrefix_flipW rfl) rfl rfl h ht
  · have heq : opcodeFrom mode 0x8f = extendedOpcode 0x8f startsXop (xopPrefix mode) := rfl
    rw [heq] at h ⊢
    exact runOn_extendedOpcode_flipW (fun _ => runOn_vexLikePrefix_flipW rfl) rfl rfl h ht
  · have heq : opcodeFrom mode 0x62 =
        extendedOpcode 0x62 (startsExtended mode) (evexPrefix mode) := rfl
    rw [heq, hstarts] at h ⊢
    exact runOn_extendedOpcode_flipW (fun _ => runOn_evexPrefix_flipW rfl) rfl rfl h ht

end Opcode

end Reader

/-! ### The form -/

/-- What the table says about the forms that ignore W and about those beside them. -/
theorem Table.coherent_of_wig32 {f : Form} (hf : f ∈ forms) (hwig : f.has .wig32) :
    (f.scale.tuple.isScalar ∨ f.scale.tuple = .none) ∧
      ∀ g ∈ slot f.encoding f.map f.opcode, g.ignoresW ∨ f.excludes g := by
  obtain ⟨fs, hcoherent, hslot⟩ := exists_isCoherent hf
  have hrest := (Bool.and_eq_true_iff.1 hcoherent).2
  rw [hwig, Bool.not_true, Bool.false_or, Bool.and_eq_true, Bool.or_eq_true,
    decide_eq_true_iff] at hrest
  refine ⟨hrest.1, fun g hg => ?_⟩
  obtain ⟨-, hencoding, -, hopcode⟩ := mem_slot_iff.1 hg
  simpa [hencoding, hopcode] using List.all_eq_true.1 hrest.2 g (hslot g hg)

namespace Form

variable {f g : Form} {p : PrefixState} {mode : Mode} {m : ModRM}

/-- A form that ignores W has no demand that depends on it. -/
theorem extendedMismatch_flipW (h : g.ignoresW) (hmode : mode ≠ .bits64) :
    g.extendedMismatch g.constraint.extendedPart p.flipW mode m =
      g.extendedMismatch g.constraint.extendedPart p mode m := by
  have hallows : ∀ w, (g.constraint.extendedPart.w.allows w ||
      (g.has .wig32 && mode != .bits64)) = true := by
    intro w
    rw [ignoresW, Bool.or_eq_true] at h
    rcases h with hwig | hany
    · simp [hwig, hmode]
    · split at hany
      · rename_i hw
        rw [hw]
        rfl
      · cases hany
  rw [extendedMismatch, extendedMismatch, hallows, hallows]
  rfl

/-- Behind the form of an instruction that ignores W, no form of its slot matches by W. -/
theorem mismatch_flipW (hf : f ∈ Table.forms) (hwig : f.has .wig32) (hmode : mode ≠ .bits64)
    (hencoding : f.encoding ≠ .legacy) (hmatch : f.mismatch p (.known mode) m = none)
    (hg : g ∈ Table.slot f.encoding f.map f.opcode) :
    g.mismatch p.flipW (.known mode) m = g.mismatch p (.known mode) m := by
  have hgExtended : g.encoding ≠ .legacy := by rwa [(Table.mem_slot_iff.1 hg).2.1]
  rw [mismatch, Option.orElse_eq_none, Option.orElse_eq_none,
    prefixMismatch_of_ne_legacy hencoding, extendedMismatch_eq_none_iff] at hmatch
  obtain ⟨-, ⟨hmandatory, -⟩, -⟩ := hmatch
  rw [mismatch, mismatch, prefixMismatch_of_ne_legacy hgExtended,
    prefixMismatch_of_ne_legacy hgExtended]
  -- The other form ignores W too, or something else keeps it from matching, whatever W is.
  rcases (Table.coherent_of_wig32 hf hwig).2 g hg with hignores | hexcludes
  · rw [extendedMismatch_flipW hignores hmode]
  · rw [excludes, Bool.or_eq_true] at hexcludes
    rcases hexcludes with hother | hmodes
    · -- The mandatory prefix has to be that of the form, so it is not that of the other.
      have hother : (p.mandatory == g.constraint.extendedPart.mandatory) = false := by
        rw [hmandatory]
        exact beq_eq_false_iff_ne.2 (of_decide_eq_true hother).symm
      have hsome : ∀ q : PrefixState, q.mandatory = p.mandatory →
          g.extendedMismatch g.constraint.extendedPart q mode m = some .mandatory := by
        intro q hq
        rw [extendedMismatch, hq, hother]
        rfl
      rw [hsome p.flipW rfl, hsome p rfl]
    · have hmode : g.modes.has mode = false := by
        rw [Bool.not_eq_true', Bool.or_eq_false_iff] at hmodes
        cases mode with
        | bits16 => exact hmodes.1
        | bits32 => exact hmodes.2
        | bits64 => exact absurd rfl hmode
      rw [hmode]
      rfl

end Form

/-- The other W selects the same form. -/
theorem Table.lookup_flipW {p : PrefixState} {mode : Mode} {op : UInt8} {m : ModRM} {f : Form}
    (h : lookup p (.known mode) op m = .ok f) (hwig : f.has .wig32) (hmode : mode ≠ .bits64)
    (hencoding : p.encoding ≠ .legacy) : lookup p.flipW (.known mode) op m = .ok f := by
  obtain ⟨hf, hfEncoding, hfMap, hfOpcode, hmatch⟩ := lookup_ok h
  rw [← h, lookup, lookup]
  have hfirst : firstMatch p.flipW (.known mode) m (slot p.encoding p.map op) none =
      firstMatch p (.known mode) m (slot p.encoding p.map op) none := by
    refine firstMatch_congr (fun g hg => ?_) none
    rw [← hfEncoding, ← hfMap, ← hfOpcode] at hg
    exact Form.mismatch_flipW hf hwig hmode (by rwa [hfEncoding]) hmatch hg
  have hslot : slot p.flipW.encoding p.flipW.map op = slot p.encoding p.map op := rfl
  rw [hslot, hfirst]
  rfl

/-! ### The frame -/

/-- The frame with the other W. -/
def Frame.flipW (c : Frame) : Frame :=
  { c with prefixes := c.prefixes.flipW }

namespace Reader

variable {mode : Mode} {data data' : List UInt8} {op : UInt8} {c : Frame} {t u : ReadState}

theorem formFrame_flipW (p : PrefixState) (mode : Mode) (m : ModRM) (f : Form) :
    formFrame p.flipW mode m f =
      formFrame p mode m f >>= fun c => pure { c with prefixes := p.flipW } := by
  rw [formFrame, formFrame, bind_assoc]
  -- Neither the checks of the form nor the address go by W.
  refine bind_congr fun _ => ?_
  rw [bind_assoc]
  rfl

/-- The rest of a frame behind an opcode whose prefix has the other W. -/
theorem runOn_frame_flipW (hopcode : (opcode mode).runOn { rest := data } = (.ok op, u))
    (hopcode' : (opcode mode).runOn { rest := data' } =
      (.ok op, { u with prefixes := u.prefixes.flipW }))
    (h : (frame mode).runOn { rest := data } = (.ok c, t)) (hprefixes : c.prefixes = u.prefixes)
    (hwig : c.form.has .wig32) (hmode : mode ≠ .bits64)
    (hencoding : u.prefixes.encoding ≠ .legacy) :
    (frame mode).runOn { rest := data' } =
      (.ok c.flipW, { t with prefixes := u.prefixes.flipW }) := by
  rw [Frame.flipW, hprefixes]
  refine runOn_frame_of_prefixes hopcode hopcode' h rfl rfl ?_ ?_
  · exact fun m hlookup => Table.lookup_flipW hlookup hwig hmode hencoding
  · exact fun m => formFrame_flipW u.prefixes mode m c.form

end Reader

/-! ### The unit of the displacement -/

theorem Tuple.unit_of_isScalar {tuple : Tuple} (h : tuple.isScalar) (vectorBits elementSize : Int)
    (w broadcast : Bool) :
    tuple.unit vectorBits elementSize w broadcast =
      if elementSize = 0 then if w then 8 else 4 else elementSize := by
  cases tuple <;> first | rfl | cases h

namespace Form

variable {f : Form} {p : PrefixState}

theorem displacementUnit_of_scalesByW (h : f.scalesByW) (hencoding : f.encoding = p.encoding) :
    f.displacementUnit p = if p.w then 8 else 4 := by
  rw [scalesByW, Bool.and_eq_true, Bool.and_eq_true, decide_eq_true_iff, isEvex_iff] at h
  obtain ⟨⟨hevex, hscalar⟩, hsize⟩ := h
  rw [displacementUnit, if_pos (hencoding.symm.trans hevex), Tuple.unit_of_isScalar hscalar,
    if_pos hsize]

/-- Of the forms that ignore W, no others have a unit that follows it. -/
theorem displacementUnit_flipW (hf : f ∈ Table.forms) (hwig : f.has .wig32)
    (hencoding : f.encoding = p.encoding) (h : f.scalesByW = false) :
    f.displacementUnit p.flipW = f.displacementUnit p := by
  by_cases hevex : p.encoding = .evex
  · have hevex' : p.flipW.encoding = .evex := hevex
    rw [displacementUnit, displacementUnit, if_pos hevex, if_pos hevex']
    rcases (Table.coherent_of_wig32 hf hwig).1 with hscalar | hnone
    · have hsize : f.scale.elementSize ≠ 0 := by
        simpa [scalesByW, isEvex_iff.2 (hencoding.trans hevex), hscalar] using h
      rw [Tuple.unit_of_isScalar hscalar, Tuple.unit_of_isScalar hscalar, if_neg hsize,
        if_neg hsize]
    · rw [hnone, Tuple.unit, Tuple.unit]
  · have hevex' : p.flipW.encoding ≠ .evex := hevex
    rw [displacementUnit, displacementUnit, if_neg hevex, if_neg hevex']

end Form

namespace Frame

variable {c : Frame} {draft : Draft} {start : Nat} {bs : List UInt8}

/-- No operand depends on W. -/
theorem settleAll_flipW (os : List FormOperand) :
    c.flipW.settleAll os draft start bs = c.settleAll os draft start bs := by
  induction os generalizing draft start bs with
  | nil => rfl
  | cons o os ih =>
    rw [settleAll, settleAll]
    refine if_congr Iff.rfl rfl ?_
    exact Option.bind_congr fun next _ => ih

/-- With the other W only the displacement may differ. -/
theorem exists_settled_flipW (hc : c.Regular) (h : c.settled start bs = some draft) :
    ∃ v, c.flipW.settled start bs = some (draft.setDisplacement v) ∧
      (c.form.displacementUnit c.prefixes.flipW = c.form.displacementUnit c.prefixes ∨
          draft.constants.displacement.size ≠ 1 → v = draft.memory.displacement) := by
  cases haddress : c.address with
  | none =>
    -- Without an address there is nothing to count.
    refine ⟨draft.memory.displacement, ?_, fun _ => rfl⟩
    have hopening : c.flipW.opening start (bs.take c.displacementSize) =
        c.opening start (bs.take c.displacementSize) := by
      rw [opening, opening, flipW, haddress]
    calc c.flipW.settled start bs
        = c.settleAll c.form.operands (c.flipW.opening start (bs.take c.displacementSize))
            (start + c.displacementSize) (bs.drop c.displacementSize) := settleAll_flipW _
      _ = c.settled start bs := by rw [hopening, settled]
      _ = some draft := h
  | some a =>
    -- The displacement is there before the operands, and none of them looks at it.
    obtain ⟨hmemory, hspan⟩ := memory_of_settled hc h haddress
    have hmoffs : ∀ o ∈ c.form.operands, o.spec.isMoffs = false :=
      fun o ho => isMoffs_eq_false hc haddress ho
    refine ⟨c.flipW.displacement a.size (bs.take c.displacementSize), ?_, fun hunit => ?_⟩
    · have hopening : c.flipW.opening start (bs.take c.displacementSize) =
          (c.opening start (bs.take c.displacementSize)).setDisplacement
            (c.flipW.displacement a.size (bs.take c.displacementSize)) := by
        rw [opening, opening, flipW, haddress]
        rfl
      calc c.flipW.settled start bs
          = c.settleAll c.form.operands (c.flipW.opening start (bs.take c.displacementSize))
              (start + c.displacementSize) (bs.drop c.displacementSize) := settleAll_flipW _
        _ = (c.settled start bs).map _ := by
            rw [hopening]
            exact settleAll_map (Draft.unnoticed_setDisplacement hmoffs _) (Nat.zero_le _)
        _ = _ := by rw [h, Option.map_some]
    · have hdisplacement : draft.memory.displacement =
          c.displacement a.size (bs.take c.displacementSize) := by
        simpa only [MemoryReference.unsegmented, opening, haddress] using
          congrArg MemoryReference.displacement hmemory
      have hunits : (if a.size = 1 then c.form.displacementUnit c.prefixes.flipW else 1) =
          if a.size = 1 then c.form.displacementUnit c.prefixes else 1 := by
        rcases hunit with hunit | hsize
        · rw [hunit]
        · rw [hspan, Span.size_starting] at hsize
          rw [if_neg hsize, if_neg hsize]
      rw [hdisplacement, displacement, displacement]
      refine if_congr Iff.rfl rfl ?_
      exact congrArg (fun unit => Word.truncate c.width.bits (UInt64.ofInt
        (Word.signed (8 * a.size) (Reader.word (bs.take c.displacementSize)) * unit))) hunits

/-- A displacement of one byte whose unit follows W, with either W. -/
theorem exists_displacements_of_scalesByW {mode : Mode} {data data' : List UInt8} {p : PrefixState}
    {t : ReadState} {draft' : Draft}
    (hframe : (Reader.frame mode).runOn { rest := data } = (.ok c, t)) (hroom : t.Room c.size)
    (hdraft : c.settled t.consumed (t.rest.take c.size) = some draft)
    (hframe' : (Reader.frame mode).runOn { rest := data' } =
      (.ok c.flipW, { t with prefixes := p }))
    (hdraft' : c.flipW.settled t.consumed (t.rest.take c.size) = some draft')
    (hscales : c.form.scalesByW) (hencoding : c.form.encoding = c.prefixes.encoding)
    (hsize : draft.constants.displacement.size = 1) (ip : UInt64) :
    ∃ d, data[draft.constants.displacement.offset]? = some d ∧
      ((c.instruction ip t.consumed draft).memory.displacement.toNat : Int) =
        d.toInt8.toInt * (if c.prefixes.w then 8 else 4) % (Nat.pow 2 c.width.bits : Nat) ∧
      ((c.flipW.instruction ip t.consumed draft').memory.displacement.toNat : Int) =
        d.toInt8.toInt * (if c.prefixes.w then 4 else 8) % (Nat.pow 2 c.width.bits : Nat) := by
  have hevex : c.prefixes.encoding = .evex := by
    rw [Form.scalesByW, Bool.and_eq_true, Bool.and_eq_true, Form.isEvex_iff] at hscales
    exact hencoding.symm.trans hscales.1.1
  obtain ⟨a, haddress, ha⟩ := exists_address_of_evex hframe hroom hdraft hevex hsize
  obtain ⟨hspan, d, hd, hdisplacement⟩ :=
    exists_displacement_byte hframe hroom hdraft haddress ha ip
  obtain ⟨-, d', hd', hdisplacement'⟩ :=
    exists_displacement_byte hframe' hroom hdraft' haddress ha ip
  -- Both frames end in the same place, and what follows starts with the displacement.
  have hhead : t.rest.head? = some d := by
    rw [Reader.rest_of_runOn_frame hframe, List.head?_drop, hd]
  have hhead' : t.rest.head? = some d' :=
    (congrArg List.head? (Reader.rest_of_runOn_frame hframe')).trans (List.head?_drop.trans hd')
  obtain rfl : d = d' := Option.some.inj (hhead.symm.trans hhead')
  refine ⟨d, by rw [hspan, hd], ?_, ?_⟩
  · rw [hdisplacement, Form.displacementUnit_of_scalesByW hscales hencoding]
  · have hunit : c.form.displacementUnit c.prefixes.flipW = if c.prefixes.w then 4 else 8 := by
      rw [Form.displacementUnit_of_scalesByW (p := c.prefixes.flipW) hscales hencoding,
        PrefixState.flipW]
      cases c.prefixes.w <;> rfl
    rw [← hunit]
    exact hdisplacement'

end Frame

/-! ### Instructions -/

/-- Outside 64-bit mode, an instruction with a form that ignores W is decoded with the other W too,
and it is the same instruction up to its displacement. The displacement is the same as well, unless
it has one byte and its unit follows W: then that byte is counted in 8 where it was counted in 4, or
in 4 where it was counted in 8. -/
theorem decode_flipW {mode : Mode} {data run : List UInt8} {b p0 p1 : UInt8} {rest : List UInt8}
    {ip : UInt64} {inst : Instruction} {f : Form} (hmode : mode ≠ .bits64)
    (hdata : data = run ++ b :: p0 :: p1 :: rest) (hrun : run.all (isPrefixByte mode) = true)
    (hb : b ∈ [0xc4, 0x8f, 0x62]) (h : (decode mode data ip).outcome = .ok inst)
    (hencoding : inst.encoding ≠ .legacy) (hform : Table.form? inst.code = some f)
    (hwig : f.has .wig32 = true) :
    ∃ v, (decode mode (run ++ b :: p0 :: Bits.flipTop p1 :: rest) ip).outcome =
        .ok { inst with memory := { inst.memory with displacement := v } } ∧
      (f.scalesByW = false ∨ inst.constants.displacement.size ≠ 1 →
        v = inst.memory.displacement) ∧
      (f.scalesByW = true → inst.constants.displacement.size = 1 →
        ∃ d, data[inst.constants.displacement.offset]? = some d ∧
          (inst.memory.displacement.toNat : Int) =
            d.toInt8.toInt * (if Bits.get p1 7 then 8 else 4) %
              (Nat.pow 2 ((decode mode data ip).prefixes.addressSize mode).bits : Nat) ∧
          (v.toNat : Int) =
            d.toInt8.toInt * (if Bits.get p1 7 then 4 else 8) %
              (Nat.pow 2 ((decode mode data ip).prefixes.addressSize mode).bits : Nat)) := by
  subst hdata
  have hlength : run.length < maxLength := by
    refine Nat.lt_of_not_le fun hle => ?_
    rw [decode_run_of_le hrun hle] at h
    cases h
  obtain ⟨c, t, hframe, hroom, draft, hdraft, rfl⟩ := decode_eq_ok_iff.1 h
  rw [Reader.prefixes_of_runOn_frame hframe]
  obtain ⟨hregular, rfl, -⟩ := Reader.regular_of_runOn_frame hframe
  obtain rfl : c.form = f :=
    Option.some.inj ((Table.form?_code hregular.mem_forms).symm.trans hform)
  obtain ⟨_, hlookup⟩ := hregular.lookup
  obtain ⟨hmem, hformEncoding, -⟩ := Table.lookup_ok hlookup
  -- The frame with the other W is read to the same place.
  obtain ⟨op, u, -, -, -, hopcode, hprefixes, -⟩ := Reader.exists_opcode_of_runOn_frame hframe
  have hextended : u.prefixes.encoding ≠ .legacy := hprefixes ▸ hencoding
  obtain ⟨hw, hopcode'⟩ := Reader.runOn_opcode_flipW hmode hrun hlength hb hopcode hextended
  have hframe' := Reader.runOn_frame_flipW hopcode hopcode' hframe hprefixes hwig hmode
    hextended
  obtain ⟨v, hdraft', hsame⟩ := Frame.exists_settled_flipW hregular hdraft
  have hdecode' : (decode c.mode (run ++ b :: p0 :: Bits.flipTop p1 :: rest) ip).outcome =
      .ok (c.flipW.instruction ip t.consumed (draft.setDisplacement v)) :=
    decode_eq_ok_iff.2 ⟨c.flipW, _, hframe', hroom, _, hdraft', rfl⟩
  have hinst : c.flipW.instruction ip t.consumed (draft.setDisplacement v) = _ :=
    Frame.instruction_setDisplacement v
  refine ⟨_, hdecode'.trans (congrArg _ hinst), fun hkeeps => ?_, fun hscales hsize => ?_⟩
  · have hv : v = draft.memory.displacement :=
      hsame (hkeeps.imp_left (Form.displacementUnit_flipW hmem hwig hformEncoding))
    rw [hv]
    rfl
  · have hw : c.prefixes.w = Bits.get p1 7 := by rw [hprefixes, hw]
    rw [← hw]
    exact Frame.exists_displacements_of_scalesByW hframe hroom hdraft hframe' hdraft' hscales
      hformEncoding hsize ip

theorem decode_flipW_vmovd :
    ∃ f, Table.form? vmovd.code = some f ∧ f.has .wig32 ∧ f.scalesByW ∧
      ∃ v, (decode .bits32 [0x62, 0xf1, 0xfd, 0x08, 0x6e, 0x40, 0x01] 0).outcome =
          .ok { vmovd with memory := { vmovd.memory with displacement := v } } ∧
        (vmovd.memory.displacement.toNat : Int) = 1 * 4 % (Nat.pow 2 32 : Nat) ∧
        (v.toNat : Int) = 1 * 8 % (Nat.pow 2 32 : Nat) := by
  obtain ⟨-, -, hdecode, -, f, hform, hwig, hscales⟩ := decode_vaddps_vmovd
  obtain ⟨v, hflipped, -, hcounts⟩ :=
    @decode_flipW .bits32 _ [] 0x62 0xf1 0x7d [0x08, 0x6e, 0x40, 0x01] 0 vmovd f (by decide) rfl rfl
      (by decide) hdecode (by decide) hform hwig
  obtain ⟨d, hd, hclear, hset⟩ := hcounts hscales rfl
  cases hd
  rw [prefixes_decode] at hclear hset
  exact ⟨f, hform, hwig, hscales, v, hflipped, hclear, hset⟩

/-- Not every instruction with a form that ignores W outside 64-bit mode is the same with the other
W there. -/
theorem exists_decode_flipW_ne :
    ∃ f, Table.form? vmovd.code = some f ∧ f.has .wig32 ∧
      (decode .bits32 ([] ++ 0x62 :: 0xf1 :: 0x7d :: [0x08, 0x6e, 0x40, 0x01]) 0).outcome =
        .ok vmovd ∧
      (decode .bits32 ([] ++ 0x62 :: 0xf1 :: Bits.flipTop 0x7d :: [0x08, 0x6e, 0x40, 0x01])
        0).outcome ≠ .ok vmovd := by
  obtain ⟨-, -, hclear, hset, f, hform, hwig, -⟩ := decode_vaddps_vmovd
  refine ⟨f, hform, hwig, hclear, fun h => ?_⟩
  have heq := Except.ok.inj (hset.symm.trans h)
  exact absurd (congrArg (fun inst => inst.memory.displacement) heq) (by decide)

end X86Decoder
