import X86Decoder.Proofs.Delay.Instruction
import X86Decoder.Proofs.DisplacementUnit
import X86Decoder.Proofs.EffectiveAddress
import X86Decoder.Proofs.Oblivious

/-!
# The length field as a rounding mode

Under an EVEX prefix with b set and between registers, the two bits of the vector length do not say
how long vectors are. The form is looked up as if they said 512 bits, nothing else that is read goes
by them, and they come out as the rounding mode of an instruction that has one.

So two instructions that differ in these bits fail alike or are the same but for the rounding mode.

* `Reader.Alike`: two runs that fail alike or succeed with related results.
* `PrefixState.withLength`: the prefixes with another length field.
* `Reader.alike_opcode`: the opcodes behind prefixes that differ in the length field.
* `Table.lookup_withLength`, `Reader.formBody_withLength`: nothing else goes by the field.
* `decode_rounding`: what is decoded with another length field.
-/

namespace X86Decoder

namespace Reader

/-! ### Runs that end alike -/

variable {α β γ δ : Type}

/-- Two runs that both succeed, with results and states in the given relation, or that fail with the
same fault after as many bytes. -/
inductive Alike (Q : α → β → ReadState → ReadState → Prop) :
    Except DecodeFault α × ReadState → Except DecodeFault β × ReadState → Prop
  | ok {a : α} {b : β} {s t : ReadState} (h : Q a b s t) : Alike Q (.ok a, s) (.ok b, t)
  | error {fault : DecodeFault} {s t : ReadState} (h : s.consumed = t.consumed) :
    Alike Q (.error fault, s) (.error fault, t)

namespace Alike

variable {s t : ReadState}

theorem bind {P : α → β → ReadState → ReadState → Prop} {Q : γ → δ → ReadState → ReadState → Prop}
    {m : Reader α} {n : Reader β} {f : α → Reader γ} {g : β → Reader δ}
    (h : Alike P (m.runOn s) (n.runOn t))
    (hnext : ∀ a b u v, P a b u v → Alike Q ((f a).runOn u) ((g b).runOn v)) :
    Alike Q ((m >>= f).runOn s) ((n >>= g).runOn t) := by
  generalize hs : m.runOn s = r at h
  generalize ht : n.runOn t = r' at h
  cases h with
  | ok h =>
    rw [runOn_bind_of_ok hs, runOn_bind_of_ok ht]
    exact hnext _ _ _ _ h
  | error h =>
    rw [runOn_bind_of_error hs, runOn_bind_of_error ht]
    exact .error h

theorem mono {P Q : α → β → ReadState → ReadState → Prop}
    {r : Except DecodeFault α × ReadState} {r' : Except DecodeFault β × ReadState}
    (h : Alike P r r') (hPQ : ∀ a b u v, P a b u v → Q a b u v) : Alike Q r r' := by
  cases h with
  | ok h => exact .ok (hPQ _ _ _ _ h)
  | error h => exact .error h

/-- A run is like itself. -/
theorem self (m : Reader α) (s : ReadState) :
    Alike (fun a b u v => a = b ∧ u = v ∧ m.runOn s = (.ok a, u)) (m.runOn s) (m.runOn s) := by
  rcases m.runOn s with ⟨fault | a, u⟩
  · exact .error rfl
  · exact .ok ⟨rfl, rfl, rfl⟩

end Alike

/-- With other prefixes a reader that does not look at them runs alike. -/
theorem Oblivious.alike {m : Reader α} (hm : m.Oblivious) (s : ReadState) (p : PrefixState) :
    Alike (fun a b u v => a = b ∧ v = { u with prefixes := p } ∧ m.runOn s = (.ok a, u))
      (m.runOn s) (m.runOn { s with prefixes := p }) := by
  have heq := hm.runOn_eq s p
  rcases h : m.runOn s with ⟨fault | a, u⟩ <;> rw [heq, h]
  · exact .error rfl
  · exact .ok ⟨rfl, rfl, rfl⟩

/-- One byte of each. -/
theorem alike_byte {s t : ReadState} {b b' : UInt8} {rest rest' : List UInt8}
    (hs : s.rest = b :: rest) (ht : t.rest = b' :: rest') (h : s.consumed = t.consumed) :
    Alike (fun a a' u v => a = b ∧ a' = b' ∧
        u = { s with rest := rest, consumed := s.consumed + 1 } ∧
        v = { t with rest := rest', consumed := t.consumed + 1 })
      (byte.runOn s) (byte.runOn t) := by
  rw [runOn_byte, runOn_byte, hs, ht, ← h]
  split
  · exact .error h
  · exact .ok ⟨rfl, rfl, rfl, rfl⟩

end Reader

/-! ### The prefix -/

/-- The prefixes with another length field. -/
def PrefixState.withLength (p : PrefixState) (l : UInt8) : PrefixState :=
  { p with l := l, ll := l }

/-- The byte without the bits of the length field. -/
def Evex.unsized (p2 : UInt8) : UInt8 :=
  p2 &&& 0b10011111

namespace Evex

variable {p2 p2' : UInt8}

theorem fields_of_unsized (h : unsized p2' = unsized p2) (p0 p1 : UInt8) :
    (mk p0 p1 p2').z = (mk p0 p1 p2).z ∧ (mk p0 p1 p2').broadcast = (mk p0 p1 p2).broadcast ∧
      (mk p0 p1 p2').vHigh = (mk p0 p1 p2).vHigh ∧ (mk p0 p1 p2').aaa = (mk p0 p1 p2).aaa := by
  have hall := Bits.of_all_bytes (fun b =>
    decide (Bits.get b 7 = Bits.get (unsized b) 7 ∧ Bits.get b 4 = Bits.get (unsized b) 4 ∧
      Bits.get b 3 = Bits.get (unsized b) 3 ∧
      Bits.getRun b 0 0b111 = Bits.getRun (unsized b) 0 0b111)) (by decide)
  obtain ⟨hz, hb, hv, ha⟩ := of_decide_eq_true (hall p2)
  obtain ⟨hz', hb', hv', ha'⟩ := of_decide_eq_true (hall p2')
  rw [h] at hz' hb' hv' ha'
  exact ⟨hz'.trans hz.symm, hb'.trans hb.symm, hv'.trans hv.symm, ha'.trans ha.symm⟩

theorem maskingFault?_of_unsized (h : unsized p2' = unsized p2) (p0 p1 : UInt8) :
    (mk p0 p1 p2').maskingFault? = (mk p0 p1 p2).maskingFault? := by
  obtain ⟨hz, -, -, ha⟩ := fields_of_unsized h p0 p1
  rw [maskingFault?, maskingFault?, hz, ha]

theorem addEvex_of_unsized (h : unsized p2' = unsized p2) (p0 p1 : UInt8) (p : PrefixState)
    (mode : Mode) :
    p.addEvex mode ⟨p0, p1, p2'⟩ = (p.addEvex mode ⟨p0, p1, p2⟩).withLength (mk p0 p1 p2').ll := by
  obtain ⟨hz, hb, hv, ha⟩ := fields_of_unsized h p0 p1
  rw [PrefixState.addEvex, PrefixState.addEvex, hz, hb, hv, ha]
  rfl

end Evex

namespace Reader

/-- Behind a prefix with b set the same bytes follow, and what the prefixes say differs in the
length field. -/
structure DifferInLength (e e' : Evex) (rest : List UInt8) (s t : ReadState) : Prop where
  eq_withLength : t = { s with prefixes := s.prefixes.withLength e'.ll }
  rest : s.rest = rest
  encoding : s.prefixes.encoding = .evex
  broadcast : s.prefixes.broadcast
  ll : s.prefixes.ll = e.ll

section Opcode

variable {mode : Mode} {p0 p1 p2 p2' : UInt8} {rest : List UInt8} {s t : ReadState}

theorem alike_evexPayload (hs : s.rest = p0 :: p1 :: p2 :: rest)
    (ht : t = { s with rest := p0 :: p1 :: p2' :: rest }) :
    Alike (fun e e' u v => e = ⟨p0, p1, p2⟩ ∧ e' = ⟨p0, p1, p2'⟩ ∧ v = u ∧ u.rest = rest)
      (evexPayload.runOn s) (evexPayload.runOn t) := by
  subst ht
  refine Alike.bind (alike_byte hs rfl rfl) ?_
  rintro _ _ _ _ ⟨rfl, rfl, rfl, rfl⟩
  refine Alike.bind (alike_byte rfl rfl rfl) ?_
  rintro _ _ _ _ ⟨rfl, rfl, rfl, rfl⟩
  refine Alike.bind (alike_byte rfl rfl rfl) ?_
  rintro _ _ _ _ ⟨rfl, rfl, rfl, rfl⟩
  exact .ok ⟨rfl, rfl, rfl, rfl⟩

theorem alike_checkBefore (encoding : EncodingKind) (hprefixes : t.prefixes = s.prefixes)
    (hconsumed : s.consumed = t.consumed) :
    Alike (fun _ _ u v => u = s ∧ v = t) ((checkBefore encoding).runOn s)
      ((checkBefore encoding).runOn t) := by
  cases hfault : s.prefixes.faultBefore? encoding with
  | none =>
    rw [runOn_checkBefore_of_none hfault, runOn_checkBefore_of_none (hprefixes ▸ hfault)]
    exact .ok ⟨rfl, rfl⟩
  | some fault =>
    rw [runOn_checkBefore_of_some hfault, runOn_checkBefore_of_some (hprefixes ▸ hfault)]
    exact .error hconsumed

theorem alike_checkPrefixes (fault? : Option PrefixFault) (hconsumed : s.consumed = t.consumed) :
    Alike (fun _ _ u v => u = s ∧ v = t) ((checkPrefixes fault?).runOn s)
      ((checkPrefixes fault?).runOn t) := by
  cases fault? with
  | none => exact .ok ⟨rfl, rfl⟩
  | some fault => exact .error hconsumed

theorem alike_evexPrefix (hsame : Evex.unsized p2' = Evex.unsized p2) (hb : Bits.get p2 4)
    (hs : s.rest = p0 :: p1 :: p2 :: rest) (ht : t = { s with rest := p0 :: p1 :: p2' :: rest }) :
    Alike (fun _ _ u v => DifferInLength ⟨p0, p1, p2⟩ ⟨p0, p1, p2'⟩ rest u v)
      ((evexPrefix mode).runOn s) ((evexPrefix mode).runOn t) := by
  refine Alike.bind (alike_checkBefore .evex (by rw [ht]) (by rw [ht])) ?_
  rintro _ _ _ _ ⟨rfl, rfl⟩
  refine Alike.bind (alike_evexPayload hs ht) ?_
  rintro _ _ u _ ⟨rfl, rfl, rfl, hu⟩
  -- From here on the states are the same until the fields are recorded.
  refine Alike.bind (alike_checkPrefixes _ rfl) ?_
  rintro _ _ _ _ ⟨rfl, rfl⟩
  refine Alike.bind (Alike.self _ _) ?_
  rintro _ _ v _ ⟨-, rfl, hmap⟩
  obtain ⟨map, -, rfl⟩ := runOn_selectMap_eq_ok_iff.1 hmap
  rw [runOn_bind_of_ok (runOn_modifyPrefixes _ _), runOn_bind_of_ok (runOn_modifyPrefixes _ _),
    Evex.maskingFault?_of_unsized hsame, Evex.addEvex_of_unsized hsame]
  refine Alike.mono (alike_checkPrefixes _ rfl) ?_
  rintro _ _ _ _ ⟨rfl, rfl⟩
  exact ⟨rfl, hu, rfl, hb, rfl⟩

/-- The opcodes behind prefixes that differ in the length field. If there is no room for a prefix,
its first byte may be an opcode. -/
theorem alike_opcode {run : List UInt8} {op : UInt8} (hrun : run.all (isPrefixByte mode))
    (hlength : run.length < maxLength) (hevex : mode = .bits64 ∨ (ModRM.mk p0).isRegister)
    (hsame : Evex.unsized p2' = Evex.unsized p2) (hb : Bits.get p2 4) :
    Alike (fun a b u v =>
        (a = op ∧ b = op ∧ DifferInLength ⟨p0, p1, p2⟩ ⟨p0, p1, p2'⟩ rest u v) ∨
        (a = 0x62 ∧ b = 0x62 ∧ u.prefixes = .ofRun mode run ∧ v.prefixes = .ofRun mode run ∧
          maxLength ≤ u.consumed ∧ u.consumed = v.consumed))
      ((opcode mode).runOn { rest := run ++ 0x62 :: p0 :: p1 :: p2 :: op :: rest })
      ((opcode mode).runOn { rest := run ++ 0x62 :: p0 :: p1 :: p2' :: op :: rest }) := by
  have hnone : isPrefixByte mode 0x62 = false := by cases mode <;> rfl
  have heq : opcodeFrom mode 0x62 =
      extendedOpcode 0x62 (startsExtended mode) (evexPrefix mode) := rfl
  rw [runOn_opcode_run hrun hlength hnone, runOn_opcode_run hrun hlength hnone, heq, extendedOpcode,
    runOn_bind_of_ok (runOn_startsExtended_cases rfl hevex),
    runOn_bind_of_ok (runOn_startsExtended_cases rfl hevex)]
  split <;> rename_i hstarts
  · refine Alike.bind (alike_evexPrefix hsame hb rfl rfl) ?_
    rintro _ _ u _ ⟨rfl, hrest, hencoding, hbroadcast, hll⟩
    refine Alike.mono (alike_byte hrest hrest rfl) ?_
    rintro _ _ _ _ ⟨rfl, rfl, rfl, rfl⟩
    exact .inl ⟨rfl, rfl, rfl, rfl, hencoding, hbroadcast, hll⟩
  · refine .ok (.inr ⟨rfl, rfl, rfl, rfl, ?_, rfl⟩)
    exact Nat.not_lt.1 fun h => hstarts (decide_eq_true (.inr h))

end Opcode

end Reader

/-! ### The form -/

section Form

variable {p : PrefixState} {m : ModRM} (hevex : p.encoding = .evex) (hb : p.broadcast)

include hevex hb

/-- Between registers a form is matched as if the length field said 512 bits. -/
theorem Form.mismatch_withLength {f : Form} (hpresent : f.modrm.present) (hm : m.isRegister)
    (mode : StatedMode) (l : UInt8) :
    f.mismatch (p.withLength l) mode m = f.mismatch p mode m := by
  cases mode with
  | other n => rfl
  | known mode =>
    have hprefix : f.prefixMismatch (p.withLength l) mode m = f.prefixMismatch p mode m := by
      rw [prefixMismatch, prefixMismatch]
      cases f.constraint with
      | legacy c => rfl
      | vex c | evex c | xop c =>
        simp only [extendedMismatch, PrefixState.withLength, hevex, hb, hpresent, hm]
        rfl
    rw [mismatch, mismatch, hprefix]

/-- All forms of an EVEX opcode have a ModR/M byte, so the one that is looked up does not go by the
length field. -/
theorem Table.lookup_withLength {op : UInt8} (hm : hasModRM p.encoding p.map op → m.isRegister)
    (mode : Mode) (l : UInt8) :
    lookup (p.withLength l) (.known mode) op m = lookup p (.known mode) op m := by
  have hslot : slot (p.withLength l).encoding (p.withLength l).map op =
      slot p.encoding p.map op := rfl
  have hfirst : firstMatch (p.withLength l) (.known mode) m (slot p.encoding p.map op) none =
      firstMatch p (.known mode) m (slot p.encoding p.map op) none := by
    refine firstMatch_congr (fun f hf => ?_) none
    obtain ⟨hmem, hencoding, -⟩ := mem_slot_iff.1 hf
    have hpresent := (sound hmem).present_of_evex (hencoding.trans hevex)
    have hany : hasModRM p.encoding p.map op := List.any_eq_true.2 ⟨f, hf, hpresent⟩
    exact Form.mismatch_withLength hevex hb hpresent (hm hany) _ l
  rw [lookup, lookup, hslot, hfirst]
  rfl

end Form

namespace Reader

variable (p : PrefixState) (mode : Mode) (m : ModRM) (l : UInt8)

theorem operand_withLength (isMemory : Bool) (draft : Draft) (spec : OperandSpec) :
    operand (p.withLength l) mode m isMemory draft spec = operand p mode m isMemory draft spec := by
  cases spec <;> rfl

theorem operands_withLength (isMemory : Bool) (os : List FormOperand) (draft : Draft) :
    operands (p.withLength l) mode m isMemory os draft = operands p mode m isMemory os draft := by
  induction os generalizing draft with
  | nil => rfl
  | cons o os ih => simp only [operands, operand_withLength, ih]

/-- Between registers nothing of what is read goes by the length field, since there is no
displacement to be counted in a unit. -/
theorem formBody_withLength {f : Form} (hmemory : f.namesMemory m = false) :
    formBody (p.withLength l) mode m f =
      formBody p mode m f >>= fun body => pure { body with prefixes := p.withLength l } := by
  have hdraft : draft (p.withLength l) mode f m (f.namesMemory m) =
      draft p mode f m (f.namesMemory m) := by
    rw [hmemory, draft, draft, if_neg Bool.false_ne_true, if_neg Bool.false_ne_true]
  rw [formBody, formBody, bind_assoc]
  refine bind_congr fun _ => ?_
  rw [hdraft, bind_assoc]
  refine bind_congr fun start => ?_
  rw [operands_withLength, bind_assoc]
  rfl

variable {p mode m l}

/-- The rest of two instructions whose prefixes differ in the length field. -/
theorem alike_behind {e e' : Evex} {op modrm : UInt8} {rest : List UInt8} {s t : ReadState}
    (hm : (ModRM.mk modrm).isRegister) (h : DifferInLength e e' (modrm :: rest) s t) :
    Alike (fun body body' _ _ => body' = { body with prefixes := body.prefixes.withLength e'.ll } ∧
        body.isMemory = false ∧ body.prefixes = s.prefixes)
      ((withModRM op >>= fun selected => form selected.1 mode selected.2.1 selected.2.2 >>=
        formBody selected.1 mode selected.2.2).runOn s)
      ((withModRM op >>= fun selected => form selected.1 mode selected.2.1 selected.2.2 >>=
        formBody selected.1 mode selected.2.2).runOn t) := by
  obtain ⟨rfl, hrest, hevex, hb, -⟩ := h
  rw [withModRM, bind_assoc, runOn_bind_of_ok (runOn_prefixes _),
    runOn_bind_of_ok (runOn_prefixes _), bind_assoc, bind_assoc]
  refine Alike.bind ((oblivious_modrm s.prefixes op).alike s _) ?_
  rintro m _ u _ ⟨rfl, rfl, hmodrm⟩
  have hregister : Table.hasModRM s.prefixes.encoding s.prefixes.map op → m.isRegister := by
    intro hpresent
    have hbyte := rest_of_runOn_modrm hpresent hmodrm
    rw [hrest] at hbyte
    cases hbyte
    exact hm
  have hform : form (s.prefixes.withLength e'.ll) mode op m = form s.prefixes mode op m := by
    rw [form, form, Table.lookupChecked, Table.lookupChecked,
      Table.lookup_withLength hevex hb hregister]
    rfl
  rw [pure_bind, pure_bind, hform]
  refine Alike.bind ((oblivious_form s.prefixes mode op m).alike u _) ?_
  rintro f _ v _ ⟨rfl, rfl, hfound⟩
  have hmemory : f.namesMemory m = false := by
    obtain ⟨hmem, hencoding, hmap, hop, -⟩ := Table.lookup_ok (lookup_of_form hfound)
    have hpresent := (Table.sound hmem).present_of_evex (hencoding.trans hevex)
    rw [← Table.hasModRM_eq hmem, hencoding, hmap, hop] at hpresent
    simp [Form.namesMemory, hregister hpresent]
  dsimp only
  rw [← bind_pure (formBody s.prefixes mode m f), formBody_withLength _ _ _ _ hmemory]
  refine Alike.bind ((oblivious_formBody s.prefixes mode m f).alike v _) ?_
  rintro body _ _ _ ⟨rfl, rfl, hbody⟩
  obtain ⟨-, hp, hnames⟩ := fields_of_formBody hbody
  exact .ok ⟨by rw [hp], hnames.trans hmemory, hp⟩

section Body

variable {run : List UInt8} {p0 p2 p2' modrm : UInt8} (p1 op : UInt8) (rest : List UInt8)

/-- Two instructions whose prefixes differ in the length field. -/
theorem alike_body (hrun : run.all (isPrefixByte mode)) (hlength : run.length < maxLength)
    (hevex : mode = .bits64 ∨ (ModRM.mk p0).isRegister)
    (hsame : Evex.unsized p2' = Evex.unsized p2) (hb : Bits.get p2 4)
    (hm : (ModRM.mk modrm).isRegister) :
    Alike (fun body body' _ _ =>
        body' = { body with prefixes := body.prefixes.withLength (Evex.mk p0 p1 p2').ll } ∧
        body.isMemory = false ∧ body.prefixes.encoding = .evex ∧ body.prefixes.broadcast ∧
        body.prefixes.ll = (Evex.mk p0 p1 p2).ll)
      ((body mode).runOn { rest := run ++ 0x62 :: p0 :: p1 :: p2 :: op :: modrm :: rest })
      ((body mode).runOn { rest := run ++ 0x62 :: p0 :: p1 :: p2' :: op :: modrm :: rest }) := by
  rw [body, selector, bind_assoc]
  refine Alike.bind (alike_opcode hrun hlength hevex hsame hb) ?_
  rintro _ _ s t (⟨rfl, rfl, h⟩ | ⟨rfl, rfl, hs, ht, hfull, hconsumed⟩)
  · refine Alike.mono (alike_behind hm h) ?_
    rintro body _ _ _ ⟨rfl, hmemory, hp⟩
    rw [hp]
    exact ⟨rfl, hmemory, h.encoding, h.broadcast, h.ll⟩
  · -- The opcode 62 needs a ModR/M byte, for which there is no room either.
    have hstop : ∀ u : ReadState, u.prefixes = .ofRun mode run → maxLength ≤ u.consumed →
        (withModRM 0x62).runOn u = (.error .tooLong, u) := by
      intro u hu hfull
      have hmodrm : Reader.modrm (.ofRun mode run) 0x62 = ModRM.mk <$> byte := by
        have hcovers : ¬(!Table.covers .legacy .primary) = true := by decide
        exact (if_neg hcovers).trans (if_pos (Table.hasModRM_of_mem (by decide)))
      have hbyte : byte.runOn u = (.error .tooLong, u) := by rw [runOn_byte, if_pos hfull]
      rw [withModRM, runOn_bind_of_ok (runOn_prefixes u), hu, hmodrm, map_eq_pure_bind, bind_assoc,
        runOn_bind_of_error hbyte]
    rw [runOn_bind_of_error (hstop s hs hfull),
      runOn_bind_of_error (hstop t ht (hconsumed ▸ hfull))]
    exact .error hconsumed

end Body

end Reader

/-! ### Instructions -/

/-- The rounding mode that the bits L' and L select. -/
def Rounding.ofBits : Bool → Bool → Rounding
  | false, false => .toNearest
  | false, true => .down
  | true, false => .up
  | true, true => .towardZero

theorem Evex.ofLengthField_ll (e : Evex) :
    Rounding.ofLengthField e.ll = .ofBits e.lHigh e.l := by
  rw [ll]
  cases e.lHigh <;> cases e.l <;> rfl

namespace Body

variable {body : Body} (hmemory : body.isMemory = false)
  (hevex : body.prefixes.encoding = .evex) (hb : body.prefixes.broadcast)

include hmemory hevex hb

theorem rounding_place (mode : Mode) (ip : UInt64) :
    (body.place mode ip).rounding =
      if body.form.has .rounding then Rounding.ofLengthField body.prefixes.ll else .none := by
  simp [place, hmemory, hevex, hb]

/-- At its place the length field is the rounding mode of an instruction that has one. -/
theorem place_withLength (mode : Mode) (ip : UInt64) (l : UInt8) :
    ({ body with prefixes := body.prefixes.withLength l } : Body).place mode ip =
      { body.place mode ip with
        rounding := if body.form.has .rounding then Rounding.ofLengthField l else .none } := by
  simp [place, PrefixState.withLength, memorySize, broadcasts, hmemory, hevex, hb]

end Body

/-- Under an EVEX prefix with b set and between registers, the bits L' and L select the rounding
mode and nothing else. Two strings of bytes that differ in them fail alike, or they are decoded to
instructions that are the same but for the rounding mode, and that have none if their form has only
the suppression of exceptions. -/
theorem decode_rounding {mode : Mode} {run : List UInt8} {p0 p1 p2 p2' op modrm : UInt8}
    {rest : List UInt8} {ip : UInt64} (hrun : run.all (isPrefixByte mode))
    (hevex : mode = .bits64 ∨ (ModRM.mk p0).isRegister) (hb : Bits.get p2 4)
    (hsame : p2' &&& 0b10011111 = p2 &&& 0b10011111) (hm : (ModRM.mk modrm).isRegister) :
    let outcome := (decode mode (run ++ 0x62 :: p0 :: p1 :: p2 :: op :: modrm :: rest) ip).outcome
    let outcome' := (decode mode (run ++ 0x62 :: p0 :: p1 :: p2' :: op :: modrm :: rest) ip).outcome
    (∃ e, outcome = .error e ∧ outcome' = .error e) ∨
      ∃ inst f, outcome = .ok inst ∧ Table.form? inst.code = some f ∧
        (f.has .rounding → inst.rounding = .ofBits (Bits.get p2 6) (Bits.get p2 5) ∧
          outcome' =
            .ok { inst with rounding := .ofBits (Bits.get p2' 6) (Bits.get p2' 5) }) ∧
        (f.has .rounding = false → f.has .sae ∧ inst.rounding = .none ∧ outcome' = .ok inst) := by
  intro outcome outcome'
  by_cases hlength : maxLength ≤ run.length
  · exact .inl ⟨_, decode_run_of_le hrun hlength _ ip, decode_run_of_le hrun hlength _ ip⟩
  have halike := Reader.alike_body p1 op rest hrun (Nat.lt_of_not_le hlength) hevex hsame hb hm
  generalize hbody : (Reader.body mode).runOn
    { rest := run ++ 0x62 :: p0 :: p1 :: p2 :: op :: modrm :: rest } = r at halike
  generalize hbody' : (Reader.body mode).runOn
    { rest := run ++ 0x62 :: p0 :: p1 :: p2' :: op :: modrm :: rest } = r' at halike
  cases halike with
  | @error fault s t hconsumed =>
    exact .inl ⟨⟨s.consumed, fault⟩, decodeFrom_eq_error_iff.2 ⟨s, hbody, rfl⟩,
      decodeFrom_eq_error_iff.2 ⟨t, hbody', hconsumed⟩⟩
  | @ok body _ s t h =>
    obtain ⟨rfl, hmemory, hencoding, hbroadcast, hll⟩ := h
    have hok : outcome = .ok (body.place mode ip) := decodeFrom_eq_ok_iff.2 ⟨body, s, hbody, rfl⟩
    have hok' : outcome' = .ok _ := decodeFrom_eq_ok_iff.2 ⟨_, t, hbody', rfl⟩
    rw [Body.place_withLength hmemory hencoding hbroadcast] at hok'
    have hrounding := Body.rounding_place hmemory hencoding hbroadcast mode ip
    rw [hll] at hrounding
    have hwell := (Reader.ensures_body mode rfl).of_ok hbody
    refine .inr ⟨_, body.form, hok, Table.form?_code hwell.mem_forms, ?_, ?_⟩
    · intro hhas
      rw [if_pos hhas, Evex.ofLengthField_ll] at hok' hrounding
      exact ⟨hrounding, hok'⟩
    · intro hhas
      have hpasses := (Body.checks_of_checkForm hwell.checkForm hencoding).1
      have hsae : body.form.has .sae := by
        simpa [Body.checkBroadcast, hbroadcast, hmemory, hhas] using hpasses
      rw [hhas, if_neg Bool.false_ne_true] at hok' hrounding
      refine ⟨hsae, hrounding, hok'.trans ?_⟩
      rw [← hrounding]

/-- The addition that rounds up, with the bits L' and L clear. -/
theorem decode_rounding_vaddps :
    (decode .bits64 [0x62, 0xf1, 0x6c, 0x18, 0x58, 0xcb] 0).outcome =
      .ok { vaddpsRounding with rounding := .toNearest } := by
  obtain ⟨-, -, -, -, -, hdecode, f, hform, hhas⟩ := decode_specimens
  rcases @decode_rounding .bits64 [] 0xf1 0x6c 0x58 0x18 0x58 0xcb [] 0 rfl (.inl rfl) (by decide)
    (by decide) (by decide) with ⟨e, he, -⟩ | ⟨inst, f', hinst, hform', hrounding, -⟩
  · cases hdecode.symm.trans he
  · cases hdecode.symm.trans hinst
    cases hform.symm.trans hform'
    exact (hrounding hhas).2

end X86Decoder
