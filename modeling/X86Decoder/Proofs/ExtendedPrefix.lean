import X86Decoder.MachineCode
import X86Decoder.Proofs.Decoder
import X86Decoder.Proofs.PrefixRun
import X86Decoder.Proofs.Quiet

/-!
# Extended prefixes

An extended prefix that machine code is written with can be read again: the decoder recognises it
and finds in its bytes the fields that were put there. In 64-bit mode this is always so. In the
other modes the first byte of a prefix is also an opcode, and only some payloads tell the two apart.

* `ExtendedPrefix.state`: what an extended prefix says.
* `ExtendedPrefix.Recognised`: its bytes are told from those of an opcode.
* `Reader.runOn_opcode_extended`: reading its bytes.
* `MachineCode.next_recovers_extended`: decoding machine code that starts with it.
-/

namespace X86Decoder

/-- A prefix that selects the opcode map itself. -/
inductive ExtendedPrefix where
  | vex (v : Vex)
  | xop (v : Vex)
  | evex (e : Evex)
deriving DecidableEq

namespace ExtendedPrefix

/-- The bytes of the prefix. A VEX prefix is written in its two-byte form if it has one. -/
def bytes : ExtendedPrefix → List UInt8
  | vex v => if v.hasShort then v.short else v.long
  | xop v => [0x8f, v.p0, v.p1]
  | evex e => e.bytes

/-- The opcode map that the prefix selects, if it selects one. -/
def map? : ExtendedPrefix → Option OpcodeMap
  | vex v => Reader.vexMap? v.mmmmm
  | xop v => Reader.xopMap? v.mmmmm
  | evex e => Reader.vexMap? e.mm

/-- The reserved and fixed bits are as they must be, and zeroing goes with an opmask. -/
def FieldsValid : ExtendedPrefix → Prop
  | vex _ | xop _ => True
  | evex e => e.reserved = 0 ∧ e.on ∧ ¬(e.z ∧ e.aaa = 0)

/-- The first payload byte cannot be the ModR/M byte of an opcode: in 64-bit mode those opcodes do
not exist, and elsewhere they take memory. In the two-byte form of a VEX prefix the bit below R is
the top bit of the vvvv field. An XOP prefix is told by its opcode map in every mode. -/
def Recognised (mode : Mode) : ExtendedPrefix → Prop
  | vex v => mode = .bits64 ∨ (v.r ∧ v.x ∧ (v.hasShort → 8 ≤ v.vvvv))
  | xop _ => True
  | evex e => mode = .bits64 ∨ (e.r ∧ e.x)

instance (ext : ExtendedPrefix) : Decidable ext.FieldsValid :=
  match ext with
  | vex _ | xop _ => inferInstanceAs (Decidable True)
  | evex e => inferInstanceAs (Decidable (e.reserved = 0 ∧ e.on ∧ ¬(e.z ∧ e.aaa = 0)))

instance (mode : Mode) (ext : ExtendedPrefix) : Decidable (ext.Recognised mode) :=
  match ext with
  | vex v => inferInstanceAs (Decidable (mode = .bits64 ∨ (v.r ∧ v.x ∧ (v.hasShort → 8 ≤ v.vvvv))))
  | xop _ => inferInstanceAs (Decidable True)
  | evex e => inferInstanceAs (Decidable (mode = .bits64 ∨ (e.r ∧ e.x)))

/-- What a prefix with the fields of VEX says. Fields that are held complemented are as they act;
outside 64-bit mode the bits that extend register numbers are ignored. -/
def vexState (encoding : EncodingKind) (map : OpcodeMap) (mode : Mode) (v : Vex) : PrefixState :=
  { encoding := encoding
    map := map
    mandatory := .ofNumber v.pp
    w := v.w
    l := if v.l then 1 else 0
    vvvv := if mode = .bits64 then 15 - v.vvvv else (15 - v.vvvv) % 8
    r := mode == .bits64 && !v.r
    x := mode == .bits64 && !v.x
    b := mode == .bits64 && !v.b }

/-- What an EVEX prefix says. -/
def evexState (map : OpcodeMap) (mode : Mode) (e : Evex) : PrefixState :=
  { encoding := .evex
    map := map
    mandatory := .ofNumber e.pp
    w := e.w
    l := (if e.lHigh then 2 else 0) + (if e.l then 1 else 0)
    ll := (if e.lHigh then 2 else 0) + (if e.l then 1 else 0)
    vvvv :=
      if mode = .bits64 then (15 - e.vvvv) + (if e.vHigh then 0 else 16) else (15 - e.vvvv) % 8
    r := mode == .bits64 && !e.r
    x := mode == .bits64 && !e.x
    b := mode == .bits64 && !e.b
    rHigh := mode == .bits64 && !e.rHigh
    xHigh := mode == .bits64 && !e.x
    vHigh := mode == .bits64 && !e.vHigh
    opmask := e.aaa
    zeroing := e.z
    broadcast := e.broadcast }

/-- What the prefix says. -/
def state (map : OpcodeMap) (mode : Mode) : ExtendedPrefix → PrefixState
  | vex v => vexState .vex map mode v
  | xop v => vexState .xop map mode v
  | evex e => evexState map mode e

theorem bytes_ne_nil (ext : ExtendedPrefix) : ext.bytes ≠ [] := by
  cases ext with
  | vex v =>
    rw [bytes]
    split <;> exact List.cons_ne_nil _ _
  | xop v => exact List.cons_ne_nil _ _
  | evex e => exact List.cons_ne_nil _ _

end ExtendedPrefix

/-! ### Bits of the payload -/

/-- Complementing a field of four bits takes it from fifteen. -/
theorem complement_eq_sub {n : UInt8} (h : n.toNat ≤ 15) :
    ~~~n &&& 0b1111 = 15 - n ∧ ~~~n &&& 0b111 = (15 - n) % 8 := by
  have hall := Bits.of_all_bytes (fun n => !decide (n.toNat ≤ 15) ||
    (~~~n &&& 0b1111 == 15 - n && ~~~n &&& 0b111 == (15 - n) % 8)) (by decide) n
  simpa [h] using hall

/-- A byte with the bits of mod set names a register. -/
theorem ModRM.isRegister_mk (b : UInt8) :
    (ModRM.mk b).isRegister = (Bits.get b 7 && Bits.get b 6) := by
  have hall := Bits.of_all_bytes (fun b =>
    (ModRM.mk b).isRegister == (Bits.get b 7 && Bits.get b 6)) (by decide) b
  exact eq_of_beq hall

namespace Vex

theorem vvvv_le (v : Vex) : v.vvvv.toNat ≤ 15 := Bits.toNat_getRun_le _ _ _

/-- The top bit of the vvvv field is the one below W. -/
theorem get_p1_six (v : Vex) : Bits.get v.p1 6 = decide (8 ≤ v.vvvv) := by
  have hall := Bits.of_all_bytes (fun b =>
    Bits.get b 6 == decide (8 ≤ Bits.getRun b 3 0b1111)) (by decide) v.p1
  exact eq_of_beq hall

/-- The payload of the two-byte form: R above the low bits of the second payload byte. -/
def shortPayload (v : Vex) : UInt8 := Bits.set v.p1 0b01111111 7 v.r

theorem short_eq (v : Vex) : v.short = [0xc5, v.shortPayload] := rfl

theorem get_shortPayload (v : Vex) :
    Bits.get v.shortPayload 7 = v.r ∧ Bits.get v.shortPayload 6 = Bits.get v.p1 6 := by
  have hall := Bits.of_all_bytes (fun b => [true, false].all fun value =>
    Bits.get (Bits.set b 0b01111111 7 value) 7 == value &&
      Bits.get (Bits.set b 0b01111111 7 value) 6 == Bits.get b 6)
    (by decide) v.p1
  rw [shortPayload]
  cases v.r <;> simp_all

/-- The two-byte form says all there is to say of a prefix that has one. -/
theorem ofShort_shortPayload {v : Vex} (h : v.hasShort) : ofShort v.shortPayload = v := by
  obtain ⟨p0, p1⟩ := v
  simp only [hasShort, x, b, w, mmmmm, Bool.and_eq_true, Bool.not_eq_true', beq_iff_eq] at h
  obtain ⟨⟨⟨hx, hb⟩, hw⟩, hmap⟩ := h
  have hp0 := Bits.of_all_bytes (fun b =>
    !(Bits.get b 6 && Bits.get b 5 && Bits.getRun b 0 0b11111 == 1) ||
      b == (if Bits.get b 7 then 0b10000000 else 0) ||| 0b01100001) (by decide) p0
  have hp1 := Bits.of_all_bytes (fun b => Bits.get b 7 ||
    [true, false].all fun value => Bits.set b 0b01111111 7 value &&& 0b01111111 == b &&
      Bits.set b 0b01111111 7 value &&& 0b10000000 == if value then 0b10000000 else 0)
    (by decide) p1
  simp only [hx, hb, hmap, hw] at hp0 hp1
  simp only [ofShort, shortPayload, r]
  cases hr : Bits.get p0 7 <;> simp_all

end Vex

namespace Evex

theorem vvvv_le (e : Evex) : e.vvvv.toNat ≤ 15 := Bits.toNat_getRun_le _ _ _

theorem ll_eq (e : Evex) : e.ll = (if e.lHigh then 2 else 0) + (if e.l then 1 else 0) := by
  rw [ll]
  cases e.lHigh <;> cases e.l <;> rfl

end Evex

namespace ExtendedPrefix

theorem addVex_eq (encoding : EncodingKind) (map : OpcodeMap) (mode : Mode) (v : Vex) :
    ({ encoding := encoding, map := map } : PrefixState).addVex mode v =
      vexState encoding map mode v := by
  obtain ⟨hlong, hshort⟩ := complement_eq_sub v.vvvv_le
  cases mode <;> simp [PrefixState.addVex, vexState, hlong, hshort, Bits.ofBool]

theorem addEvex_eq (map : OpcodeMap) (mode : Mode) (e : Evex) :
    ({ encoding := .evex, map := map } : PrefixState).addEvex mode e = evexState map mode e := by
  obtain ⟨hlong, hshort⟩ := complement_eq_sub e.vvvv_le
  cases mode <;> simp [PrefixState.addEvex, evexState, hlong, hshort, e.ll_eq]

end ExtendedPrefix

namespace Reader

theorem runOn_byte_cons {s : ReadState} {b : UInt8} {rest : List UInt8} (hrest : s.rest = b :: rest)
    (h : s.consumed < maxLength) :
    byte.runOn s = (.ok b, { s with rest := rest, consumed := s.consumed + 1 }) := by
  rw [runOn_byte, if_neg (Nat.not_le.2 h), hrest]

theorem runOn_checkBefore_of_none {encoding : EncodingKind} {s : ReadState}
    (h : s.prefixes.faultBefore? encoding = none) :
    (checkBefore encoding).runOn s = (.ok (), s) := by
  rw [checkBefore, runOn_bind_of_ok (runOn_prefixes s), h]
  rfl

theorem runOn_checkBefore_of_some {encoding : EncodingKind} {s : ReadState} {fault : PrefixFault}
    (h : s.prefixes.faultBefore? encoding = some fault) :
    (checkBefore encoding).runOn s = (.error (.prefixes fault), s) := by
  rw [checkBefore, runOn_bind_of_ok (runOn_prefixes s), h]
  rfl

theorem runOn_checkBefore (encoding : EncodingKind) {s : ReadState} (hs : s.prefixes = {}) :
    (checkBefore encoding).runOn s = (.ok (), s) :=
  runOn_checkBefore_of_none (by rw [hs]; rfl)

theorem runOn_selectMap (encoding : EncodingKind) (n : UInt8) (map : OpcodeMap) {s : ReadState}
    (hs : s.prefixes = {}) :
    (selectMap encoding n (some map)).runOn s =
      (.ok (), { s with prefixes := { encoding := encoding, map := map } }) := by
  rw [selectMap, runOn_bind_of_ok (runOn_modifyPrefixes _ _), hs]
  rfl

/-- The rest of a VEX or XOP prefix that nothing stands before. -/
theorem runOn_vexLikePrefix {encoding : EncodingKind} {map? : UInt8 → Option OpcodeMap}
    {map : OpcodeMap} {mode : Mode} {short : Bool} {v : Vex} {s t : ReadState}
    (hs : s.prefixes = {}) (hpayload : (vexPayload short).runOn s = (.ok v, t))
    (ht : t.prefixes = {}) (hmap : map? v.mmmmm = some map) :
    (vexLikePrefix encoding map? mode short).runOn s =
      (.ok (), { t with prefixes := ExtendedPrefix.vexState encoding map mode v }) := by
  rw [vexLikePrefix, runOn_bind_of_ok (runOn_checkBefore encoding hs), runOn_bind_of_ok hpayload,
    hmap, runOn_bind_of_ok (runOn_selectMap encoding v.mmmmm map ht), runOn_modifyPrefixes,
    ExtendedPrefix.addVex_eq]

/-- The rest of an EVEX prefix that nothing stands before. -/
theorem runOn_evexPrefix {map : OpcodeMap} {mode : Mode} {e : Evex} {s t : ReadState}
    (hs : s.prefixes = {}) (hpayload : evexPayload.runOn s = (.ok e, t)) (ht : t.prefixes = {})
    (hmap : vexMap? e.mm = some map) (hvalid : (ExtendedPrefix.evex e).FieldsValid) :
    (evexPrefix mode).runOn s =
      (.ok (), { t with prefixes := ExtendedPrefix.evexState map mode e }) := by
  obtain ⟨hreserved, hon, hmasking⟩ := hvalid
  have hfixed : e.fixedFault? = none := by simp [Evex.fixedFault?, hreserved, hon]
  have hmask : e.maskingFault? = none := by simpa [Evex.maskingFault?] using hmasking
  have hpass : ∀ u, (checkPrefixes none).runOn u = (.ok (), u) := fun _ => rfl
  rw [evexPrefix, runOn_bind_of_ok (runOn_checkBefore .evex hs), runOn_bind_of_ok hpayload, hfixed,
    hmask, hmap, runOn_bind_of_ok (hpass _), runOn_bind_of_ok (runOn_selectMap .evex e.mm map ht),
    runOn_bind_of_ok (runOn_modifyPrefixes _ _), ExtendedPrefix.addEvex_eq, hpass]

/-! ### Opcodes behind an extended prefix -/

/-- Outside 64-bit mode the next byte tells, if there is room for it. -/
theorem runOn_startsExtended_cases {mode : Mode} {s : ReadState} {b : UInt8} {rest : List UInt8}
    (hrest : s.rest = b :: rest) (hb : mode = .bits64 ∨ (ModRM.mk b).isRegister) :
    (startsExtended mode).runOn s =
      (.ok (decide (mode = .bits64 ∨ s.consumed < maxLength)), s) := by
  rw [startsExtended]
  split <;> rename_i hmode
  · simp [hmode]
  · rw [runOn_nextIs, hrest]
    by_cases hroom : s.consumed < maxLength
    · simp [hmode, hroom, Nat.not_le.2 hroom, hb.resolve_left hmode]
    · simp [hmode, hroom, Nat.not_lt.1 hroom]

theorem runOn_startsExtended {mode : Mode} {s : ReadState} {b : UInt8} {rest : List UInt8}
    (hrest : s.rest = b :: rest) (h : s.consumed < maxLength)
    (hb : mode = .bits64 ∨ (ModRM.mk b).isRegister) :
    (startsExtended mode).runOn s = (.ok true, s) := by
  rw [runOn_startsExtended_cases hrest hb, decide_eq_true (.inr h)]

/-- The opcode maps of XOP prefixes tell them from an opcode. -/
theorem runOn_startsXop {v : Vex} {map : OpcodeMap} (hmap : xopMap? v.mmmmm = some map)
    {s : ReadState} {rest : List UInt8} (hrest : s.rest = v.p0 :: rest)
    (h : s.consumed < maxLength) : startsXop.runOn s = (.ok true, s) := by
  have hle : 8 ≤ v.mmmmm.toNat := by
    rw [xopMap?] at hmap
    split at hmap <;> first | omega | cases hmap
  have hfield : v.mmmmm = v.p0 &&& 0x1f := by simp [Vex.mmmmm, Bits.getRun]
  rw [hfield] at hle
  rw [startsXop, runOn_nextIs, if_neg (Nat.not_le.2 h), hrest]
  simpa using hle

theorem runOn_extendedOpcode {b : UInt8} {starts : Reader Bool} {rest : Reader Unit}
    {s t : ReadState} (hstarts : starts.runOn s = (.ok true, s))
    (hrest : rest.runOn s = (.ok (), t)) :
    (extendedOpcode b starts rest).runOn s = byte.runOn t := by
  rw [extendedOpcode, runOn_bind_of_ok hstarts, if_pos rfl, runOn_bind_of_ok hrest]

theorem runOn_vexPayload_short {s : ReadState} {payload : UInt8} {rest : List UInt8}
    (hrest : s.rest = payload :: rest) (h : s.consumed < maxLength) :
    (vexPayload true).runOn s =
      (.ok (.ofShort payload), { s with rest := rest, consumed := s.consumed + 1 }) := by
  rw [vexPayload, if_pos rfl, runOn_map, runOn_byte_cons hrest h]

theorem runOn_vexPayload_long {s : ReadState} {p0 p1 : UInt8} {rest : List UInt8}
    (hrest : s.rest = p0 :: p1 :: rest) (h : s.consumed + 1 < maxLength) :
    (vexPayload false).runOn s =
      (.ok ⟨p0, p1⟩, { s with rest := rest, consumed := s.consumed + 2 }) := by
  rw [vexPayload, if_neg (by decide),
    runOn_bind_of_ok (runOn_byte_cons hrest (Nat.lt_of_succ_lt h)),
    runOn_bind_of_ok (runOn_byte_cons rfl h)]
  rfl

theorem runOn_evexPayload {s : ReadState} {e : Evex} {rest : List UInt8}
    (hrest : s.rest = e.p0 :: e.p1 :: e.p2 :: rest) (h : s.consumed + 2 < maxLength) :
    evexPayload.runOn s = (.ok e, { s with rest := rest, consumed := s.consumed + 3 }) := by
  have h1 : s.consumed + 1 < maxLength := Nat.lt_of_succ_lt h
  rw [evexPayload, runOn_bind_of_ok (runOn_byte_cons hrest (Nat.lt_of_succ_lt h1)),
    runOn_bind_of_ok (runOn_byte_cons rfl h1), runOn_bind_of_ok (runOn_byte_cons rfl h)]
  rfl

/-- The bytes of an extended prefix that is recognised are read as what it says, and the opcode
follows. -/
theorem runOn_opcode_extended {mode : Mode} {ext : ExtendedPrefix} {map : OpcodeMap}
    (hmap : ext.map? = some map) (hvalid : ext.FieldsValid) (hrecognised : ext.Recognised mode)
    (rest : List UInt8) :
    (opcode mode).runOn { rest := ext.bytes ++ rest } =
      byte.runOn
        { rest := rest, consumed := ext.bytes.length, prefixes := ext.state map mode } := by
  have hread1 : 1 < maxLength := by decide
  have hread2 : 2 < maxLength := by decide
  have hread3 : 3 < maxLength := by decide
  -- The first byte is no prefix in any mode.
  have hfirst : ∀ b ∈ [0xc4, 0xc5, 0x62, 0x8f], ∀ rest : List UInt8,
      (opcode mode).runOn { rest := b :: rest } =
        (opcodeFrom mode b).runOn { rest := rest, consumed := 1 } := by
    intro b hb rest
    have hnot : isPrefixByte mode b = false := by
      revert b
      cases mode <;> decide +kernel
    have hempty : ([] : List UInt8).all (isPrefixByte mode) := rfl
    have hopcode := runOn_opcode_run hempty (by decide) hnot rest
    rwa [PrefixState.ofRun_nil] at hopcode
  cases ext with
  | vex v =>
    cases hshort : v.hasShort with
    | true =>
      have hregister : mode = .bits64 ∨ (ModRM.mk v.shortPayload).isRegister := by
        refine hrecognised.imp_right fun ⟨hr, _, hvvvv⟩ => ?_
        obtain ⟨h7, h6⟩ := v.get_shortPayload
        rw [ModRM.isRegister_mk, h7, h6, v.get_p1_six, hr]
        exact decide_eq_true (hvvvv hshort)
      have hpayload := runOn_vexPayload_short
        (s := { rest := v.shortPayload :: rest, consumed := 1 }) rfl hread1
      rw [Vex.ofShort_shortPayload hshort] at hpayload
      rw [ExtendedPrefix.bytes, if_pos hshort, Vex.short_eq]
      exact (hfirst 0xc5 (by decide) (v.shortPayload :: rest)).trans
        (runOn_extendedOpcode (runOn_startsExtended rfl hread1 hregister)
          (runOn_vexLikePrefix rfl hpayload rfl hmap))
    | false =>
      have hregister : mode = .bits64 ∨ (ModRM.mk v.p0).isRegister := by
        refine hrecognised.imp_right fun ⟨hr, hx, _⟩ => ?_
        rw [ModRM.isRegister_mk, Bool.and_eq_true]
        exact ⟨hr, hx⟩
      rw [ExtendedPrefix.bytes, if_neg (by simp [hshort]), Vex.long]
      exact (hfirst 0xc4 (by decide) (v.p0 :: v.p1 :: rest)).trans
        (runOn_extendedOpcode (runOn_startsExtended rfl hread1 hregister)
          (runOn_vexLikePrefix rfl (runOn_vexPayload_long rfl hread2) rfl hmap))
  | xop v =>
    exact (hfirst 0x8f (by decide) (v.p0 :: v.p1 :: rest)).trans
      (runOn_extendedOpcode (runOn_startsXop hmap rfl hread1)
        (runOn_vexLikePrefix rfl (runOn_vexPayload_long rfl hread2) rfl hmap))
  | evex e =>
    have hregister : mode = .bits64 ∨ (ModRM.mk e.p0).isRegister := by
      refine hrecognised.imp_right fun ⟨hr, hx⟩ => ?_
      rw [ModRM.isRegister_mk, Bool.and_eq_true]
      exact ⟨hr, hx⟩
    exact (hfirst 0x62 (by decide) (e.p0 :: e.p1 :: e.p2 :: rest)).trans
      (runOn_extendedOpcode (runOn_startsExtended rfl hread1 hregister)
        (runOn_evexPrefix rfl (runOn_evexPayload rfl hread3) rfl hmap hvalid))

end Reader

/-- However decoding ends, the prefixes are those that the opcode was read with. -/
theorem prefixes_decode (mode : Mode) (data : List UInt8) (ip : UInt64) :
    (decode mode data ip).prefixes = ((Reader.opcode mode).runOn { rest := data }).2.prefixes := by
  rw [← Reader.prefixes_runOn_body, decode, decodeFrom, Decoded.prefixes]
  rcases (Reader.body mode).runOn { rest := data } with ⟨fault | body, t⟩ <;> rfl

/-! ### Machine code -/

namespace MachineCode

/-- The extended prefix of machine code that has one and nothing before it. -/
def extended? (c : MachineCode) : Option ExtendedPrefix :=
  if c.prefixes = [] ∧ c.rex.byte = 0 then
    match c.vex.on, c.evex.on with
    | true, false => some (if c.xop then .xop c.vex else .vex c.vex)
    | false, true => some (.evex c.evex)
    | _, _ => none
  else none

/-- Its bytes come first. -/
theorem exists_bytes_eq {c : MachineCode} {ext : ExtendedPrefix} (h : c.extended? = some ext) :
    ∃ rest, c.bytes = ext.bytes ++ rest := by
  rw [extended?] at h
  split at h
  · rename_i hbefore
    obtain ⟨hprefixes, hrex⟩ := hbefore
    rw [bytes, hprefixes, hrex, vexBytes]
    split at h <;> cases h
    · rename_i hvex hevex
      cases hxop : c.xop <;>
        simp [hvex, hevex, ExtendedPrefix.bytes, List.append_assoc]
    · rename_i hvex hevex
      simp [hvex, hevex, ExtendedPrefix.bytes, List.append_assoc]
  · cases h

/-- Decoding undoes the encoding of an extended prefix. Whatever follows it and however decoding
ends, the decoder has recognised the prefix and found its fields. -/
theorem next_recovers_extended {c : MachineCode} {ext : ExtendedPrefix} {map : OpcodeMap}
    {mode : Mode} (hext : c.extended? = some ext) (hmap : ext.map? = some map)
    (hvalid : ext.FieldsValid) (hrecognised : ext.Recognised mode) (ip : UInt64) :
    ∃ d, Decoder.new (.known mode) c.bytes ip = .ok d ∧
      d.next.2.prefixes = ext.state map mode := by
  obtain ⟨rest, hbytes⟩ := exists_bytes_eq hext
  have hnonempty : c.bytes.isEmpty = false := by simp [hbytes, ext.bytes_ne_nil]
  refine ⟨{ mode := mode, data := c.bytes, ip := ip }, by simp [Decoder.new, hnonempty], ?_⟩
  rw [Decoder.prefixes_next (Nat.zero_le _), Decoder.decoded, prefixes_decode, List.drop_zero,
    hbytes, Reader.runOn_opcode_extended hmap hvalid hrecognised]
  exact (Reader.quiet_byte.agree _).prefixes

/-- The two-byte form of a VEX prefix outside 64-bit mode. -/
theorem next_recovers_extended_short :
    let v : Vex := ⟨0b11100001, 0b01010101⟩
    let c : MachineCode := { vex := v, opcode := [0x58], modrm := some ⟨0xc1⟩ }
    c.extended? = some (.vex v) ∧ v.hasShort ∧ (ExtendedPrefix.vex v).Recognised .bits32 ∧
      ∃ d, Decoder.new (.known .bits32) c.bytes 0 = .ok d ∧
        d.next.2.prefixes =
          { encoding := .vex, map := .map0F, mandatory := .p66, l := 1, vvvv := 5 } := by
  intro v c
  have hext : c.extended? = some (.vex v) := by decide
  have hmap : (ExtendedPrefix.vex v).map? = some .map0F := by decide
  have hrecognised : (ExtendedPrefix.vex v).Recognised .bits32 := by decide
  have hstate : (ExtendedPrefix.vex v).state .map0F .bits32 =
      { encoding := .vex, map := .map0F, mandatory := .p66, l := 1, vvvv := 5 } := by
    decide
  rw [← hstate]
  exact ⟨hext, by decide, hrecognised, next_recovers_extended hext hmap trivial hrecognised 0⟩

/-- With the top bit of its vvvv field clear, the two-byte form is taken for an opcode outside
64-bit mode, although R and X are set. -/
theorem next_mistakes_short_vex :
    let v : Vex := ⟨0b11100001, 0b00111000⟩
    let c : MachineCode := { vex := v, opcode := [0x77] }
    c.extended? = some (.vex v) ∧ (ExtendedPrefix.vex v).map? = some .map0F ∧ v.r ∧ v.x ∧
      ∃ d, Decoder.new (.known .bits32) c.bytes 0 = .ok d ∧
        d.next.2.prefixes.encoding = .legacy := by
  intro v c
  have hbytes : c.bytes = [0xc5, 0xb8, 0x77] := by decide
  refine ⟨by decide, by decide, by decide, by decide, ?_⟩
  rw [hbytes]
  refine ⟨{ mode := .bits32, data := [0xc5, 0xb8, 0x77], ip := 0 }, rfl, ?_⟩
  rw [Decoder.prefixes_next (Nat.zero_le _), Decoder.decoded, prefixes_decode]
  rfl

end MachineCode

end X86Decoder
