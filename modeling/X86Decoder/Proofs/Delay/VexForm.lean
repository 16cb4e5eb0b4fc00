import X86Decoder.Proofs.Delay.Instruction
import X86Decoder.Proofs.DisplacementUnit

/-!
# The two forms of a VEX prefix

A VEX prefix of two bytes has a form of three bytes that says the same. Reading the longer form goes
with reading the shorter one, a byte later, and from the opcode on there is no difference between
them. So an instruction with the longer form is the one with the shorter form, one byte longer.

* `Reader.trails_vexPayload`: the payload is where the forms part.
* `Reader.trails_body_vex`: an instruction behind either form.
* `decode_long_vex_eq_ok_iff`: what can be decoded with the longer form.
-/

namespace X86Decoder

/-- Outside 64-bit mode the longer form is taken for a prefix as well. -/
theorem Vex.isRegister_ofShort (payload : UInt8) (h : (ModRM.mk payload).isRegister) :
    (ModRM.mk (Vex.ofShort payload).p0).isRegister := by
  have hall := Bits.of_all_bytes (fun payload =>
    !(ModRM.mk payload).isRegister || (ModRM.mk (Vex.ofShort payload).p0).isRegister) (by decide)
  simpa [h] using hall payload

namespace Reader

variable {mode : Mode} {payload : UInt8} {rest : List UInt8} {s : ReadState}

/-- The state with the longer payload in front of what follows the shorter one. -/
def withLong (s : ReadState) (payload : UInt8) (rest : List UInt8) : ReadState :=
  { s with rest := (Vex.ofShort payload).p0 :: (Vex.ofShort payload).p1 :: rest }

/-- The longer payload ends one byte later. Where only one byte more fits, it is cut off. -/
theorem trails_vexPayload (hrest : s.rest = payload :: rest) (hs : s.consumed ≤ maxLength) :
    Trails id ((vexPayload true).runOn s) ((vexPayload false).runOn (withLong s payload rest)) := by
  by_cases hlong : s.consumed + 1 < maxLength
  · rw [runOn_vexPayload_short hrest (Nat.lt_of_succ_lt hlong),
      runOn_vexPayload_long (s := withLong s payload rest) rfl hlong]
    exact .ok (t := { s with rest := rest, consumed := s.consumed + 1 }) hlong
  -- The shorter payload may still fit where the longer one does not.
  by_cases hshort : s.consumed < maxLength
  · have hfull : s.consumed + 1 = maxLength := by omega
    have hcut : (vexPayload false).runOn (withLong s payload rest) =
        (.error .tooLong,
          { s with rest := (Vex.ofShort payload).p1 :: rest, consumed := s.consumed + 1 }) := by
      rw [vexPayload, if_neg (by decide),
        runOn_bind_of_ok (runOn_byte_cons (s := withLong s payload rest) rfl hshort)]
      exact runOn_bind_of_error (runOn_byte_full (Nat.le_of_eq hfull.symm))
    rw [runOn_vexPayload_short hrest hshort, hcut]
    exact .full hfull hfull
  · have hfull : maxLength ≤ s.consumed := Nat.le_of_not_lt hshort
    have hlater : maxLength ≤ (withLong s payload rest).consumed := hfull
    rw [vexPayload, if_pos rfl, runOn_map, runOn_byte_full hfull, vexPayload, if_neg (by decide),
      runOn_bind_of_error (runOn_byte_full hlater)]
    exact .error

theorem trails_vexPrefix (hrest : s.rest = payload :: rest) (hs : s.consumed ≤ maxLength) :
    Trails id ((vexPrefix mode true).runOn s)
      ((vexPrefix mode false).runOn (withLong s payload rest)) := by
  have hpayload := trails_vexPayload hrest hs
  rw [vexPrefix, vexPrefix, vexLikePrefix, vexLikePrefix]
  cases hfault : s.prefixes.faultBefore? .vex with
  | some fault =>
    have hfault' : (withLong s payload rest).prefixes.faultBefore? .vex = some fault := hfault
    rw [runOn_bind_of_error (runOn_checkBefore_of_some hfault),
      runOn_bind_of_error (runOn_checkBefore_of_some hfault')]
    exact .error
  | none =>
    have hfault' : (withLong s payload rest).prefixes.faultBefore? .vex = none := hfault
    rw [runOn_bind_of_ok (runOn_checkBefore_of_none hfault),
      runOn_bind_of_ok (runOn_checkBefore_of_none hfault')]
    -- From here on the two forms have the same fields.
    have hrest : ∀ v : Vex, Steady (do
        selectMap .vex v.mmmmm (vexMap? v.mmmmm)
        modifyPrefixes fun p => p.addVex mode v) := fun v =>
      (steady_selectMap ..).bind_steady fun _ => steady_modifyPrefixes _
    exact hpayload.bind (fun v => (hrest v).counts) fun v t _ => (hrest v).delaysAt t

/-- The forms are told from an opcode in the same way. Without room for another byte neither of them
is, but then there is none for a ModR/M byte either. -/
theorem trails_opcodeFrom_vex (hregister : mode = .bits64 ∨ (ModRM.mk payload).isRegister)
    (hrest : s.rest = payload :: rest) (hs : s.consumed ≤ maxLength)
    (hencoding : s.prefixes.encoding = .legacy) (hmap : s.prefixes.map = .primary) :
    Trails id ((opcodeFrom mode 0xc5 >>= withModRM).runOn s)
      ((opcodeFrom mode 0xc4 >>= withModRM).runOn (withLong s payload rest)) := by
  have hshort : opcodeFrom mode 0xc5 =
      extendedOpcode 0xc5 (startsExtended mode) (vexPrefix mode true) := rfl
  have hlong : opcodeFrom mode 0xc4 =
      extendedOpcode 0xc4 (startsExtended mode) (vexPrefix mode false) := rfl
  rw [hshort, hlong]
  by_cases hroom : s.consumed < maxLength
  · have hstarts := runOn_startsExtended hrest hroom hregister
    have hstarts' : (startsExtended mode).runOn (withLong s payload rest) =
        (.ok true, withLong s payload rest) :=
      runOn_startsExtended (s := withLong s payload rest) rfl hroom
        (hregister.imp_right (Vex.isRegister_ofShort payload))
    rw [extendedOpcode, extendedOpcode, bind_assoc, bind_assoc, runOn_bind_of_ok hstarts,
      runOn_bind_of_ok hstarts', if_pos rfl, if_pos rfl]
    have hop : Trails id ((vexPrefix mode true >>= fun _ => byte).runOn s)
        ((vexPrefix mode false >>= fun _ => byte).runOn (withLong s payload rest)) :=
      (trails_vexPrefix hrest hs).bind (fun _ => steady_byte.counts)
        fun _ t _ => steady_byte.delaysAt t
    exact hop.bind (fun op => (steady_withModRM op).counts)
      fun op t _ => (steady_withModRM op).delaysAt t
  · -- Then the first byte is taken for an opcode, one that needs a ModR/M byte.
    have hfull : s.consumed = maxLength := Nat.le_antisymm hs (Nat.le_of_not_lt hroom)
    have hfails : ∀ (b : UInt8) (short : Bool), b ∈ [0xc4, 0xc5, 0x62, 0x8f] →
        ∀ t : ReadState, t.consumed = maxLength → t.prefixes = s.prefixes → ∃ fault u,
          (extendedOpcode b (startsExtended mode) (vexPrefix mode short) >>= withModRM).runOn t =
            (.error fault, u) := by
      intro b short hb t ht hprefixes
      have hcovers : Table.covers t.prefixes.encoding t.prefixes.map := by
        rw [hprefixes, hencoding, hmap]
        decide
      have hmodrm : Table.hasModRM t.prefixes.encoding t.prefixes.map b := by
        rw [hprefixes, hencoding, hmap]
        exact Table.hasModRM_of_mem hb
      rcases hrun : (extendedOpcode b (startsExtended mode) (vexPrefix mode short) >>=
        withModRM).runOn t with ⟨fault | selected, u⟩
      · exact ⟨fault, u, rfl⟩
      · obtain ⟨hlt, hle⟩ := consumed_lt_of_extendedOpcode (counts_startsExtended mode)
          (selfDelimiting_vexLikePrefix ..) (Nat.le_of_eq ht) (snd_runOn_startsExtended mode t)
          hcovers hmodrm hrun
        omega
    obtain ⟨_, _, herror⟩ := hfails 0xc5 true (by decide) s hfull rfl
    obtain ⟨_, _, herror'⟩ := hfails 0xc4 false (by decide) (withLong s payload rest) hfull rfl
    rw [herror, herror']
    exact .error

/-- An instruction behind the longer form is read as behind the shorter one. -/
theorem trails_body_vex (hregister : mode = .bits64 ∨ (ModRM.mk payload).isRegister)
    (rest : List UInt8) (p : PrefixState) (consumed : Nat) :
    Trails Body.later
      ((body mode).runOn { rest := 0xc5 :: payload :: rest, consumed, prefixes := p })
      ((body mode).runOn
        { rest := (Vex.ofShort payload).long ++ rest, consumed, prefixes := p }) := by
  have hselector : Trails id
      ((selector mode).runOn { rest := 0xc5 :: payload :: rest, consumed, prefixes := p })
      ((selector mode).runOn
        { rest := (Vex.ofShort payload).long ++ rest, consumed, prefixes := p }) := by
    rw [selector, opcode, bind_assoc]
    by_cases hroom : consumed < maxLength
    · -- The first byte of neither form is a prefix.
      have hfirst : ∀ b ∈ [0xc4, 0xc5], ∀ bs : List UInt8,
          (legacyPrefixes mode).runOn { rest := b :: bs, consumed, prefixes := p } =
            (.ok b, { rest := bs, consumed := consumed + 1, prefixes := p }) := by
        intro b hb bs
        have hnone : p.add? mode b = none := by
          have hor : b = 0xc4 ∨ b = 0xc5 := by simpa using hb
          rcases hor with rfl | rfl <;> cases mode <;> rfl
        rw [runOn_legacyPrefixes]
        exact scanPrefixes_cons_none bs hroom hnone
      rw [runOn_bind_of_ok (hfirst 0xc5 (by decide) _), Vex.long, List.cons_append,
        runOn_bind_of_ok (hfirst 0xc4 (by decide) _), bind_assoc, bind_assoc,
        runOn_bind_of_ok (runOn_modifyPrefixes _ _), runOn_bind_of_ok (runOn_modifyPrefixes _ _)]
      exact trails_opcodeFrom_vex hregister rfl hroom rfl rfl
    · have hfull : ∀ bs : List UInt8,
          (legacyPrefixes mode).runOn { rest := bs, consumed, prefixes := p } =
            (.error .tooLong, { rest := bs, consumed, prefixes := p }) := fun bs =>
        scanPrefixes_of_maxLength_le mode bs (Nat.le_of_not_lt hroom)
      rw [runOn_bind_of_error (hfull _), runOn_bind_of_error (hfull _)]
      exact .error
  exact hselector.bind (fun selected => (delays_selected mode _ _ _).counts)
    fun selected t _ => (delays_selected mode _ _ _).delaysAt t

end Reader

/-- The longer form of a VEX prefix can stand for the shorter one. Behind any prefixes, what can be
decoded with it is what can be decoded with the shorter form and leaves room for a byte, and it is
the same instruction, one byte longer. Outside 64-bit mode the shorter form is a prefix only if the
two top bits of its payload are set. -/
theorem decode_long_vex_eq_ok_iff {mode : Mode} {run : List UInt8}
    (hrun : run.all (isPrefixByte mode) = true) {payload : UInt8}
    (hpayload : mode ≠ .bits64 → payload &&& 0xc0 = 0xc0) (rest : List UInt8) (ip : UInt64)
    (inst : Instruction) :
    (decode mode (run ++ (Vex.ofShort payload).long ++ rest) ip).outcome = .ok inst ↔
      ∃ shorter, (decode mode (run ++ [0xc5, payload] ++ rest) ip).outcome = .ok shorter ∧
        shorter.length ≤ 14 ∧ inst = shorter.lengthened mode := by
  have hregister : mode = .bits64 ∨ (ModRM.mk payload).isRegister := by
    by_cases hmode : mode = .bits64
    · exact .inl hmode
    · have hall := Bits.of_all_bytes (fun payload =>
        !(payload &&& 0xc0 == 0xc0) || (ModRM.mk payload).isRegister) (by decide)
      exact .inr (by simpa [hpayload hmode] using hall payload)
  rw [List.append_assoc, List.append_assoc]
  by_cases hlength : run.length ≤ maxLength
  · have htrails := Reader.trails_body_vex hregister rest (PrefixState.ofRun mode run) run.length
    have hroom : ∀ shorter : Instruction, shorter.length ≤ 14 ↔ shorter.length < maxLength :=
      fun _ => Nat.lt_succ_iff.symm
    simp only [hroom]
    rw [decode_run hrun hlength, decode_run hrun hlength]
    exact decodeFrom_eq_ok_iff_of_trails htrails rfl
  · have hlong : ∀ bs, (decode mode (run ++ bs) ip).outcome = .error ⟨maxLength, .tooLong⟩ :=
      fun bs => decode_run_of_le hrun (Nat.le_of_not_le hlength) bs ip
    simp [hlong]

theorem decode_long_vex_vaddps :
    (decode .bits64 [0xc4, 0xe1, 0x78, 0x58, 0x05, 0x78, 0x56, 0x34, 0x12] 0x1000).outcome =
      .ok { vaddpsShort with
        nextIp := 0x1009
        length := 9
        memory := { vaddpsShort.memory with displacement := 0x12346681 }
        constants := { displacement := ⟨5, 4⟩ } } :=
  (@decode_long_vex_eq_ok_iff .bits64 [] rfl 0xf8 (absurd rfl)
    [0x58, 0x05, 0x78, 0x56, 0x34, 0x12] 0x1000 _).2
    ⟨vaddpsShort, decode_vaddps_vmovd.1, by decide, rfl⟩

end X86Decoder
