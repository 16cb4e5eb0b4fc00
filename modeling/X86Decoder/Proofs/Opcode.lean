import X86Decoder.Proofs.Ensures
import X86Decoder.Proofs.Table

/-!
# What the prefixes and the opcode ensure

Whatever bytes stand in front of an instruction, the reader arrives at prefixes that the rest of
decoding can rely on: there is a slot for their encoding and opcode map, and the fields of an EVEX
prefix are in range and agree with each other.

* `PrefixState.Valid`: these properties of the prefixes.
* `Reader.ensures_selector`: they hold once the form can be looked up.
-/

namespace X86Decoder

/-- What holds of the prefixes once the opcode has been read. -/
structure PrefixState.Valid (p : PrefixState) : Prop where
  /-- The table has slots for the encoding and the opcode map. -/
  covers : Table.covers p.encoding p.map
  /-- The vector length field of an EVEX prefix has two bits. -/
  ll_lt : p.encoding = .evex → p.ll.toNat < 4
  /-- The opmask field of an EVEX prefix has three bits. -/
  opmask_lt : p.encoding = .evex → p.opmask.toNat < 8
  /-- An EVEX prefix zeroes masked elements only with an opmask. -/
  opmask_ne_zero : p.encoding = .evex → p.zeroing → p.opmask ≠ 0

/-- Only an EVEX prefix has fields to rely on. -/
theorem PrefixState.valid_of_ne_evex {p : PrefixState} (hcovers : Table.covers p.encoding p.map)
    (hencoding : p.encoding ≠ .evex) : p.Valid where
  covers := hcovers
  ll_lt h := absurd h hencoding
  opmask_lt h := absurd h hencoding
  opmask_ne_zero h := absurd h hencoding

theorem Evex.ll_lt (e : Evex) : e.ll.toNat < 4 := by
  rw [Evex.ll]
  cases e.lHigh <;> cases e.l <;> decide

theorem Evex.aaa_lt (e : Evex) : e.aaa.toNat < 8 :=
  Nat.lt_succ_of_le (Bits.toNat_getRun_le e.p2 0 0b111)

namespace Reader

/-- Every opcode map that a VEX or EVEX prefix can select has slots. -/
theorem covers_of_vexMap? {n : UInt8} {map : OpcodeMap} (h : vexMap? n = some map) :
    Table.covers .vex map ∧ Table.covers .evex map := by
  rw [vexMap?] at h
  split at h <;> cases h <;> decide

theorem covers_of_xopMap? {n : UInt8} {map : OpcodeMap} (h : xopMap? n = some map) :
    Table.covers .xop map := by
  rw [xopMap?] at h
  split at h <;> cases h <;> decide

/-! ### Prefixes -/

theorem ensures_legacyPrefixes (mode : Mode) (s : ReadState) :
    (legacyPrefixes mode).Ensures s fun _ t => t.relative = s.relative := by
  have hok : ∀ bs s b t, scanPrefixes mode bs s = (.ok b, t) → t.relative = s.relative := by
    intro bs s b t h
    fun_induction scanPrefixes mode bs s with
    | case1 s => cases h
    | case2 b' rest s hmax => cases h
    | case3 b' rest s hmax p hp ih => exact ih h
    | case4 b' rest s hmax hp =>
      cases h
      rfl
  have herror : ∀ bs s fault t, scanPrefixes mode bs s = (.error fault, t) →
      fault.class?.isSome := by
    intro bs s fault t h
    fun_induction scanPrefixes mode bs s with
    | case1 s =>
      cases h
      split <;> rfl
    | case2 b rest s hmax =>
      cases h
      rfl
    | case3 b rest s hmax p hp ih => exact ih h
    | case4 b rest s hmax hp => cases h
  exact .intro (hok s.rest s) (herror s.rest s)

theorem ensures_checkBefore (encoding : EncodingKind) (s : ReadState) :
    (checkBefore encoding).Ensures s fun _ t => t = s := by
  refine ensures_prefixes.bind fun p t ⟨_, ht⟩ => ?_
  exact ensures_checkPrefixes.mono fun _ u ⟨_, hu⟩ => hu.trans ht

theorem ensures_selectMap (encoding : EncodingKind) (n : UInt8) (map? : Option OpcodeMap)
    (s : ReadState) :
    (selectMap encoding n map?).Ensures s fun _ t => t.relative = s.relative ∧
      t.prefixes.encoding = encoding ∧ map? = some t.prefixes.map := by
  refine ensures_modifyPrefixes.bind fun _ t ht => ?_
  subst ht
  cases map? with
  | none => exact ensures_throw rfl
  | some map =>
    refine ensures_modifyPrefixes.mono fun _ u hu => ?_
    subst hu
    exact ⟨rfl, rfl, rfl⟩

theorem yields_vexPayload (short : Bool) : (vexPayload short).Yields fun _ => True := by
  cases short with
  | true => exact yields_byte.map fun _ _ => trivial
  | false => exact yields_byte.bind fun _ _ => yields_byte.bind fun _ _ => yields_pure trivial

theorem yields_evexPayload : evexPayload.Yields fun _ => True :=
  yields_byte.bind fun _ _ => yields_byte.bind fun _ _ => yields_byte.bind fun _ _ =>
    yields_pure trivial

/-- A prefix with the fields of VEX selects one of the opcode maps of its encoding. -/
theorem ensures_vexLikePrefix {encoding : EncodingKind} {map? : UInt8 → Option OpcodeMap}
    (hencoding : encoding ≠ .evex)
    (hmap? : ∀ n map, map? n = some map → Table.covers encoding map) (mode : Mode) (short : Bool)
    (s : ReadState) :
    (vexLikePrefix encoding map? mode short).Ensures s fun _ t =>
      t.relative = s.relative ∧ t.prefixes.Valid := by
  refine (ensures_checkBefore encoding s).bind fun _ t ht => ?_
  subst ht
  refine (yields_vexPayload short t).bind fun v u ⟨htu, _⟩ => ?_
  refine (ensures_selectMap encoding v.mmmmm (map? v.mmmmm) u).bind
    fun _ w ⟨hrelative, hselected, hmap⟩ => ?_
  refine ensures_modifyPrefixes.mono fun _ x hx => ?_
  subst hx
  refine ⟨hrelative.trans htu.relative, PrefixState.valid_of_ne_evex ?_ ?_⟩
  · change Table.covers w.prefixes.encoding w.prefixes.map
    rw [hselected]
    exact hmap? _ _ hmap
  · change w.prefixes.encoding ≠ .evex
    rwa [hselected]

theorem ensures_vexPrefix (mode : Mode) (short : Bool) (s : ReadState) :
    (vexPrefix mode short).Ensures s fun _ t => t.relative = s.relative ∧ t.prefixes.Valid :=
  ensures_vexLikePrefix (by decide) (fun _ _ h => (covers_of_vexMap? h).1) mode short s

theorem ensures_xopPrefix (mode : Mode) (s : ReadState) :
    (xopPrefix mode).Ensures s fun _ t => t.relative = s.relative ∧ t.prefixes.Valid :=
  ensures_vexLikePrefix (by decide) (fun _ _ h => covers_of_xopMap? h) mode false s

theorem ensures_evexPrefix (mode : Mode) (s : ReadState) :
    (evexPrefix mode).Ensures s fun _ t => t.relative = s.relative ∧ t.prefixes.Valid := by
  refine (ensures_checkBefore .evex s).bind fun _ t ht => ?_
  subst ht
  refine (yields_evexPayload t).bind fun e u ⟨htu, _⟩ => ?_
  refine ensures_checkPrefixes.bind fun _ u' ⟨_, hu'⟩ => ?_
  subst hu'
  refine (ensures_selectMap .evex e.mm (vexMap? e.mm) u').bind
    fun _ w ⟨hrelative, hencoding, hmap⟩ => ?_
  refine ensures_modifyPrefixes.bind fun _ x hx => ?_
  subst hx
  refine ensures_checkPrefixes.mono fun _ y ⟨hmasking, hy⟩ => ?_
  subst hy
  -- The fields in range are those of the payload; that they agree is what the last check is for.
  refine ⟨hrelative.trans htu.relative, ?_, fun _ => e.ll_lt, fun _ => e.aaa_lt, fun _ hz => ?_⟩
  · change Table.covers w.prefixes.encoding w.prefixes.map
    rw [hencoding]
    exact (covers_of_vexMap? hmap).2
  · intro haaa
    have hz' : e.z = true := hz
    have haaa' : e.aaa = 0 := haaa
    simp [Evex.maskingFault?, hz', haaa'] at hmasking

/-! ### Opcodes -/

theorem ensures_nextIs (test : UInt8 → Bool) (s : ReadState) :
    (nextIs test).Ensures s fun _ t => t = s := rfl

theorem ensures_startsExtended (mode : Mode) (s : ReadState) :
    (startsExtended mode).Ensures s fun _ t => t = s := by
  rw [startsExtended]
  split
  · exact ensures_pure rfl
  · exact ensures_nextIs _ s

/-- The byte itself is an opcode, or else the prefix that it starts is valid. -/
theorem ensures_extendedOpcode {b : UInt8} {starts : Reader Bool} {rest : Reader Unit}
    {s : ReadState} (hstarts : starts.Ensures s fun _ t => t = s)
    (hrest : rest.Ensures s fun _ t => t.relative = s.relative ∧ t.prefixes.Valid)
    (hvalid : s.prefixes.Valid) :
    (extendedOpcode b starts rest).Ensures s fun _ t =>
      t.relative = s.relative ∧ t.prefixes.Valid := by
  refine hstarts.bind fun extended t ht => ?_
  subst ht
  cases extended with
  | true =>
    refine hrest.bind fun _ u ⟨hrelative, hu⟩ => (yields_byte u).mono fun _ v ⟨huv, _⟩ => ?_
    rw [huv.relative, huv.prefixes]
    exact ⟨hrelative, hu⟩
  | false => exact ensures_pure ⟨rfl, hvalid⟩

theorem ensures_escapedOpcode {s : ReadState} (hencoding : s.prefixes.encoding = .legacy) :
    escapedOpcode.Ensures s fun _ t => t.relative = s.relative ∧ t.prefixes.Valid := by
  refine (yields_byte s).bind fun b t ⟨hst, _⟩ => ?_
  -- Each branch enters one of the maps behind the escape byte.
  have hmap : ∀ map ∈ [OpcodeMap.map0F38, .map0F3A, .map0F],
      (modifyPrefixes fun p => { p with map := map }).Ensures t fun _ u =>
        u.relative = s.relative ∧ u.prefixes.Valid := by
    intro map hmem
    refine ensures_modifyPrefixes.mono fun _ u hu => ?_
    subst hu
    have hlegacy : t.prefixes.encoding = .legacy := by rw [hst.prefixes, hencoding]
    refine ⟨hst.relative, PrefixState.valid_of_ne_evex ?_ ?_⟩
    · change Table.covers t.prefixes.encoding map
      rw [hlegacy]
      revert map
      decide
    · change t.prefixes.encoding ≠ .evex
      rw [hlegacy]
      decide
  have hbyte : ∀ u : ReadState, u.relative = s.relative ∧ u.prefixes.Valid →
      byte.Ensures u fun _ v => v.relative = s.relative ∧ v.prefixes.Valid := by
    intro u hu
    refine (yields_byte u).mono fun _ v ⟨huv, _⟩ => ?_
    rwa [huv.relative, huv.prefixes]
  split
  · exact (hmap .map0F38 (by decide)).bind fun _ u hu => hbyte u hu
  split
  · exact (hmap .map0F3A (by decide)).bind fun _ u hu => hbyte u hu
  · exact (hmap .map0F (by decide)).bind fun _ u hu => ensures_pure hu

theorem ensures_opcodeFrom (mode : Mode) (b : UInt8) {s : ReadState}
    (hencoding : s.prefixes.encoding = .legacy) (hmap : s.prefixes.map = .primary) :
    (opcodeFrom mode b).Ensures s fun _ t => t.relative = s.relative ∧ t.prefixes.Valid := by
  have hvalid : s.prefixes.Valid := by
    refine PrefixState.valid_of_ne_evex ?_ ?_
    · rw [hencoding, hmap]
      decide
    · rw [hencoding]
      decide
  rw [opcodeFrom]
  split
  · exact ensures_extendedOpcode (ensures_startsExtended mode s) (ensures_vexPrefix mode _ s) hvalid
  split
  · exact ensures_extendedOpcode (ensures_startsExtended mode s) (ensures_evexPrefix mode s) hvalid
  split
  · exact ensures_extendedOpcode (ensures_nextIs _ s) (ensures_xopPrefix mode s) hvalid
  split
  · exact ensures_escapedOpcode hencoding
  · exact ensures_pure ⟨rfl, hvalid⟩

theorem ensures_opcode (mode : Mode) (s : ReadState) :
    (opcode mode).Ensures s fun _ t => t.relative = s.relative ∧ t.prefixes.Valid := by
  refine (ensures_legacyPrefixes mode s).bind fun b t hst => ?_
  refine ensures_modifyPrefixes.bind fun _ u hu => ?_
  subst hu
  -- What encoding and opcode map the state had before does not matter.
  refine (ensures_opcodeFrom mode b rfl rfl).mono fun _ v ⟨hrelative, hvalid⟩ => ?_
  exact ⟨hrelative.trans hst, hvalid⟩

/-- What selects the form has valid prefixes, and memory has not been marked as relative. -/
theorem ensures_selector (mode : Mode) (s : ReadState) :
    (selector mode).Ensures s fun selected t =>
      t.relative = s.relative ∧ selected.1.Valid := by
  refine (ensures_opcode mode s).bind fun op t ⟨hst, hvalid⟩ => ?_
  refine ensures_prefixes.bind fun p u ⟨hp, hu⟩ => ?_
  subst hp hu
  have hmodrm : (modrm u.prefixes op).Yields fun _ => True := by
    rw [modrm, if_neg (by simp [hvalid.covers])]
    split
    · exact yields_byte.map fun _ _ => trivial
    · exact yields_pure trivial
  refine (hmodrm u).bind fun m v ⟨huv, _⟩ => ensures_pure ⟨?_, hvalid⟩
  exact huv.relative.trans hst

end Reader

end X86Decoder
