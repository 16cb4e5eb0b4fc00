import X86Decoder.Proofs.Decodable

/-!
# How far register numbers reach

The fields of the ModR/M and SIB bytes number eight registers. Prefixes extend them: to sixteen in
64-bit mode, and to thirty-two under an EVEX prefix there. Outside 64-bit mode nothing extends them,
whatever the bits of an extended prefix say.

* `registerLimit`: how many registers can be numbered.
* `Reader.Leads`: what a reader makes of the prefixes.
* `PrefixState.Unextended`: legacy and REX prefixes so far.
* `PrefixState.Reaches`: the fields of the prefixes stay below the limit.
* `Reader.leads_opcode`: reading the prefixes and the opcode leads there.
-/

namespace X86Decoder

/-- How many registers of a family an instruction can number. -/
def registerLimit (mode : Mode) (encoding : EncodingKind) : Nat :=
  if mode = .bits64 then if encoding = .evex then 32 else 16 else 8

theorem eight_le_registerLimit (mode : Mode) (encoding : EncodingKind) :
    8 ≤ registerLimit mode encoding := by
  rw [registerLimit]
  split
  · split <;> decide
  · exact Nat.le_refl _

theorem registerLimit_le (mode : Mode) (encoding : EncodingKind) :
    registerLimit mode encoding ≤ 32 := by
  rw [registerLimit]
  split
  · split <;> decide
  · decide

namespace PrefixState

/-- Only legacy and REX prefixes have been read. -/
structure Unextended (mode : Mode) (p : PrefixState) : Prop where
  rex : mode ≠ .bits64 → p.hasRex = false ∧ p.r = false ∧ p.x = false ∧ p.b = false
  high : p.rHigh = false ∧ p.xHigh = false ∧ p.vHigh = false
  vvvv_eq : p.vvvv = 0

/-- The register numbers that the prefixes extend, and the one that they hold, stay below the
limit. -/
structure Reaches (mode : Mode) (p : PrefixState) : Prop where
  rex : mode ≠ .bits64 → p.hasRex = false ∧ p.r = false ∧ p.x = false ∧ p.b = false
  high : mode ≠ .bits64 ∨ p.encoding ≠ .evex → p.rHigh = false ∧ p.xHigh = false ∧ p.vHigh = false
  vvvv_lt : p.vvvv.toNat < registerLimit mode p.encoding

variable {mode : Mode} {p : PrefixState}

theorem unextended_empty (mode : Mode) : ({} : PrefixState).Unextended mode :=
  ⟨fun _ => ⟨rfl, rfl, rfl, rfl⟩, ⟨rfl, rfl, rfl⟩, rfl⟩

/-- A REX prefix exists in 64-bit mode only, and a legacy prefix cancels it. -/
theorem Unextended.add? (h : p.Unextended mode) {b : UInt8} {q : PrefixState}
    (hq : p.add? mode b = some q) : q.Unextended mode := by
  rw [PrefixState.add?] at hq
  split at hq
  · rw [addLegacy_eq] at hq
    cases hq
    exact ⟨fun _ => ⟨rfl, rfl, rfl, rfl⟩, h.high, h.vvvv_eq⟩
  · split at hq
    · rename_i hrex
      cases hq
      exact ⟨fun hmode => absurd hrex.1 hmode, h.high, h.vvvv_eq⟩
    · cases hq

theorem Unextended.select (h : p.Unextended mode) (encoding : EncodingKind) (map : OpcodeMap) :
    Unextended mode { p with encoding := encoding, map := map } :=
  ⟨h.rex, h.high, h.vvvv_eq⟩

theorem toNat_and_le (a mask : UInt8) : (a &&& mask).toNat ≤ mask.toNat := by
  rw [UInt8.toNat_and]
  exact Nat.and_le_right

theorem Unextended.reaches (h : p.Unextended mode) : p.Reaches mode where
  rex := h.rex
  high _ := h.high
  vvvv_lt := by
    rw [h.vvvv_eq]
    exact Nat.lt_of_lt_of_le (by decide) (eight_le_registerLimit ..)

/-- The vvvv field of a VEX or XOP prefix has four bits, of which three count outside 64-bit mode.
-/
theorem Unextended.addVex (h : p.Unextended mode) (v : Vex) : (p.addVex mode v).Reaches mode where
  rex hmode := by
    obtain ⟨hrex, hr, hx, hb⟩ := h.rex hmode
    have hlong : (mode == .bits64) = false := beq_eq_false_iff_ne.2 hmode
    simp only [PrefixState.addVex, hlong]
    exact ⟨hrex, hr, hx, hb⟩
  high _ := h.high
  vvvv_lt := by
    have hlimit : 15 < if (p.addVex mode v).encoding = .evex then 32 else 16 := by split <;> decide
    rw [registerLimit]
    split
    · rename_i hmode
      subst hmode
      exact Nat.lt_of_le_of_lt (toNat_and_le (~~~v.vvvv) 0b1111) hlimit
    · rename_i hmode
      have hlong : (mode == .bits64) = false := beq_eq_false_iff_ne.2 hmode
      simp only [PrefixState.addVex, hlong]
      exact Nat.lt_of_le_of_lt (toNat_and_le (~~~v.vvvv) 0b111) (by decide)

/-- The vvvv field of an EVEX prefix has a bit more in 64-bit mode. -/
theorem Unextended.addEvex (h : p.Unextended mode) (hencoding : p.encoding = .evex) (e : Evex) :
    (p.addEvex mode e).Reaches mode where
  rex hmode := by
    obtain ⟨hrex, hr, hx, hb⟩ := h.rex hmode
    have hlong : (mode == .bits64) = false := beq_eq_false_iff_ne.2 hmode
    simp only [PrefixState.addEvex, hlong]
    exact ⟨hrex, hr, hx, hb⟩
  high hor := by
    have hmode := hor.resolve_right fun hne => hne hencoding
    have hlong : (mode == .bits64) = false := beq_eq_false_iff_ne.2 hmode
    simp only [PrefixState.addEvex, hlong]
    exact h.high
  vvvv_lt := by
    have hevex : (p.addEvex mode e).encoding = .evex := hencoding
    rw [registerLimit, if_pos hevex]
    split
    · rename_i hmode
      have hle := toNat_and_le (~~~e.vvvv) 0b1111
      have hhigh : (if e.vHigh then (0 : UInt8) else 16).toNat ≤ 16 := by split <;> decide
      change (~~~e.vvvv &&& 0b1111).toNat ≤ 15 at hle
      -- The sum of the four bits and the fifth does not wrap around.
      rw [PrefixState.addEvex, hmode]
      change ((~~~e.vvvv &&& 0b1111) + if e.vHigh then 0 else 16).toNat < 32
      rw [UInt8.toNat_add]
      omega
    · rename_i hmode
      have hlong : (mode == .bits64) = false := beq_eq_false_iff_ne.2 hmode
      simp only [PrefixState.addEvex, hlong]
      exact Nat.lt_of_le_of_lt (toNat_and_le (~~~e.vvvv) 0b111) (by decide)

end PrefixState

namespace Reader

variable {α β : Type} {P Q R : PrefixState → Prop}

/-- If it succeeds, the reader leads from prefixes with the one property to prefixes with the
other. -/
structure Leads (m : Reader α) (P Q : PrefixState → Prop) : Prop where
  ok : ∀ (s t : ReadState) (a : α), m.runOn s = (.ok a, t) → P s.prefixes → Q t.prefixes

theorem Leads.bind {m : Reader α} {f : α → Reader β} (hm : m.Leads P Q)
    (hf : ∀ a, (f a).Leads Q R) : (m >>= f).Leads P R where
  ok s u b hrun hs := by
    obtain ⟨a, t, ha, hb⟩ := exists_of_runOn_bind_ok hrun
    exact (hf a).ok t u b hb (hm.ok s t a ha hs)

theorem Leads.mono {m : Reader α} (h : m.Leads P Q) (hQ : ∀ p, Q p → R p) : m.Leads P R :=
  ⟨fun s t a hrun hs => hQ _ (h.ok s t a hrun hs)⟩

theorem Quiet.leads {m : Reader α} {post : α → Prop} (h : m.Quiet post) : m.Leads P P where
  ok s t a hrun hs := by rwa [(h.agree_of_runOn hrun).prefixes]

theorem leads_pure (a : α) : (pure a : Reader α).Leads P P :=
  (quiet_pure trivial : (pure a : Reader α).Quiet fun _ => True).leads

theorem leads_throw (fault : DecodeFault) : (throw fault : Reader α).Leads P Q :=
  ⟨fun _ _ _ hrun => by cases hrun⟩

theorem leads_modifyPrefixes {f : PrefixState → PrefixState} (h : ∀ p, P p → Q (f p)) :
    (modifyPrefixes f).Leads P Q where
  ok s t a hrun hs := by
    cases hrun
    exact h _ hs

/-! ### Prefixes and opcodes -/

variable (mode : Mode)

/-- One prefix after the other, as long as they are legacy and REX prefixes. -/
theorem leads_legacyPrefixes :
    (legacyPrefixes mode).Leads (·.Unextended mode) (·.Unextended mode) where
  ok s t b hrun hs := by
    have hscan : ∀ bs s, scanPrefixes mode bs s = (.ok b, t) → s.prefixes.Unextended mode →
        t.prefixes.Unextended mode := by
      intro bs s h hs
      fun_induction scanPrefixes mode bs s with
      | case1 s => cases h
      | case2 b' rest s hmax => cases h
      | case3 b' rest s hmax p hp ih => exact ih h (hs.add? hp)
      | case4 b' rest s hmax hp =>
        cases h
        exact hs
    exact hscan s.rest s hrun hs

theorem quiet_checkBefore (encoding : EncodingKind) : (checkBefore encoding).Quiet fun _ => True :=
  (⟨.refl, fun _ _ _ _ => trivial⟩ : prefixes.Quiet fun _ => True).bind fun _ _ =>
    quiet_checkPrefixes _

/-- The encoding that an extended prefix selects is recorded with its opcode map. -/
theorem leads_selectMap (encoding : EncodingKind) (n : UInt8) (map? : Option OpcodeMap) :
    (selectMap encoding n map?).Leads (·.Unextended mode)
      fun p => p.Unextended mode ∧ p.encoding = encoding := by
  refine (leads_modifyPrefixes (Q := fun p => p.Unextended mode ∧ p.encoding = encoding)
    fun p hp => ⟨hp.select encoding p.map, rfl⟩).bind fun _ => ?_
  cases map? with
  | none => exact leads_throw _
  | some map => exact leads_modifyPrefixes fun p hp => ⟨hp.1.select p.encoding map, hp.2⟩

theorem quiet_vexPayload (short : Bool) : (vexPayload short).Quiet fun _ => True := by
  cases short with
  | true => exact quiet_byte.bind fun _ _ => quiet_pure trivial
  | false => exact quiet_byte.bind fun _ _ => quiet_byte.bind fun _ _ => quiet_pure trivial

theorem leads_vexLikePrefix (encoding : EncodingKind) (map? : UInt8 → Option OpcodeMap)
    (short : Bool) :
    (vexLikePrefix encoding map? mode short).Leads (·.Unextended mode) (·.Reaches mode) :=
  (quiet_checkBefore encoding).leads.bind fun _ => (quiet_vexPayload short).leads.bind fun v =>
    (leads_selectMap mode encoding v.mmmmm _).bind fun _ =>
      leads_modifyPrefixes fun _ hp => hp.1.addVex v

theorem leads_evexPrefix : (evexPrefix mode).Leads (·.Unextended mode) (·.Reaches mode) := by
  have hpayload : evexPayload.Quiet fun _ => True :=
    quiet_byte.bind fun _ _ => quiet_byte.bind fun _ _ => quiet_byte.bind fun _ _ =>
      quiet_pure trivial
  refine (quiet_checkBefore _).leads.bind fun _ => hpayload.leads.bind fun e => ?_
  refine (quiet_checkPrefixes _).leads.bind fun _ => ?_
  refine (leads_selectMap mode .evex e.mm _).bind fun _ => ?_
  exact (leads_modifyPrefixes fun _ hp => hp.1.addEvex hp.2 e).bind fun _ =>
    (quiet_checkPrefixes _).leads

/-- Whether or not the byte starts an extended prefix, the limit is kept. -/
theorem leads_extendedOpcode {b : UInt8} {starts : Reader Bool} {rest : Reader Unit}
    (hstarts : starts.Leads (·.Unextended mode) (·.Unextended mode))
    (hrest : rest.Leads (·.Unextended mode) (·.Reaches mode)) :
    (extendedOpcode b starts rest).Leads (·.Unextended mode) (·.Reaches mode) := by
  refine hstarts.bind fun extended => ?_
  cases extended with
  | true => exact hrest.bind fun _ => quiet_byte.leads
  | false => exact (leads_pure b).mono fun _ hp => hp.reaches

theorem leads_escapedOpcode : escapedOpcode.Leads (·.Unextended mode) (·.Reaches mode) := by
  have hmap : ∀ map : OpcodeMap, (modifyPrefixes fun p => { p with map := map }).Leads
      (·.Unextended mode) (·.Reaches mode) := fun map =>
    leads_modifyPrefixes fun p hp => (hp.select p.encoding map).reaches
  refine quiet_byte.leads.bind fun b => ?_
  split
  · exact (hmap _).bind fun _ => quiet_byte.leads
  split
  · exact (hmap _).bind fun _ => quiet_byte.leads
  · exact (hmap _).bind fun _ => leads_pure b

theorem leads_nextIs (test : UInt8 → Bool) : (nextIs test).Leads P P where
  ok s t a hrun hs := by rwa [(ensures_nextIs test s).of_ok hrun]

theorem leads_startsExtended : (startsExtended mode).Leads P P where
  ok s t a hrun hs := by rwa [(ensures_startsExtended mode s).of_ok hrun]

/-- Once the opcode has been read, register numbers reach no farther than the limit. -/
theorem leads_opcode : (opcode mode).Leads (·.Unextended mode) (·.Reaches mode) := by
  refine (leads_legacyPrefixes mode).bind fun b => ?_
  refine (leads_modifyPrefixes (Q := (·.Unextended mode)) fun _ hp => hp.select _ _).bind
    fun _ => ?_
  rw [opcodeFrom]
  split
  · exact leads_extendedOpcode mode (leads_startsExtended mode) (leads_vexLikePrefix ..)
  split
  · exact leads_extendedOpcode mode (leads_startsExtended mode) (leads_evexPrefix mode)
  split
  · exact leads_extendedOpcode mode (leads_nextIs _) (leads_vexLikePrefix ..)
  split
  · exact leads_escapedOpcode mode
  · exact (leads_pure b).mono fun _ hp => hp.reaches

end Reader

end X86Decoder
