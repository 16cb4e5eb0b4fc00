import X86Decoder.Proofs.Constants.Value
import X86Decoder.Proofs.Registers.Reach

/-!
# Register operands

A register operand holds a register of the family that its form declares, of the width that it
declares if it is a general purpose register, and with a number that the prefixes reach.

* `Register.Fits`: what the mode and the prefixes allow.
* `OperandSpec.Selects`: a register that an operand can select.
* `Frame.Regular.bounds`: what a form that matches says about the registers of an operand.
* `Frame.selects_of_value`: the register operands of an instruction.
-/

namespace X86Decoder

namespace Register

/-- The byte registers SPL, BPL, SIL and DIL. -/
def rexBytes : List Register :=
  [spl, spl.after 1, spl.after 2, spl.after 3]

/-- The register exists in the mode, and with the encoding and the REX prefix if it needs them. -/
structure Fits (mode : Mode) (encoding : EncodingKind) (rex : Bool) (r : Register) : Prop where
  /-- Outside 64-bit mode there are eight registers of a family. -/
  index_lt : mode ≠ .bits64 → r.index < 8
  /-- Outside 64-bit mode the general purpose registers have up to 32 bits. -/
  bits_le : mode ≠ .bits64 → r.family = .general → r.bits ≤ 32
  /-- Outside 64-bit mode these byte registers do not exist. -/
  not_mem : mode ≠ .bits64 → r ∉ rexBytes
  /-- The upper half of the vector registers needs an EVEX prefix. -/
  encoding_eq : 16 ≤ r.index → encoding = .evex
  /-- These byte registers need a REX prefix. -/
  rex_eq : r ∈ rexBytes → rex = true

theorem Fits.of_lt {mode : Mode} {p : PrefixState} (hp : p.Reaches mode) {r : Register}
    (hindex : r.index < registerLimit mode p.encoding)
    (hbits : mode ≠ .bits64 → r.family = .general → r.bits ≤ 32)
    (hrex : r ∈ rexBytes → p.hasRex) : r.Fits mode p.encoding p.hasRex where
  index_lt hmode := by rwa [registerLimit, if_neg hmode] at hindex
  bits_le := hbits
  not_mem hmode hmem := by
    have hfalse := (hp.rex hmode).1
    rw [hrex hmem] at hfalse
    cases hfalse
  encoding_eq hle := by
    rw [registerLimit] at hindex
    split at hindex
    · split at hindex
      · assumption
      · omega
    · omega
  rex_eq := hrex

/-- The general purpose registers are numbered by width. -/
theorem generalByte_spec {n : Nat} (hn : n < 16) (rex : Bool) :
    (generalByte n rex).family = .general ∧ (generalByte n rex).bits = 8 ∧
      (generalByte n rex).index = n ∧ (generalByte n rex ∈ rexBytes → rex) := by
  have hall : ∀ rex ∈ [true, false], ∀ n < 16,
      (generalByte (n : Nat) rex).family = .general ∧ (generalByte (n : Nat) rex).bits = 8 ∧
        (generalByte (n : Nat) rex).index = n ∧ (generalByte (n : Nat) rex ∈ rexBytes → rex) := by
    decide
  exact hall rex (by cases rex <;> decide) n hn

theorem general_spec {width : DataWidth} (hwidth : width ≠ .w8) {n : Nat} (hn : n < 16) :
    (general width n).family = .general ∧ (general width n).bits = width.bits ∧
      (general width n).index = n ∧ general width n ∉ rexBytes := by
  have hall : ∀ width ∈ [DataWidth.w16, .w32, .w64], ∀ n < 16,
      (general width (n : Nat)).family = .general ∧ (general width (n : Nat)).bits = width.bits ∧
        (general width (n : Nat)).index = n ∧ general width (n : Nat) ∉ rexBytes := by decide
  refine hall width ?_ n hn
  cases width <;> first | decide | exact absurd rfl hwidth

end Register

/-- The other registers are numbered by family. -/
theorem RegisterFamily.member_spec {family : RegisterFamily} {n : Nat} (hn : n < 32) {r : Register}
    (hr : family.member n = .ok r) (hne : r ≠ .none) :
    r.family = family ∧ r.index = n ∧ r ∉ Register.rexBytes := by
  have hall : ∀ family ∈ [RegisterFamily.segment, .x87, .mmx, .control, .debug, .xmm, .ymm, .zmm,
      .opmask], ∀ n < 32, ∀ r ∈ (family.member (n : Nat)).toOption,
        r = .none ∨ r.family = family ∧ r.index = n ∧ r ∉ Register.rexBytes := by decide
  refine (hall family ?_ n hn r (by rw [hr]; rfl)).resolve_left hne
  cases family <;> first | decide | cases hr

/-! ### Register operands -/

/-- The register is one that an operand can select: of its family and width, and within reach of the
prefixes. -/
structure OperandSpec.Selects (spec : OperandSpec) (mode : Mode) (p : PrefixState) (r : Register) :
    Prop where
  ne_none : r ≠ .none
  family_eq : r.family = spec.family
  bits_eq : spec.family = .general → r.bits = spec.bits
  index_lt : r.index < registerLimit mode p.encoding
  rex_of_mem : r ∈ Register.rexBytes → p.hasRex

/-- A number of three bits that is extended by bits within reach. -/
theorem PrefixState.Reaches.number_lt {mode : Mode} {p : PrefixState} {n : UInt8} (hn : n.toNat ≤ 7)
    {high higher : Bool} (hhigh : mode ≠ .bits64 → high = false)
    (hhigher : mode ≠ .bits64 ∨ p.encoding ≠ .evex → higher = false) :
    extended high n + (if higher then 16 else 0) < registerLimit mode p.encoding := by
  have hlt := extended_lt hn high
  by_cases hmode : mode = .bits64
  · rw [registerLimit, if_pos hmode]
    by_cases hevex : p.encoding = .evex
    · rw [if_pos hevex]
      split <;> omega
    · rw [if_neg hevex, hhigher (.inr hevex)]
      exact hlt
  · rw [registerLimit, if_neg hmode, hhigher (.inl hmode), hhigh hmode]
    exact Nat.lt_succ_of_le hn

namespace Reader

variable {mode : Mode} {p : PrefixState} {spec : OperandSpec}

/-- What a general purpose register of a width is, by whichever of the two ways it is named. -/
theorem generalRegister_spec {bits n : Nat} (hn : n < 16) {r : Register}
    (hr : generalRegister p bits n = .ok r) :
    r.family = .general ∧ r.bits = bits ∧ r.index = n ∧ (r ∈ Register.rexBytes → p.hasRex) := by
  rw [generalRegister] at hr
  split at hr
  · rename_i hbits
    cases hr
    rw [hbits]
    exact Register.generalByte_spec hn p.hasRex
  · rename_i hbits
    rw [Register.ofBits] at hr
    split at hr
    · rename_i width hwidth
      cases hr
      have heq : width.bits = bits := by
        have hfound := List.find?_some hwidth
        exact Int.ofNat_inj.1 (eq_of_beq hfound)
      have hne : width ≠ .w8 := by
        rintro rfl
        exact hbits heq.symm
      obtain ⟨hgeneral, hwide, hindex, hrex⟩ := Register.general_spec hne hn
      exact ⟨hgeneral, hwide.trans heq, hindex, fun h => absurd h hrex⟩
    · cases hr

theorem quiet_register_selects {n : Nat} (hn : n < registerLimit mode p.encoding)
    (hgeneral : spec.family = .general → n < 16) :
    (register p spec n).Quiet (spec.Selects mode p) := by
  rw [register]
  split
  · rename_i hfamily
    refine quiet_request fun r hr => ?_
    obtain ⟨hmember, hbits, hindex, hrex⟩ := generalRegister_spec (hgeneral hfamily) hr
    refine ⟨?_, hmember.trans hfamily.symm, fun _ => hbits, ?_, hrex⟩
    · rintro rfl
      exact absurd hmember (by decide)
    · rwa [hindex]
  · rename_i hfamily
    -- The x87 and MMX registers are numbered by the low bits, which makes the number no larger.
    have hle : (if spec.family = .mmx ∨ spec.family = .x87 then n % 8 else n) ≤ n := by
      split
      · exact Nat.mod_le _ _
      · exact Nat.le_refl _
    have hlt := Nat.lt_of_le_of_lt hle hn
    refine (quiet_request fun r hr => hr).bind fun r hr => ?_
    split
    · exact quiet_throw _
    · rename_i hne
      obtain ⟨hmember, hindex, hrex⟩ :=
        RegisterFamily.member_spec (Nat.lt_of_lt_of_le hlt (registerLimit_le ..)) hr hne
      refine quiet_pure ⟨hne, hmember, fun h => absurd h hfamily, ?_, fun h => absurd h hrex⟩
      rwa [hindex]

variable (hp : p.Reaches mode)

include hp

theorem quiet_regRegister_selects (m : ModRM) :
    (regRegister p spec m).Quiet (spec.Selects mode p) := by
  have hreg : m.reg.toNat ≤ 7 := Bits.toNat_getRun_le _ _ _
  have hr : mode ≠ .bits64 → p.r = false := fun hmode => (hp.rex hmode).2.1
  have hplain : m.reg.toNat < registerLimit mode p.encoding :=
    PrefixState.Reaches.number_lt hreg (fun _ => rfl) fun _ => rfl
  rw [regRegister]
  split
  -- Of the families, only the vector registers are numbered by the higher bit as well.
  case h_5 | h_6 | h_7 =>
    rename_i hfamily
    refine quiet_register_selects (PrefixState.Reaches.number_lt hreg hr fun h => (hp.high h).1) ?_
    intro hgeneral
    rw [hfamily] at hgeneral
    cases hgeneral
  case h_4 =>
    split
    · exact quiet_throw _
    · exact quiet_register_selects hplain fun _ => by omega
  case h_8 => exact quiet_register_selects hplain fun _ => by omega
  all_goals
    exact quiet_register_selects (PrefixState.Reaches.number_lt hreg hr fun _ => rfl)
      fun _ => extended_lt hreg p.r

theorem quiet_rmRegister_selects (m : ModRM) :
    (rmRegister p spec m).Quiet (spec.Selects mode p) := by
  have hb : mode ≠ .bits64 → p.b = false := fun hmode => (hp.rex hmode).2.2.2
  have hplain : m.rm.toNat < registerLimit mode p.encoding :=
    PrefixState.Reaches.number_lt m.rm_le (fun _ => rfl) fun _ => rfl
  have hrm := m.rm_le
  rw [rmRegister]
  split
  case h_1 =>
    exact quiet_register_selects (PrefixState.Reaches.number_lt m.rm_le hb fun _ => rfl)
      fun _ => extended_lt m.rm_le p.b
  case h_5 => exact quiet_register_selects hplain fun _ => by omega
  all_goals
    rename_i hfamily
    refine quiet_register_selects
      (PrefixState.Reaches.number_lt m.rm_le hb fun h => (hp.high h).2.1) fun hgeneral => ?_
    rw [hfamily] at hgeneral
    cases hgeneral

/-- Under an EVEX prefix the vvvv field may hold a number that no general purpose register has. -/
theorem quiet_vvvvRegister_selects (hevex : spec.family = .general → p.encoding ≠ .evex) :
    (vvvvRegister p spec).Quiet (spec.Selects mode p) := by
  rw [vvvvRegister]
  split
  · exact quiet_throw _
  · refine quiet_register_selects hp.vvvv_lt fun hgeneral => Nat.lt_of_lt_of_le hp.vvvv_lt ?_
    rw [registerLimit, if_neg (hevex hgeneral)]
    split <;> decide

omit hp in
theorem quiet_is4Register_selects (v : UInt64) :
    (is4Register p mode spec v).Quiet (spec.Selects mode p) := by
  have hlt : v.toNat / 16 % (if mode = .bits64 then 16 else 8) < if mode = .bits64 then 16 else 8 :=
    Nat.mod_lt _ (by split <;> decide)
  refine quiet_register_selects (Nat.lt_of_lt_of_le hlt ?_) fun _ => Nat.lt_of_lt_of_le hlt ?_
  · rw [registerLimit]
    split
    · split <;> decide
    · exact Nat.le_refl _
  · split <;> decide

end Reader

/-! ### Forms -/

namespace Form

/-- Whether the form exists in 64-bit mode only. -/
def isOnly64 (f : Form) : Bool :=
  !f.modes.has16 && !f.modes.has32

/-- Whether the form demands a REX prefix. -/
def demandsRex (f : Form) : Bool :=
  match f.constraint with
  | .legacy c => c.rex.isSet
  | _ => false

/-- Whether the operands of the form stay within the registers of its modes. -/
def boundsRegisters (f : Form) : Bool :=
  f.operands.all fun o =>
    (o.spec.family != .general || Nat.ble o.spec.bits 32 || f.isOnly64 || Table.shouldBeLost f) &&
      match o.spec with
      | .vvvv cls => cls.family != .general || f.encoding != .evex
      | .implicit r =>
        r != .none && (!decide (r ∈ Register.rexBytes) || f.demandsRex)
          && Nat.blt r.index (if f.isOnly64 then 16 else 8)
      | _ => true

variable {f : Form} {p : PrefixState} {mode : Mode} {m : ModRM}

theorem has_of_mismatch (h : f.mismatch p (.known mode) m = none) : f.modes.has mode := by
  rw [mismatch, Option.orElse_eq_none] at h
  have hmode := h.1
  rw [demand] at hmode
  split at hmode
  · assumption
  · cases hmode

theorem eq_bits64_of_isOnly64 (hf : f.isOnly64) (h : f.modes.has mode) : mode = .bits64 := by
  rw [isOnly64, Bool.and_eq_true, Bool.not_eq_true', Bool.not_eq_true'] at hf
  cases mode with
  | bits16 =>
    rw [ModeSet.has, hf.1] at h
    cases h
  | bits32 =>
    rw [ModeSet.has, hf.2] at h
    cases h
  | bits64 => rfl

theorem hasRex_of_demandsRex (hf : f.demandsRex) (h : f.mismatch p (.known mode) m = none) :
    p.hasRex := by
  rw [mismatch, Option.orElse_eq_none, Option.orElse_eq_none] at h
  have hprefix := h.2.1
  rw [demandsRex] at hf
  split at hf
  · rename_i c hconstraint
    simp only [prefixMismatch, hconstraint, legacyMismatch, Option.orElse_eq_none] at hprefix
    have hrex := hprefix.2.2.2
    rw [demand] at hrex
    split at hrex
    · rename_i hallows
      rw [Bool.and_eq_true] at hallows
      cases hrequirement : c.rex <;> rw [hrequirement] at hf hallows
      · cases hf
      · exact hallows.1
      · cases hf
    · cases hrex
  · cases hf

end Form

/-- What a form that matches says about the registers of an operand. -/
theorem Frame.Regular.bounds {c : Frame} (hc : c.Regular) (hrex : c.prefixes.RexHoldsB)
    {o : FormOperand} (ho : o ∈ c.form.operands) :
    (c.mode ≠ .bits64 → o.spec.family = .general → o.spec.bits ≤ 32) ∧
      (∀ cls, o.spec = .vvvv cls → cls.family = .general → c.prefixes.encoding ≠ .evex) ∧
      ∀ r, o.spec = .implicit r → o.spec.Selects c.mode c.prefixes r := by
  have hall : Table.forms.all Form.boundsRegisters := by
    rw [Table.forms_eq]
    decide +kernel
  have hform := List.all_eq_true.1 (List.all_eq_true.1 hall c.form hc.mem_forms) o ho
  rw [Bool.and_eq_true] at hform
  obtain ⟨hwidth, hspec⟩ := hform
  obtain ⟨op, hlookup⟩ := hc.lookup
  obtain ⟨hmem, hencoding, -, -, hmatch⟩ := Table.lookup_ok hlookup
  have honly : c.form.isOnly64 → c.mode = .bits64 :=
    fun h => Form.eq_bits64_of_isOnly64 h (Form.has_of_mismatch hmatch)
  refine ⟨fun hmode hfamily => ?_, fun cls hcls hfamily => ?_, fun r hr => ?_⟩
  · simp only [Bool.or_eq_true, bne_iff_ne] at hwidth
    rcases hwidth with ((hother | hle) | h64) | hlost
    · exact absurd hfamily hother
    · exact Nat.le_of_ble_eq_true hle
    · exact absurd (honly h64) hmode
    · -- A lookup never yields a form that is lost.
      have hcode := (Table.shouldBeLost_iff c.form).1 hlost
      have hisLost := (Table.isLost_or_isLive hmem).1 hcode
      exact absurd hlookup (Form.lookup_ne_of_isLost hisLost hrex _ _ _)
  · rw [hcls] at hspec
    simp only [Bool.or_eq_true, bne_iff_ne] at hspec
    rw [← hencoding]
    exact hspec.resolve_left fun hne => hne hfamily
  · rw [hr] at hspec ⊢
    simp only [Bool.and_eq_true, Bool.or_eq_true, bne_iff_ne] at hspec
    obtain ⟨⟨hne, hbytes⟩, hindex⟩ := hspec
    -- The register is written in the form, so its family and width are those of the operand.
    refine ⟨hne, rfl, fun _ => rfl, ?_, fun hmember => ?_⟩
    · have hlt : r.index < if c.form.isOnly64 then 16 else 8 := Nat.le_of_ble_eq_true hindex
      rw [registerLimit]
      by_cases hmode : c.mode = .bits64
      · have hsixteen : (if c.form.isOnly64 then 16 else 8) ≤ 16 := by split <;> decide
        rw [if_pos hmode]
        split <;> omega
      · rw [if_neg fun h => hmode (honly h)] at hlt
        rwa [if_neg hmode]
    · refine Form.hasRex_of_demandsRex (hbytes.resolve_left ?_) hmatch
      simp [hmember]

/-! ### Instructions -/

theorem Reader.Quiet.of_value? {α : Type} {m : Reader α} {P : α → Prop} (h : m.Quiet P) {a : α}
    (ha : m.value? = some a) : P a := by
  obtain ⟨s, t, hrun⟩ := exists_of_value? ha
  exact h.ok s t a hrun

/-- A register operand holds a register that its form lets it select. -/
theorem Frame.selects_of_value {c : Frame} (hc : c.Regular) (hrex : c.prefixes.RexHoldsB)
    (hp : c.prefixes.Reaches c.mode) {o : FormOperand} (ho : o ∈ c.form.operands)
    {bs : List UInt8} {v : Operand} (hv : c.value o.spec bs = some v) (hkind : v.kind = .register) :
    o.spec.Selects c.mode c.prefixes v.register := by
  obtain ⟨-, hvvvv, himplicit⟩ := hc.bounds hrex ho
  -- The kind leaves the operands that name registers, each read in its own way.
  have hspec := (kind_of_value hv).1 hkind
  generalize o.spec = spec at hv hvvvv himplicit hspec ⊢
  have hregister : ∀ {m : Reader Register}, m.Quiet (spec.Selects c.mode c.prefixes) →
      m.value?.map (fun r => ({ register := r } : Operand)) = some v →
      spec.Selects c.mode c.prefixes v.register := by
    intro m hm hmap
    obtain ⟨r, hr, rfl⟩ := Option.map_eq_some_iff.1 hmap
    exact hm.of_value? hr
  cases spec with
  | reg cls => exact hregister (Reader.quiet_regRegister_selects hp c.modrm) hv
  | rm _ | rmRegister _ | rmMemory =>
    rw [value] at hv
    split at hv
    · cases hv
      cases hkind
    · exact hregister (Reader.quiet_rmRegister_selects hp c.modrm) hv
  | vvvv cls => exact hregister (Reader.quiet_vvvvRegister_selects hp (hvvvv cls rfl)) hv
  | is4 cls => exact hregister (Reader.quiet_is4Register_selects _) hv
  | implicit r =>
    cases hv
    exact himplicit r rfl
  | one | immediate _ | relative _ _ | far _ | moffs _ | stringSource _ | stringDestination _
  | maskDestination | vsib _ _ => cases hspec

end X86Decoder
