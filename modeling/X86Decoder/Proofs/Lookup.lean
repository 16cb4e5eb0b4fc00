import X86Decoder.Proofs.Bits
import X86Decoder.Proofs.Slot

/-!
# What a lookup says

A lookup yields the first form of its slot that matches. Where there is none, the reason is the
closest mismatch of all forms, and it is that of the last demand, on the mod field, exactly if the
other kind of ModR/M byte would have matched: memory in the place of a register, or a register in
the place of memory.

Three facts about forms are used, all of them fields of `Form.Sound`: no form demands both kinds
(`registerOnly_eq_false`), a fixed ModR/M byte leaves no demand on the kind (`kind_of_byte`), and a
pattern with a register in it demands one (`registerOnly_of_registers`).

* `Mismatch.closer_eq_mod_iff`, `Table.exists_error_of_firstMatch`: the closest mismatch.
* `ModRM.Opposite`: the same registers with the other kind.
* `Form.mismatch_eq_mod_iff`: which forms fail at the last demand.
* `Table.lookup_classifies`: what a lookup yields, and how it fails.
-/

namespace X86Decoder

/-! ### The closest mismatch -/

namespace Mismatch

/-- The demand on the mod field is the last one. -/
theorem rank_le_mod (a : Mismatch) : a.rank ≤ mod.rank := by
  cases a <;> decide

theorem eq_mod_of_rank_le {a : Mismatch} (h : mod.rank ≤ a.rank) : a = mod := by
  cases a <;> first | rfl | exact absurd h (by decide)

/-- So nothing comes closer than a mismatch there. -/
theorem closer_eq_mod_iff {a b : Option Mismatch} :
    closer a b = some mod ↔ a = some mod ∨ b = some mod := by
  rcases a with _ | a <;> rcases b with _ | b
  · simp [closer]
  · simp [closer]
  · simp [closer]
  · simp only [closer, Option.some.injEq]
    split
    · rename_i hlt
      -- The first is not the last one, since it is before the second.
      have hne : a ≠ mod := by
        rintro rfl
        exact absurd (rank_le_mod b) (Nat.not_le.2 hlt)
      simp [hne]
    · rename_i hle
      have hlast : b = mod → a = mod := by
        rintro rfl
        exact eq_mod_of_rank_le (Nat.not_lt.1 hle)
      simpa using hlast

end Mismatch

namespace Table

variable {p : PrefixState} {mode : StatedMode} {m : ModRM} {fs : List Form}

/-- The search yields the first form that matches. -/
theorem firstMatch_of_find? {f : Form}
    (h : fs.find? (fun f => decide (f.mismatch p mode m = none)) = some f)
    (closest : Option Mismatch) : firstMatch p mode m fs closest = .ok f := by
  induction fs generalizing closest with
  | nil => cases h
  | cons g fs ih =>
    rw [firstMatch]
    cases hg : g.mismatch p mode m with
    | none =>
      rw [List.find?_cons, hg] at h
      cases h
      rfl
    | some reason =>
      rw [List.find?_cons, hg] at h
      exact ih h _

/-- Where nothing matches, the search fails at the last demand exactly if some form does. -/
theorem exists_error_of_firstMatch (h : ∀ f ∈ fs, f.mismatch p mode m ≠ none)
    (closest : Option Mismatch) :
    ∃ reason, firstMatch p mode m fs closest = .error reason ∧
      (reason = some .mod ↔
        closest = some .mod ∨ ∃ f ∈ fs, f.mismatch p mode m = some .mod) := by
  -- The mismatches so far are summed up in the closest of them.
  induction fs generalizing closest with
  | nil => exact ⟨closest, rfl, by simp⟩
  | cons g fs ih =>
    rw [List.forall_mem_cons] at h
    rw [firstMatch]
    cases hg : g.mismatch p mode m with
    | none => exact absurd hg h.1
    | some reason =>
      obtain ⟨final, hfinal, hiff⟩ := ih h.2 (Mismatch.closer closest (some reason))
      refine ⟨final, hfinal, ?_⟩
      simp [hiff, Mismatch.closer_eq_mod_iff, or_assoc, hg]

end Table

/-! ### The other kind of ModR/M byte -/

/-- The bytes have the same reg and rm fields, and one names memory where the other names a
register. -/
structure ModRM.Opposite (m m' : ModRM) : Prop where
  reg : m'.reg = m.reg
  rm : m'.rm = m.rm
  isRegister : m'.isRegister = !m.isRegister

/-- Every byte has one of the other kind. -/
theorem ModRM.exists_opposite (m : ModRM) : ∃ m', m.Opposite m' := by
  have hall := Bits.of_all_bytes (fun b =>
    let m' : ModRM := ⟨if (ModRM.mk b).isRegister then b &&& 0x3f else b ||| 0xc0⟩
    decide (m'.reg = (ModRM.mk b).reg ∧ m'.rm = (ModRM.mk b).rm ∧
      m'.isRegister = !(ModRM.mk b).isRegister)) (by decide)
  obtain ⟨hreg, hrm, hkind⟩ := of_decide_eq_true (hall m.byte)
  exact ⟨_, hreg, hrm, hkind⟩

/-- Whether the pattern leaves the mod field to other demands: neither is the byte fixed, nor does
the pattern itself name a register. -/
def ModRMPattern.leavesMod : ModRMPattern → Bool
  | byte _ | registers _ => false
  | _ => true

theorem ModRMPattern.byte?_of_leavesMod {pattern : ModRMPattern} (h : pattern.leavesMod) :
    pattern.byte? = none := by
  cases pattern <;> first | rfl | cases h

namespace Form

/-- Whether the form goes with ModR/M bytes that name a register, or with those that name memory. -/
def admits (f : Form) (register : Bool) : Bool :=
  f.has .modIgnored || if register then !f.has .memoryOnly else !f.has .registerOnly

variable {f : Form} {p : PrefixState} {mode : Mode} {m m' : ModRM}

/-- Only the b bit of an EVEX prefix lets the ModR/M byte play a part in the demands on the
prefixes. -/
theorem prefixMismatch_congr (h : ¬(p.encoding = .evex ∧ p.broadcast)) (m m' : ModRM) :
    f.prefixMismatch p mode m = f.prefixMismatch p mode m' := by
  have hrounds : ∀ b b' : Bool, (p.encoding == .evex && p.broadcast && b && b') = false := by
    intro b b'
    cases hevex : p.encoding == .evex
    · rfl
    · cases hb : p.broadcast
      · rfl
      · exact absurd ⟨beq_iff_eq.1 hevex, hb⟩ h
  rw [prefixMismatch, prefixMismatch]
  cases f.constraint with
  | legacy c => rfl
  | vex c | evex c | xop c => simp only [extendedMismatch, hrounds]

/-- None of the demands on the prefixes is the last one. -/
theorem prefixMismatch_ne_mod : f.prefixMismatch p mode m ≠ some .mod := by
  have hdemand : ∀ (reason : Mismatch) (met : Bool) (rest : Option Mismatch), reason ≠ .mod →
      rest ≠ some .mod → (demand reason met <|> rest) ≠ some .mod := by
    intro reason met rest hreason hrest
    cases met <;> simpa [demand]
  have hlast : ∀ (reason : Mismatch) (met : Bool), reason ≠ .mod →
      demand reason met ≠ some .mod := by
    intro reason met hreason
    cases met <;> simp [demand, hreason]
  rw [prefixMismatch]
  cases f.constraint with
  | legacy c =>
    exact hdemand _ _ _ (by decide) (hdemand _ _ _ (by decide)
      (hdemand _ _ _ (by decide) (hlast _ _ (by decide))))
  | vex c | evex c | xop c =>
    exact hdemand _ _ _ (by decide) (hdemand _ _ _ (by decide) (hlast _ _ (by decide)))

theorem admits_iff {register : Bool} :
    f.admits register ↔ f.has .modIgnored ∨
      (f.has .registerOnly → register) ∧ (f.has .memoryOnly → register = false) := by
  cases register <;> simp [admits]

/-- A form that does not go with one kind goes with the other. -/
theorem Sound.admits_not (hf : f.Sound) {register : Bool} (h : f.admits register = false) :
    f.admits !register := by
  cases register with
  | false =>
    -- The form demands a register, so it does not demand memory.
    cases hmemory : f.has .memoryOnly with
    | false => simp [admits, hmemory]
    | true => simp [admits, hf.registerOnly_eq_false hmemory] at h
  | true =>
    have hmemory : f.has .memoryOnly := by
      simp only [admits, ↓reduceIte, Bool.or_eq_false_iff, Bool.not_eq_false'] at h
      exact h.2
    simp [admits, hf.registerOnly_eq_false hmemory]

/-- A form fails at the last demand if the ModR/M byte has the wrong kind and nothing else is
wrong with it. -/
theorem modrmMismatch_eq_mod_iff (hf : f.Sound) (hpresent : f.modrm.present) :
    f.modrmMismatch m = some .mod ↔
      f.modrm.leavesMod ∧ (∀ n ∈ f.modrm.reg?, m.reg = n) ∧ f.admits m.isRegister = false := by
  rw [modrmMismatch, admits]
  cases hpattern : f.modrm with
  | absent => simp [hpattern, ModRMPattern.present] at hpresent
  | any =>
    cases f.has .modIgnored <;> cases f.has .registerOnly <;> cases f.has .memoryOnly <;>
      cases m.isRegister <;>
      simp [demand, ModRMPattern.present, ModRMPattern.byte?, ModRMPattern.reg?,
        ModRMPattern.leavesMod]
  | reg n =>
    by_cases hreg : m.reg = n <;> cases f.has .modIgnored <;> cases f.has .registerOnly <;>
      cases f.has .memoryOnly <;> cases m.isRegister <;>
      simp [demand, ModRMPattern.present, ModRMPattern.byte?, ModRMPattern.reg?,
        ModRMPattern.leavesMod, hreg]
  | byte b =>
    -- A fixed byte leaves no demand on the kind.
    obtain ⟨hregister, hmemory⟩ := hf.kind_of_byte b (by rw [hpattern]; rfl)
    by_cases hbyte : m.byte = b <;> cases f.has .modIgnored <;>
      simp [demand, ModRMPattern.present, ModRMPattern.byte?, ModRMPattern.reg?,
        ModRMPattern.leavesMod, hregister, hmemory, hbyte]
  | registers n =>
    -- Memory in the place of the register is another ModR/M byte, and not one of the wrong kind.
    have hregister := hf.registerOnly_of_registers n hpattern
    have hmemory : f.has .memoryOnly = false := by
      cases hmemory : f.has .memoryOnly with
      | false => rfl
      | true =>
        rw [hf.registerOnly_eq_false hmemory] at hregister
        cases hregister
    by_cases hreg : m.reg = n <;> cases f.has .modIgnored <;> cases m.isRegister <;>
      simp [demand, ModRMPattern.present, ModRMPattern.byte?, ModRMPattern.reg?,
        ModRMPattern.leavesMod, hregister, hmemory, hreg]

/-- A form that does not match a ModR/M byte fails at the last demand exactly if it leaves the mod
field open and matches a byte of the other kind. -/
theorem modrmMismatch_eq_mod_iff_opposite (hf : f.Sound) (hne : f.modrmMismatch m ≠ none) :
    f.modrmMismatch m = some .mod ↔
      f.modrm.leavesMod ∧ ∃ m', m.Opposite m' ∧ f.modrmMismatch m' = none := by
  have hpresent : f.modrm.present := by
    by_contra hpresent
    exact hne (by simp [modrmMismatch, hpresent])
  simp only [modrmMismatch_eq_mod_iff hf hpresent, modrmMismatch_eq_none_iff hpresent,
    ← admits_iff]
  refine and_congr_right fun hleaves => ?_
  have hbyte : ∀ (m : ModRM), ∀ b ∈ f.modrm.byte?, m.byte = b := by
    simp [ModRMPattern.byte?_of_leavesMod hleaves]
  constructor
  · rintro ⟨hreg, hadmits⟩
    obtain ⟨m', hopposite⟩ := m.exists_opposite
    refine ⟨m', hopposite, hbyte m', ?_, ?_⟩
    · rwa [hopposite.reg]
    · rw [hopposite.isRegister]
      exact hf.admits_not hadmits
  · rintro ⟨m', hopposite, -, hreg, -⟩
    rw [hopposite.reg] at hreg
    refine ⟨hreg, ?_⟩
    cases hadmits : f.admits m.isRegister with
    | false => rfl
    | true => exact absurd ((modrmMismatch_eq_none_iff hpresent).2
        ⟨hbyte m, hreg, admits_iff.1 hadmits⟩) hne

/-- The same with the other demands on the form, none of which goes by the kind of the ModR/M byte
unless that makes the length field a rounding mode. -/
theorem mismatch_eq_mod_iff (hf : f.Sound) (hrounds : ¬(p.encoding = .evex ∧ p.broadcast))
    (hne : f.mismatch p (.known mode) m ≠ none) :
    f.mismatch p (.known mode) m = some .mod ↔
      f.modrm.leavesMod ∧ ∃ m', m.Opposite m' ∧ f.mismatch p (.known mode) m' = none := by
  have hsplit : ∀ m', f.mismatch p (.known mode) m' =
      (demand .mode (f.modes.has mode) <|> f.prefixMismatch p mode m <|> f.modrmMismatch m') := by
    intro m'
    rw [mismatch, prefixMismatch_congr hrounds m' m]
  have hprefix : f.prefixMismatch p mode m ≠ some .mod := prefixMismatch_ne_mod
  cases hmode : f.modes.has mode with
  | false => simp [hsplit, hmode, demand]
  | true =>
    cases hmismatch : f.prefixMismatch p mode m with
    | some reason =>
      rw [hmismatch] at hprefix
      simpa [hsplit, hmode, hmismatch, demand] using hprefix
    | none =>
      -- Nothing but the ModR/M byte is left.
      have hmodrm : ∀ m', f.mismatch p (.known mode) m' = f.modrmMismatch m' := by
        intro m'
        rw [hsplit, hmode, hmismatch]
        rfl
      simp only [hmodrm] at hne ⊢
      exact modrmMismatch_eq_mod_iff_opposite hf hne

end Form

/-! ### Lookups -/

namespace Table

variable {p : PrefixState} {mode : Mode} {op : UInt8} {m : ModRM}

/-- Where no form of the slot matches, the lookup fails, and it says reserved exactly if some form
fails at the last demand. -/
theorem exists_error_of_lookup
    (h : ∀ f ∈ slot p.encoding p.map op, f.mismatch p (.known mode) m ≠ none) :
    ∃ e, lookup p (.known mode) op m = .error e ∧
      (e.isReserved ↔
        ∃ f ∈ slot p.encoding p.map op, f.mismatch p (.known mode) m = some .mod) := by
  obtain ⟨reason, hreason, hiff⟩ := exists_error_of_firstMatch h none
  refine ⟨⟨p.encoding, p.map, op, reason⟩, by rw [lookup, hreason], ?_⟩
  simpa [LookupFailure.isReserved] using hiff

/-- A lookup that is not of an EVEX prefix with b set yields the first form of the table with the
encoding, opcode map and opcode that matches. Where there is none it fails, and it says reserved
exactly if some form that leaves the mod field open matches a ModR/M byte of the other kind. -/
theorem lookup_classifies (p : PrefixState) (mode : Mode) (op : UInt8) (m : ModRM)
    (hcovers : covers p.encoding p.map) (hrounds : ¬(p.encoding = .evex ∧ p.broadcast)) :
    let first := forms.find? fun f =>
      decide ((f.encoding = p.encoding ∧ f.map = p.map ∧ f.opcode = op) ∧
        f.mismatch p (.known mode) m = none)
    (∀ f, first = some f → lookupChecked p (.known mode) op m = .ok (.ok f)) ∧
      (first = none → ∃ e, lookupChecked p (.known mode) op m = .ok (.error e) ∧
        (e.isReserved ↔ ∃ f ∈ forms, (f.encoding = p.encoding ∧ f.map = p.map ∧ f.opcode = op) ∧
          f.modrm.leavesMod ∧ ∃ m' : ModRM, m'.reg = m.reg ∧ m'.rm = m.rm ∧
            m'.isRegister = (!m.isRegister) ∧ f.mismatch p (.known mode) m' = none)) := by
  intro first
  have hfirst : first = (slot p.encoding p.map op).find? fun f =>
      decide (f.mismatch p (.known mode) m = none) := by
    rw [slot_eq_filter, List.find?_filter]
    simp [first]
  rw [lookupChecked, if_pos hcovers, hfirst]
  constructor
  · intro f hf
    rw [lookup, firstMatch_of_find? hf none]
  · intro hnone
    have hne : ∀ f ∈ slot p.encoding p.map op, f.mismatch p (.known mode) m ≠ none := by
      simpa using hnone
    obtain ⟨e, he, hiff⟩ := exists_error_of_lookup hne
    refine ⟨e, by rw [he], hiff.trans ?_⟩
    constructor
    · rintro ⟨f, hf, hmod⟩
      obtain ⟨hmem, hslot⟩ := mem_slot_iff.1 hf
      obtain ⟨hleaves, m', hopposite, hmatch⟩ :=
        (Form.mismatch_eq_mod_iff (sound hmem) hrounds (hne f hf)).1 hmod
      exact ⟨f, hmem, hslot, hleaves, m', hopposite.reg, hopposite.rm, hopposite.isRegister, hmatch⟩
    · rintro ⟨f, hmem, hslot, hleaves, m', hreg, hrm, hkind, hmatch⟩
      have hf : f ∈ slot p.encoding p.map op := mem_slot_iff.2 ⟨hmem, hslot⟩
      exact ⟨f, hf, (Form.mismatch_eq_mod_iff (sound hmem) hrounds (hne f hf)).2
        ⟨hleaves, m', ⟨hreg, hrm, hkind⟩, hmatch⟩⟩

/-- LDS loads a far pointer from memory, so C5 with a register is reserved outside 64-bit mode. -/
theorem lookup_classifies_lds :
    ∃ e, lookupChecked {} (.known .bits32) 0xc5 ⟨0xc0⟩ = .ok (.error e) ∧ e.isReserved := by
  have hforms :
      ((forms.find? fun f =>
        decide ((f.encoding = .legacy ∧ f.map = .primary ∧ f.opcode = 0xc5) ∧
          f.mismatch {} (.known .bits32) ⟨0xc0⟩ = none)) = none) ∧
      forms.any fun f =>
        decide ((f.encoding = .legacy ∧ f.map = .primary ∧ f.opcode = 0xc5) ∧ f.modrm.leavesMod ∧
          f.mismatch {} (.known .bits32) ⟨0x00⟩ = none) := by
    rw [forms_eq]
    decide +kernel
  obtain ⟨hnone, hany⟩ := hforms
  obtain ⟨f, hf, hmemory⟩ := List.any_eq_true.1 hany
  obtain ⟨hslot, hleaves, hmatch⟩ := of_decide_eq_true hmemory
  obtain ⟨e, he, hiff⟩ := (lookup_classifies {} .bits32 0xc5 ⟨0xc0⟩ rfl (by decide)).2 hnone
  exact ⟨e, he, hiff.2 ⟨f, hf, hslot, hleaves, ⟨0x00⟩, by decide, by decide, by decide, hmatch⟩⟩

end Table

end X86Decoder
