import X86Decoder.Proofs.Opcode
import X86Decoder.Proofs.Progress
import X86Decoder.Proofs.Specimen

/-!
# Decodable forms

Which forms of the table some machine code is decoded to. A form can be lost in two ways: no
prefixes meet its demands, or every instruction that does meets those of an earlier form of its slot
too. Both happen, and eight forms are lost; every other form is decoded from its specimen.

* `Form.isContradictory`, `Form.isTwin`: why forms are lost.
* `Form.isLive`: a test that the specimen of a form is decoded to it.
* `Table.isSettled_slot`: every form passes the test that it should.
* `Table.decodable_iff_not_mem_lost`: the forms that can be decoded.
-/

namespace X86Decoder

/-- Some decoder yields an instruction of the form. -/
def Form.Decodable (f : Form) : Prop :=
  ∃ (mode : Mode) (data : List UInt8) (ip : UInt64) (d : Decoder) (inst : Instruction),
    Decoder.new (.known mode) data ip = .ok d ∧ d.next.1 = .ok inst ∧ inst.code = f.code

/-- The forms that a decoder yields are those of the bodies that can be read. -/
theorem Form.decodable_iff_exists_body (f : Form) :
    f.Decodable ↔ ∃ mode data body t,
      (Reader.body mode).runOn { rest := data } = (.ok body, t) ∧ body.form.code = f.code := by
  constructor
  · rintro ⟨mode, data, ip, d, inst, hnew, hnext, hcode⟩
    rw [Decoder.new] at hnew
    split at hnew <;> cases hnew
    obtain ⟨body, t, hbody, rfl⟩ := (Decoder.next_eq_ok_iff (Nat.zero_le _)).1 hnext
    exact ⟨mode, data, body, t, hbody, hcode⟩
  · rintro ⟨mode, data, body, t, hbody, hcode⟩
    -- Without data there is no byte to start with.
    have hdata : data.isEmpty = false := by
      cases data with
      | nil =>
        obtain ⟨_, _, hselector, -⟩ := Reader.exists_of_runOn_bind_ok hbody
        obtain ⟨_, _, hopcode, -⟩ := Reader.exists_of_runOn_bind_ok hselector
        obtain ⟨_, _, hprefixes, -⟩ := Reader.exists_of_runOn_bind_ok hopcode
        cases hprefixes
      | cons b data => rfl
    let d : Decoder := { mode := mode, data := data, ip := 0 }
    refine ⟨mode, data, 0, d, body.place mode d.currentIp, ?_, ?_, hcode⟩
    · simp [Decoder.new, hdata, d]
    · exact (Decoder.next_eq_ok_iff (Nat.zero_le _)).2 ⟨body, t, hbody, rfl⟩

/-! ### Forms that are lost -/

namespace PrefixState

/-- Without an extended prefix the B bit is that of a REX prefix. -/
def RexHoldsB (p : PrefixState) : Prop :=
  p.encoding = .legacy → p.b → p.hasRex

theorem rexHoldsB_of_ne_legacy {p : PrefixState} (h : p.encoding ≠ .legacy) : p.RexHoldsB :=
  fun hlegacy => absurd hlegacy h

/-- Every prefix sets the B bit and the REX prefix together. -/
theorem hasRex_of_add? {p q : PrefixState} {mode : Mode} {b : UInt8} (h : p.add? mode b = some q) :
    q.b → q.hasRex := by
  rw [add?] at h
  split at h
  · rw [addLegacy_eq] at h
    cases h
    intro hb
    cases hb
  · split at h <;> cases h
    exact fun _ => rfl

end PrefixState

namespace Reader

variable {mode : Mode} {s t : ReadState}

theorem hasRex_of_scanPrefixes {bs : List UInt8} {b : UInt8}
    (h : scanPrefixes mode bs s = (.ok b, t)) (hs : s.prefixes.b → s.prefixes.hasRex) :
    t.prefixes.b → t.prefixes.hasRex := by
  -- Each prefix establishes the property anew, whatever held before it.
  fun_induction scanPrefixes mode bs s with
  | case1 s => cases h
  | case2 b' rest s hmax => cases h
  | case3 b' rest s hmax p hp ih => exact ih h (PrefixState.hasRex_of_add? hp)
  | case4 b' rest s hmax hp =>
    cases h
    exact hs

theorem encoding_of_vexLikePrefix {encoding : EncodingKind} {map? : UInt8 → Option OpcodeMap}
    {short : Bool} (h : (vexLikePrefix encoding map? mode short).runOn s = (.ok (), t)) :
    t.prefixes.encoding = encoding := by
  obtain ⟨_, _, -, hpayload⟩ := exists_of_runOn_bind_ok h
  obtain ⟨v, _, -, hselect⟩ := exists_of_runOn_bind_ok hpayload
  obtain ⟨_, u, hmap, hmodify⟩ := exists_of_runOn_bind_ok hselect
  cases hmodify
  exact ((ensures_selectMap ..).of_ok hmap).2.1

theorem encoding_of_evexPrefix (h : (evexPrefix mode).runOn s = (.ok (), t)) :
    t.prefixes.encoding = .evex := by
  obtain ⟨_, _, -, hpayload⟩ := exists_of_runOn_bind_ok h
  obtain ⟨e, _, -, hfixed⟩ := exists_of_runOn_bind_ok hpayload
  obtain ⟨_, _, -, hselect⟩ := exists_of_runOn_bind_ok hfixed
  obtain ⟨_, u, hmap, hmodify⟩ := exists_of_runOn_bind_ok hselect
  obtain ⟨_, _, hmodified, hmasking⟩ := exists_of_runOn_bind_ok hmodify
  cases hmodified
  obtain ⟨-, rfl⟩ := ensures_checkPrefixes.of_ok hmasking
  exact ((ensures_selectMap ..).of_ok hmap).2.1

theorem rexHoldsB_of_extendedOpcode {b op : UInt8} {starts : Reader Bool} {rest : Reader Unit}
    (h : (extendedOpcode b starts rest).runOn s = (.ok op, t)) (hs : s.prefixes.RexHoldsB)
    (hstarts : starts.Ensures s fun _ u => u = s)
    (hrest : ∀ u, rest.runOn s = (.ok (), u) → u.prefixes.encoding ≠ .legacy) :
    t.prefixes.RexHoldsB := by
  obtain ⟨extended, u, hextended, hopcode⟩ := exists_of_runOn_bind_ok h
  obtain rfl := hstarts.of_ok hextended
  cases extended with
  | true =>
    obtain ⟨_, v, hprefix, hbyte⟩ := exists_of_runOn_bind_ok hopcode
    refine PrefixState.rexHoldsB_of_ne_legacy ?_
    rw [(quiet_byte.agree_of_runOn hbyte).prefixes]
    exact hrest v hprefix
  | false =>
    cases hopcode
    exact hs

/-- An escape changes nothing but the opcode map. -/
theorem rexHoldsB_of_escapedOpcode {op : UInt8} (h : escapedOpcode.runOn s = (.ok op, t))
    (hs : s.prefixes.RexHoldsB) : t.prefixes.RexHoldsB := by
  obtain ⟨b, u, hbyte, hopcode⟩ := exists_of_runOn_bind_ok h
  have hu : u.prefixes.RexHoldsB := by rwa [(quiet_byte.agree_of_runOn hbyte).prefixes]
  have hmap : ∀ {map : OpcodeMap} {v : ReadState} {r : Except DecodeFault UInt8},
      byte.runOn { u with prefixes := { u.prefixes with map := map } } = (r, v) →
      v.prefixes.RexHoldsB := by
    intro map v r hbyte
    rw [(quiet_byte.agree_of_runOn hbyte).prefixes]
    exact hu
  split at hopcode
  · exact hmap hopcode
  split at hopcode
  · exact hmap hopcode
  · cases hopcode
    exact hu

/-- Once the opcode has been read, the B bit is that of a REX prefix or of an extended one. -/
theorem rexHoldsB_of_opcode {data : List UInt8} {op : UInt8}
    (h : (opcode mode).runOn { rest := data } = (.ok op, t)) : t.prefixes.RexHoldsB := by
  obtain ⟨b, u, hprefixes, hmodify⟩ := exists_of_runOn_bind_ok h
  have hu : u.prefixes.b → u.prefixes.hasRex := hasRex_of_scanPrefixes hprefixes nofun
  obtain ⟨_, v, hmodified, hopcode⟩ := exists_of_runOn_bind_ok hmodify
  cases hmodified
  have hv : PrefixState.RexHoldsB { u.prefixes with encoding := .legacy, map := .primary } :=
    fun _ => hu
  -- An extended prefix puts another encoding in the place of the legacy one.
  rw [opcodeFrom] at hopcode
  split at hopcode
  · refine rexHoldsB_of_extendedOpcode hopcode hv (ensures_startsExtended mode _) fun w hw => ?_
    rw [encoding_of_vexLikePrefix hw]
    decide
  split at hopcode
  · refine rexHoldsB_of_extendedOpcode hopcode hv (ensures_startsExtended mode _) fun w hw => ?_
    rw [encoding_of_evexPrefix hw]
    decide
  split at hopcode
  · refine rexHoldsB_of_extendedOpcode hopcode hv (ensures_nextIs _ _) fun w hw => ?_
    rw [encoding_of_vexLikePrefix hw]
    decide
  split at hopcode
  · exact rexHoldsB_of_escapedOpcode hopcode hv
  · cases hopcode
    exact hv

/-- What a body has from before its form was known. -/
theorem fields_of_formBody {p : PrefixState} {m : ModRM} {f : Form} {body : Body}
    (h : (formBody p mode m f).runOn s = (.ok body, t)) :
    body.form = f ∧ body.prefixes = p ∧ body.isMemory = f.namesMemory m := by
  obtain ⟨_, _, -, hdraft⟩ := exists_of_runOn_bind_ok h
  obtain ⟨_, _, -, hoperands⟩ := exists_of_runOn_bind_ok hdraft
  obtain ⟨_, _, -, hrelative⟩ := exists_of_runOn_bind_ok hoperands
  obtain ⟨_, _, -, hposition⟩ := exists_of_runOn_bind_ok hrelative
  obtain ⟨_, _, -, hbody⟩ := exists_of_runOn_bind_ok hposition
  cases hbody
  exact ⟨rfl, rfl, rfl⟩

theorem form_of_formBody {p : PrefixState} {m : ModRM} {f : Form} {body : Body}
    (h : (formBody p mode m f).runOn s = (.ok body, t)) : body.form = f :=
  (fields_of_formBody h).1

theorem lookup_of_form {p : PrefixState} {op : UInt8} {m : ModRM} {f : Form}
    (h : (form p mode op m).runOn s = (.ok f, t)) :
    Table.lookup p (.known mode) op m = .ok f := by
  obtain ⟨found, u, hrequest, hfound⟩ := exists_of_runOn_bind_ok h
  rw [Table.lookupChecked] at hrequest
  split at hrequest <;> cases hrequest
  split at hfound
  · rename_i hlookup
    cases hfound
    exact hlookup
  · split at hfound <;> cases hfound

theorem runOn_form_of_lookup {p : PrefixState} {op : UInt8} {m : ModRM} {f : Form}
    (hcovers : Table.covers p.encoding p.map) (h : Table.lookup p (.known mode) op m = .ok f)
    (s : ReadState) : (form p mode op m).runOn s = (.ok f, s) := by
  rw [form, Table.lookupChecked, if_pos hcovers, h]
  rfl

/-- The form of a body has been looked up with the prefixes that the opcode was read with. -/
theorem exists_lookup_of_body {data : List UInt8} {body : Body}
    (h : (Reader.body mode).runOn { rest := data } = (.ok body, t)) :
    ∃ p op m, p.RexHoldsB ∧ Table.lookup p (.known mode) op m = .ok body.form := by
  obtain ⟨⟨p, op, m⟩, u, hselector, hrest⟩ := exists_of_runOn_bind_ok h
  obtain ⟨f, v, hform, hbody⟩ := exists_of_runOn_bind_ok hrest
  obtain ⟨op', w, hopcode, hwith⟩ := exists_of_runOn_bind_ok hselector
  obtain ⟨p', w', hprefixes, hmodrm⟩ := exists_of_runOn_bind_ok hwith
  obtain ⟨m', _, -, hselected⟩ := exists_of_runOn_bind_ok hmodrm
  cases hprefixes
  cases hselected
  rw [form_of_formBody hbody]
  exact ⟨_, op, m, rexHoldsB_of_opcode hopcode, lookup_of_form hform⟩

end Reader

namespace Form

/-- Whether the form demands the B bit, which only a REX prefix can set, and forbids that prefix. -/
def isContradictory (f : Form) : Bool :=
  match f.constraint with
  | .legacy c =>
    match c.rex, c.rexB with
    | .clear, .set => true
    | _, _ => false
  | _ => false

/-- What an instruction has to meet to match the form. -/
def demands (f : Form) : Constraint × ModRMPattern × ModeSet × List Flag :=
  (f.constraint, f.modrm, f.modes, f.flags)

/-- Whether the form demands the same as another one does. -/
def isTwin (f g : Form) : Bool :=
  decide (f.demands = g.demands)

/-- Nothing else decides whether an instruction matches. -/
theorem mismatch_eq_of_isTwin {f g : Form} (h : f.isTwin g) (p : PrefixState) (mode : StatedMode)
    (m : ModRM) : f.mismatch p mode m = g.mismatch p mode m := by
  obtain ⟨hconstraint, hrest⟩ := Prod.mk.inj (of_decide_eq_true h)
  obtain ⟨hmodrm, hrest⟩ := Prod.mk.inj hrest
  obtain ⟨hmodes, hflags⟩ := Prod.mk.inj hrest
  have hhas : f.has = g.has := by
    funext flag
    rw [has, has, hflags]
  cases mode with
  | other bits => rfl
  | known mode =>
    simp only [mismatch, prefixMismatch, legacyMismatch, extendedMismatch, modrmMismatch,
      hconstraint, hmodrm, hmodes, hhas]

/-- No prefixes that an instruction can have meet the demands of a contradictory form. -/
theorem mismatch_ne_none_of_isContradictory {f : Form} (h : f.isContradictory) {p : PrefixState}
    (hp : p.RexHoldsB) (hencoding : f.encoding = p.encoding) (mode : Mode) (m : ModRM) :
    f.mismatch p (.known mode) m ≠ none := by
  rw [isContradictory] at h
  split at h
  · rename_i c hconstraint
    split at h
    · rename_i hrex hrexB
      intro hmatch
      rw [mismatch, Option.orElse_eq_none, Option.orElse_eq_none] at hmatch
      have hprefix := hmatch.2.1
      simp only [prefixMismatch, hconstraint, legacyMismatch, Option.orElse_eq_none, hrex, hrexB,
        Requirement.allows] at hprefix
      obtain ⟨hnone, hb⟩ : p.hasRex = false ∧ p.b = true := by
        simpa [demand] using hprefix.2.2.2
      have hlegacy : p.encoding = .legacy := by rw [← hencoding, encoding, hconstraint]; rfl
      rw [hp hlegacy hb] at hnone
      cases hnone
    · cases h
  · cases h

/-- Whether the form is lost: it is contradictory, or an earlier form of the slot is its twin. -/
def isLost (slot : List Form) (f : Form) : Bool :=
  f.isContradictory
    || slot.any fun g => decide (g.code.number.toNat < f.code.number.toNat) && g.isTwin f

/-- No lookup yields a form that is lost. -/
theorem lookup_ne_of_isLost {f : Form} (h : f.isLost (Table.slot f.encoding f.map f.opcode))
    {p : PrefixState} (hp : p.RexHoldsB) (mode : Mode) (op : UInt8) (m : ModRM) :
    Table.lookup p (.known mode) op m ≠ .ok f := by
  intro hlookup
  obtain ⟨-, hencoding, -, -, hmatch⟩ := Table.lookup_ok hlookup
  rw [isLost, Bool.or_eq_true, List.any_eq_true] at h
  rcases h with hcontradictory | ⟨g, hg, htwin⟩
  · exact mismatch_ne_none_of_isContradictory hcontradictory hp hencoding mode m hmatch
  · -- The twin comes first and matches whatever the form does.
    rw [Bool.and_eq_true, decide_eq_true_iff] at htwin
    rw [Table.slot_eq_filter, List.mem_filter, decide_eq_true_iff] at hg
    obtain ⟨hmem, hencoding, hmap, hopcode⟩ := hg
    refine Table.mismatch_ne_none_of_lookup hlookup hmem hencoding hmap hopcode htwin.1 ?_
    rw [mismatch_eq_of_isTwin htwin.2, hmatch]

/-! ### Forms that are decoded from their specimens -/

/-- How many bytes of the specimen are read before the form is looked up. -/
def specimenStart (f : Form) : Nat :=
  f.specimenHeader.length + if f.modrm.present then 2 else 1

/-- The state in front of the rest of the specimen. -/
def specimenState (f : Form) : ReadState :=
  { rest := f.specimenRest, consumed := f.specimenStart, prefixes := f.specimenPrefixes }

/-- Whether the specimen is plain and so short that it ends within an instruction. -/
def isShort (f : Form) : Bool :=
  f.isPlain f.specimenPrefixes f.specimenModRM && !f.has .noK0
    && Nat.ble (bytesRead (f.specimenPrefixes.addressSize f.specimenMode) f.operands
      + if f.modrm.present then 1 else 0) 8

/-- Whether the specimen can be read to its end. The few that are not plain or short are tried. -/
def completes (f : Form) : Bool :=
  f.isShort
    || ((Reader.formBody f.specimenPrefixes f.specimenMode f.specimenModRM f).runOn
      f.specimenState).1.toOption.any fun _ => true

/-- Whether the specimen is decoded to the form, by the forms of its slot. -/
def isLive (slot : List Form) (f : Form) : Bool :=
  f.opensSpecimen
    && (match Table.firstMatch f.specimenPrefixes (.known f.specimenMode) f.specimenModRM slot
        none with
      | .ok g => Nat.beq g.code.number.toNat f.code.number.toNat
      | .error _ => false)
    && f.completes

/-- The prefixes of a specimen leave the numbers of registers at zero. -/
theorem plain_specimenPrefixes (f : Form) : f.specimenPrefixes.Plain := by
  rw [specimenPrefixes]
  cases f.constraint <;> exact ⟨rfl, rfl, rfl, rfl, rfl, rfl⟩

theorem opmask_specimenPrefixes {f : Form} (h : f.has .noK0 = false) :
    f.specimenPrefixes.opmask = 0 := by
  rw [specimenPrefixes, h]
  cases f.constraint <;> rfl

/-- A short specimen can be read to its end. -/
theorem exists_formBody_of_isShort {f : Form} (hf : f ∈ Table.forms) (h : f.isShort) :
    ∃ body t, (Reader.formBody f.specimenPrefixes f.specimenMode f.specimenModRM f).runOn
      f.specimenState = (.ok body, t) := by
  rw [isShort, Bool.and_eq_true, Bool.and_eq_true, Bool.not_eq_true'] at h
  obtain ⟨⟨hplain, hnoK0⟩, hsize⟩ := h
  have hsize := Nat.le_of_ble_eq_true hsize
  have hopmask : Body.checkOpmask f f.specimenPrefixes = none := by
    simp [Body.checkOpmask, opmask_specimenPrefixes hnoK0, hnoK0]
  have hpasses : (Reader.formBody f.specimenPrefixes f.specimenMode f.specimenModRM f).Passes
      (bytesRead (f.specimenPrefixes.addressSize f.specimenMode) f.operands) _ :=
    Reader.passes_formBody f.plain_specimenPrefixes hplain (Table.sound hf).length_operands
      fun _ => hopmask
  have hrest : f.specimenRest = List.replicate 8 0 := by
    rw [specimenRest, Reader.vsib?_eq_none hplain]
    rfl
  -- The header has six bytes at most, which leaves room for an opcode and eight more.
  have hstart : f.specimenStart + bytesRead (f.specimenPrefixes.addressSize f.specimenMode)
      f.operands ≤ maxLength := by
    have hheader := f.length_specimenHeader_le
    rw [specimenStart, maxLength]
    split at hsize <;> split <;> first | omega | contradiction
  have hready : f.specimenState.Ready
      (bytesRead (f.specimenPrefixes.addressSize f.specimenMode) f.operands + 0) := by
    refine ⟨?_, ?_, hstart⟩
    · rw [specimenState, hrest]
      exact fun b hb => List.eq_of_mem_replicate hb
    · rw [specimenState, hrest, List.length_replicate]
      omega
  obtain ⟨body, t, hbody, -⟩ := hpasses.run hready
  exact ⟨body, t, hbody⟩

theorem exists_formBody_of_completes {f : Form} (hf : f ∈ Table.forms) (h : f.completes) :
    ∃ body t, (Reader.formBody f.specimenPrefixes f.specimenMode f.specimenModRM f).runOn
      f.specimenState = (.ok body, t) := by
  rw [completes, Bool.or_eq_true] at h
  rcases h with hshort | htried
  · exact exists_formBody_of_isShort hf hshort
  · obtain ⟨body, t, hbody, -⟩ := Reader.exists_of_any_runOn htried
    exact ⟨body, t, hbody⟩

/-- A form that passes the test is decoded from its specimen. -/
theorem decodable_of_isLive {f : Form} (hf : f ∈ Table.forms)
    (hmodrm : Table.hasModRM f.encoding f.map f.opcode = f.modrm.present)
    (h : f.isLive (Table.slot f.encoding f.map f.opcode)) : f.Decodable := by
  rw [isLive, Bool.and_eq_true, Bool.and_eq_true] at h
  obtain ⟨⟨hopens, hfirst⟩, hcompletes⟩ := h
  split at hfirst
  · rename_i g hg
    -- The first form that matches has the code of the form, so it is the form.
    have hmem : g ∈ Table.forms := by
      have hslot := (Table.firstMatch_ok hg).1
      rw [Table.slot_eq_filter] at hslot
      exact (List.mem_filter.1 hslot).1
    obtain rfl := Table.eq_of_number_eq hmem hf (Nat.eq_of_beq_eq_true hfirst)
    obtain ⟨hencoding, hmap⟩ := g.specimenPrefixes_slot
    have hlookup : Table.lookup g.specimenPrefixes (.known g.specimenMode) g.opcode
        g.specimenModRM = .ok g := by
      rw [Table.lookup, hencoding, hmap, hg]
    have hcovers : Table.covers g.specimenPrefixes.encoding g.specimenPrefixes.map := by
      rw [hencoding, hmap]
      exact Table.covers_of_mem hf
    -- From here on the reader has the form, and reads the rest of the specimen with it.
    obtain ⟨body, t, hbody⟩ := exists_formBody_of_completes hf hcompletes
    refine g.decodable_iff_exists_body.2 ⟨g.specimenMode, g.specimen, body, t, ?_, ?_⟩
    · rw [Reader.runOn_body (Reader.runOn_selector_specimen hf hopens hmodrm),
        Reader.runOn_bind_of_ok (Reader.runOn_form_of_lookup hcovers hlookup _)]
      exact hbody
    · rw [Reader.form_of_formBody hbody]
  · cases hfirst

end Form

namespace Table

/-- The codes of the forms that are lost. Four of them move an immediate to R12L, R13L, R14L and
R15L and forbid the REX prefix that these registers need. The others have a 64-bit register where
the form before them, which demands the same, has a 32-bit one: RDPID, INVEPT, INVVPID and
INVPCID. -/
def lost : List Code :=
  [⟨495⟩, ⟨498⟩, ⟨501⟩, ⟨504⟩, ⟨2183⟩, ⟨3193⟩, ⟨3195⟩, ⟨3197⟩]

/-- Whether a form should be lost. -/
def shouldBeLost (f : Form) : Bool :=
  lost.any fun code => Nat.beq code.number.toNat f.code.number.toNat

/-- Whether the forms of a slot agree on the ModR/M byte, and the forms that are lost are those that
should be. -/
def isSettled (slot : List Form) : Bool :=
  (slot.all (fun f => f.modrm.present) || slot.all fun f => !f.modrm.present)
    && slot.all fun f => if shouldBeLost f then f.isLost slot else f.isLive slot

theorem isSettled_slot {f : Form} (hf : f ∈ forms) :
    isSettled (slot f.encoding f.map f.opcode) := by
  refine of_all_slots ?_ hf
  -- Tested in parts: what the kernel keeps of one part is dropped before the next.
  refine all_of_parts 8 (by decide +kernel) (all_of_parts 8 (by decide +kernel) ?_)
  refine all_of_parts 6 (by decide +kernel) (all_of_parts 6 (by decide +kernel) ?_)
  refine all_of_parts 6 (by decide +kernel) (all_of_parts 6 (by decide +kernel) ?_)
  exact all_of_parts 10 (by decide +kernel) (by decide +kernel)

theorem shouldBeLost_iff (f : Form) : shouldBeLost f ↔ f.code ∈ lost := by
  rw [shouldBeLost, List.any_eq_true]
  constructor
  · rintro ⟨code, hcode, hnumber⟩
    obtain rfl := Code.eq_of_toNat_number (Nat.eq_of_beq_eq_true hnumber)
    exact hcode
  · intro hcode
    exact ⟨f.code, hcode, Nat.beq_refl _⟩

theorem mem_slot {f : Form} (hf : f ∈ forms) : f ∈ slot f.encoding f.map f.opcode := by
  rw [slot_eq_filter, List.mem_filter]
  exact ⟨hf, decide_eq_true ⟨rfl, rfl, rfl⟩⟩

/-- The forms of a slot agree on the ModR/M byte. -/
theorem hasModRM_eq {f : Form} (hf : f ∈ forms) :
    hasModRM f.encoding f.map f.opcode = f.modrm.present := by
  have hagree := (Bool.and_eq_true_iff.1 (isSettled_slot hf)).1
  rw [Bool.or_eq_true, List.all_eq_true, List.all_eq_true] at hagree
  rw [hasModRM]
  rcases hagree with hpresent | habsent
  · rw [hpresent f (mem_slot hf), List.any_eq_true]
    exact ⟨f, mem_slot hf, hpresent f (mem_slot hf)⟩
  · have hself := habsent f (mem_slot hf)
    rw [Bool.not_eq_true'] at hself
    rw [hself, List.any_eq_false]
    intro g hg
    simpa using habsent g hg

/-- The test of a form is the one that it should pass. -/
theorem isLost_or_isLive {f : Form} (hf : f ∈ forms) :
    (f.code ∈ lost → f.isLost (slot f.encoding f.map f.opcode)) ∧
      (f.code ∉ lost → f.isLive (slot f.encoding f.map f.opcode)) := by
  have hall := (Bool.and_eq_true_iff.1 (isSettled_slot hf)).2
  have hself := List.all_eq_true.1 hall f (mem_slot hf)
  rw [← shouldBeLost_iff]
  split at hself
  · rename_i hlost
    exact ⟨fun _ => hself, fun h => absurd hlost h⟩
  · rename_i hlost
    exact ⟨fun h => absurd h hlost, fun _ => hself⟩

/-- A form that is lost cannot be decoded. -/
theorem not_decodable_of_mem_lost {f : Form} (hf : f ∈ forms) (h : f.code ∈ lost) :
    ¬f.Decodable := by
  intro hdecodable
  obtain ⟨mode, data, body, t, hbody, hcode⟩ := f.decodable_iff_exists_body.1 hdecodable
  obtain ⟨p, op, m, hp, hlookup⟩ := Reader.exists_lookup_of_body hbody
  rw [eq_of_number_eq (lookup_ok hlookup).1 hf (by rw [hcode])] at hlookup
  exact Form.lookup_ne_of_isLost ((isLost_or_isLive hf).1 h) hp mode op m hlookup

/-- A form of the table can be decoded exactly if it is none of the eight that are lost. -/
theorem decodable_iff_not_mem_lost {f : Form} (hf : f ∈ forms) :
    f.Decodable ↔ f.code ∉ lost := by
  constructor
  · exact fun hdecodable hlost => not_decodable_of_mem_lost hf hlost hdecodable
  · exact fun hlive => Form.decodable_of_isLive hf (hasModRM_eq hf) ((isLost_or_isLive hf).2 hlive)

/-- Beside the moves to R12L that are lost, the one to SPL can be decoded. -/
theorem decodable_mov_spl : ∃ f ∈ forms, f.code = ⟨494⟩ ∧ f.Decodable := by
  obtain ⟨f, hf, hcode⟩ : ∃ f ∈ forms, f.code = ⟨494⟩ :=
    exists_mem_forms (by decide) (by decide)
  refine ⟨f, hf, hcode, (decodable_iff_not_mem_lost hf).2 ?_⟩
  rw [hcode]
  decide

/-- The eight forms are in the table, and none of them can be decoded. -/
theorem exists_not_decodable :
    lost.length = 8 ∧ ∀ code ∈ lost, ∃ f ∈ forms, f.code = code ∧ ¬f.Decodable := by
  refine ⟨rfl, fun code hcode => ?_⟩
  have hall : ∀ code ∈ lost, 0 < code.number.toNat ∧ code.number.toNat ≤ 3902 := by
    simp [lost]
  obtain ⟨f, hf, rfl⟩ := exists_mem_forms (hall code hcode).1 (hall code hcode).2
  exact ⟨f, hf, rfl, not_decodable_of_mem_lost hf hcode⟩

end Table

end X86Decoder
