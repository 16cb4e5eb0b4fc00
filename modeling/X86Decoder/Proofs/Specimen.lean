import X86Decoder.Proofs.PlainPrefix
import X86Decoder.Proofs.Slot

/-!
# Specimens

A specimen of a form is machine code that meets the form's demands with as little as possible: the
prefixes that it demands and no others, register numbers that are zero, and zero bytes to the end.
Reading it arrives at the opcode of the form with exactly these prefixes.

* `Form.specimen`: the machine code.
* `Form.opensSpecimen`: its start is not taken for something else.
* `Reader.runOn_selector_specimen`: what is read from it before the form is looked up.
-/

namespace X86Decoder

namespace Requirement

/-- Whether a bit has to be set. -/
def isSet : Requirement → Bool
  | set => true
  | _ => false

end Requirement

namespace Form

/-- A mode that the form exists in. Addresses of 16 bits do not exist in 64-bit mode. -/
def specimenMode (f : Form) : Mode :=
  match f.modes.has64, f.constraint.legacyPart.addressSize with
  | true, some .w16 => .bits32
  | true, _ => .bits64
  | false, _ => .bits32

/-- Whether the form has to be given an operand size of 64 bits by W. -/
def needsW (f : Form) (c : LegacyConstraint) : Bool :=
  match c.operandSize with
  | some .w64 => !(f.has .default64 || f.has .force64)
  | _ => false

/-- The prefixes that a form without an extended prefix demands. -/
def specimenRun (f : Form) (c : LegacyConstraint) : ShortRun where
  repetition :=
    match c.mandatory with
    | .pF3 => some .repe
    | .pF2 => some .repne
    | _ => none
  operandSize :=
    match c.mandatory, c.operandSize with
    | .p66, _ => true
    | _, some .w16 => true
    | _, _ => false
  addressSize :=
    match c.addressSize, f.specimenMode with
    | some .w16, _ => true
    | some .w32, .bits64 => true
    | _, _ => false
  rex :=
    if c.rex.isSet || c.rexB.isSet || f.needsW c then some (f.needsW c, c.rexB.isSet) else none

/-- The bytes of the specimen before the opcode. -/
def specimenHeader (f : Form) : List UInt8 :=
  match f.constraint with
  | .legacy c => (f.specimenRun c).bytes ++ f.map.escape
  | .vex c =>
    (ExtendedPrefix.vex (.plain f.map c.mandatory c.w.isSet c.low)).bytes
  | .xop c =>
    (ExtendedPrefix.xop (.plain f.map c.mandatory c.w.isSet c.low)).bytes
  | .evex c =>
    (ExtendedPrefix.evex
      (.plain f.map c.mandatory c.w.isSet c.low c.high (f.has .noK0))).bytes

/-- What the prefixes of the specimen say. -/
def specimenPrefixes (f : Form) : PrefixState :=
  match f.constraint with
  | .legacy c => { (f.specimenRun c).state with map := f.map }
  | .vex c =>
    { encoding := .vex, map := f.map, mandatory := c.mandatory, w := c.w.isSet
      l := if c.low then 1 else 0 }
  | .xop c =>
    { encoding := .xop, map := f.map, mandatory := c.mandatory, w := c.w.isSet
      l := if c.low then 1 else 0 }
  | .evex c =>
    { encoding := .evex, map := f.map, mandatory := c.mandatory, w := c.w.isSet
      l := (if c.high then 2 else 0) + (if c.low then 1 else 0)
      ll := (if c.high then 2 else 0) + (if c.low then 1 else 0)
      opmask := if f.has .noK0 then 1 else 0 }

/-- The prefixes lead to the slot of the form. -/
theorem specimenPrefixes_slot (f : Form) :
    f.specimenPrefixes.encoding = f.encoding ∧ f.specimenPrefixes.map = f.map := by
  rw [specimenPrefixes, encoding]
  cases f.constraint <;> exact ⟨rfl, rfl⟩

/-- The mod and rm fields of the specimen. They name memory only if they have to, and a vector of
indices needs a SIB byte. -/
def specimenPlace (f : Form) : UInt8 :=
  if f.vsib?.isSome then 0b00000100 else if f.has .memoryOnly then 0 else 0b11000000

/-- The ModR/M byte of the specimen. -/
def specimenModRM (f : Form) : ModRM :=
  match f.modrm with
  | .absent => ⟨0⟩
  | .any => ⟨f.specimenPlace⟩
  | .reg n => ⟨(n <<< 3) ||| f.specimenPlace⟩
  | .byte b => ⟨b⟩
  | .registers n => ⟨(n <<< 3) ||| 0b11000000⟩

/-- The bytes of the specimen after the ModR/M byte. The vector of indices, if there is one, is
number one, so that it differs from the other registers. -/
def specimenRest (f : Form) : List UInt8 :=
  if f.vsib?.isSome then 0b1000 :: List.replicate 8 0 else List.replicate 8 0

/-- The bytes of the specimen after the opcode. -/
def specimenOperands (f : Form) : List UInt8 :=
  if f.modrm.present then f.specimenModRM.byte :: f.specimenRest else f.specimenRest

/-- Machine code that meets the demands of the form. -/
def specimen (f : Form) : List UInt8 :=
  f.specimenHeader ++ f.opcode :: f.specimenOperands

/-- Whether the opcode map and the mandatory prefix of the form can be written in its encoding, and
the bytes that come out are not taken for something else. -/
def opensSpecimen (f : Form) : Bool :=
  match f.constraint with
  | .legacy c =>
    (match (f.specimenRun c).rex, f.specimenMode with
      | none, _ | _, .bits64 => true
      | _, _ => false)
      && opens f.specimenMode f.map f.opcode f.specimenOperands
  | .vex c | .evex c => c.mandatory.exists? && f.map.isVex
  | .xop c => c.mandatory.exists? && f.map.isXop

end Form

theorem Form.length_specimenHeader_le (f : Form) : f.specimenHeader.length ≤ 6 := by
  have hescape : f.map.escape.length ≤ 2 := by cases f.map <;> simp [OpcodeMap.escape]
  rw [specimenHeader]
  cases f.constraint with
  | legacy c =>
    rw [List.length_append]
    exact Nat.add_le_add (ShortRun.length_bytes_le _) hescape
  | vex c | evex c | xop c => exact Nat.le_trans (ExtendedPrefix.length_bytes_le _) (by decide)

namespace Reader

variable {f : Form}

/-- The opcode of the specimen is read with its prefixes. -/
theorem runOn_opcode_specimen (h : f.opensSpecimen) :
    (opcode f.specimenMode).runOn { rest := f.specimen } =
      (.ok f.opcode,
        { rest := f.specimenOperands
          consumed := f.specimenHeader.length + 1
          prefixes := f.specimenPrefixes }) := by
  rw [Form.opensSpecimen] at h
  rw [Form.specimen, Form.specimenHeader, Form.specimenPrefixes]
  cases hconstraint : f.constraint with
  | legacy c =>
    rw [hconstraint, Bool.and_eq_true] at h
    refine runOn_opcode_escape ?_ h.2
    -- A run with a REX prefix is written in 64-bit mode only.
    have hrun := h.1
    split at hrun
    · exact .inl ‹_›
    · exact .inr ‹_›
    · cases hrun
  | vex c =>
    rw [hconstraint, Bool.and_eq_true] at h
    obtain ⟨hmap, hrecognised⟩ := ExtendedPrefix.vex_plain f.map c.mandatory c.w.isSet c.low h.2 h.1
      f.specimenMode
    refine (runOn_opcode_behind hmap trivial hrecognised f.opcode _).trans ?_
    rw [ExtendedPrefix.state, ExtendedPrefix.vexState_plain _ _ _ _ h.1]
  | xop c =>
    rw [hconstraint, Bool.and_eq_true] at h
    have hmap := ExtendedPrefix.xop_plain f.map c.mandatory c.w.isSet c.low h.2
    refine (runOn_opcode_behind hmap trivial trivial f.opcode _).trans ?_
    rw [ExtendedPrefix.state, ExtendedPrefix.vexState_plain _ _ _ _ h.1]
  | evex c =>
    rw [hconstraint, Bool.and_eq_true] at h
    obtain ⟨hmap, hvalid, hrecognised⟩ := ExtendedPrefix.evex_plain f.map c.mandatory c.w.isSet
      c.low c.high (f.has .noK0) h.2 h.1 f.specimenMode
    refine (runOn_opcode_behind hmap hvalid hrecognised f.opcode _).trans ?_
    rw [ExtendedPrefix.state, ExtendedPrefix.evexState_plain _ _ _ _ _ _ h.2 h.1]

/-- The ModR/M byte of the specimen is read where the opcode of the form has one. -/
theorem runOn_selector_specimen (hf : f ∈ Table.forms) (hopens : f.opensSpecimen)
    (hmodrm : Table.hasModRM f.encoding f.map f.opcode = f.modrm.present) :
    (selector f.specimenMode).runOn { rest := f.specimen } =
      (.ok (f.specimenPrefixes, f.opcode, f.specimenModRM),
        { rest := f.specimenRest
          consumed := f.specimenHeader.length + if f.modrm.present then 2 else 1
          prefixes := f.specimenPrefixes }) := by
  have hcovers := Table.covers_of_mem hf
  obtain ⟨hencoding, hmap⟩ := f.specimenPrefixes_slot
  rw [selector, runOn_bind_of_ok (runOn_opcode_specimen hopens), withModRM,
    runOn_bind_of_ok (runOn_prefixes _), modrm, hencoding, hmap, hcovers, hmodrm]
  cases hpresent : f.modrm.present with
  | true =>
    have hread : f.specimenHeader.length + 1 < maxLength :=
      Nat.lt_of_le_of_lt (Nat.add_le_add_right f.length_specimenHeader_le 1) (by decide)
    have hbyte := runOn_byte_cons
      (s := { rest := f.specimenOperands, consumed := f.specimenHeader.length + 1
              prefixes := f.specimenPrefixes })
      (by rw [Form.specimenOperands, if_pos hpresent]) hread
    rw [runOn_bind, if_neg (by decide), if_pos rfl, runOn_map, hbyte]
    rfl
  | false =>
    have habsent : f.specimenModRM = ⟨0⟩ := by
      rw [Form.specimenModRM]
      split <;> simp_all [ModRMPattern.present]
    rw [Form.specimenOperands, hpresent, habsent]
    rfl

end Reader

end X86Decoder
