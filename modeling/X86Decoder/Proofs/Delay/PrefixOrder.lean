import X86Decoder.Proofs.Delay.Instruction

/-!
# Order and repetition of prefixes

Each legacy prefix belongs to a group, and only the prefixes of one group get in each other's way.
So it does not matter which of two neighbours from different groups comes first, and a prefix that
is written twice says what it says once. It only makes the instruction a byte longer.

* `PrefixState.addLegacy_comm`: prefixes of different groups can be exchanged.
* `PrefixState.ofRun_repeat`: a prefix can be repeated.
* `decode_prefix_order`: what both of them mean for decoding.
-/

namespace X86Decoder

/-- The groups of legacy prefixes. -/
inductive LegacyPrefix.Group where
  | lock
  | repetition
  | segment
  | operandSize
  | addressSize
deriving DecidableEq

/-- The group of a prefix. -/
def LegacyPrefix.group : LegacyPrefix → Group
  | .lock => .lock
  | .repne | .repe => .repetition
  | .cs | .ss | .ds | .es | .fs | .gs => .segment
  | .operandSize => .operandSize
  | .addressSize => .addressSize

theorem isPrefixByte_byte (mode : Mode) (legacy : LegacyPrefix) :
    isPrefixByte mode legacy.byte = true := by
  simp [isPrefixByte_eq]

namespace PrefixState

/-- Prefixes of different groups act on different things. Only 66 and the repeat prefixes share one,
the mandatory prefix, and there the repeat prefix goes first whatever the order. -/
theorem addLegacy_comm (p : PrefixState) (mode : Mode) {x y : LegacyPrefix}
    (h : x.group ≠ y.group) :
    (p.addLegacy mode x).addLegacy mode y = (p.addLegacy mode y).addLegacy mode x := by
  simp only [addLegacy_eq]
  cases x <;> cases y <;> first
    | exact absurd rfl h
    | simp

/-- A prefix that is there already adds nothing. -/
theorem addLegacy_addLegacy (p : PrefixState) (mode : Mode) (x : LegacyPrefix) :
    (p.addLegacy mode x).addLegacy mode x = p.addLegacy mode x := by
  have hmandatory : ∀ m : Mandatory,
      (if (if m = .none then .p66 else m) = .none then .p66 else if m = .none then .p66 else m) =
        if m = .none then Mandatory.p66 else m := by
    intro m
    cases m <;> rfl
  -- FS and GS stay in 64-bit mode, so the segment that is there after the first one is kept.
  by_cases hkept : mode = .bits64 ∧ (p.segment = .fs ∨ p.segment = .gs)
  · cases x <;> simp [addLegacy_eq, hkept, hmandatory]
  · cases x <;> simp [addLegacy_eq, if_neg hkept, hmandatory]

theorem addRex_addRex (p : PrefixState) (rex : Rex) : (p.addRex rex).addRex rex = p.addRex rex := by
  rfl

/-- A run says the same with two neighbours of different groups exchanged. -/
theorem ofRun_swap (mode : Mode) (before : List UInt8) {x y : LegacyPrefix}
    (h : x.group ≠ y.group) :
    ofRun mode (before ++ [x.byte, y.byte]) = ofRun mode (before ++ [y.byte, x.byte]) := by
  have hpair : ∀ a b : LegacyPrefix, ofRun mode (before ++ [a.byte, b.byte]) =
      ((ofRun mode before).addLegacy mode a).addLegacy mode b := by
    intro a b
    rw [List.append_cons, ofRun_concat_legacy, ofRun_concat_legacy]
  rw [hpair, hpair, addLegacy_comm _ mode h]

/-- A run says the same with a byte of it repeated at once. -/
theorem ofRun_repeat {mode : Mode} (before : List UInt8) {b : UInt8}
    (hb : isPrefixByte mode b = true) :
    ofRun mode (before ++ [b, b]) = ofRun mode (before ++ [b]) := by
  rw [List.append_cons]
  cases hlegacy : LegacyPrefix.ofByte? b with
  | some legacy =>
    obtain rfl := LegacyPrefix.byte_of_ofByte? hlegacy
    rw [ofRun_concat_legacy, ofRun_concat_legacy, addLegacy_addLegacy]
  | none =>
    have hrex : Rex.isRex b = true := by
      rw [isPrefixByte_eq, hlegacy] at hb
      simpa using (Bool.and_eq_true_iff.1 hb).2
    rw [ofRun_concat_rex mode _ hrex, ofRun_concat_rex mode _ hrex, addRex_addRex]

end PrefixState

section Order

variable {mode : Mode} {before : List UInt8} (hbefore : before.all (isPrefixByte mode) = true)
  (rest : List UInt8) (ip : UInt64)

include hbefore

/-- Neighbours of different groups can be exchanged. -/
theorem decode_swap {x y : LegacyPrefix} (h : x.group ≠ y.group) :
    (decode mode (before ++ x.byte :: y.byte :: rest) ip).outcome =
      (decode mode (before ++ y.byte :: x.byte :: rest) ip).outcome := by
  have hpair : ∀ a b : LegacyPrefix,
      (before ++ [a.byte, b.byte]).all (isPrefixByte mode) = true := by
    intro a b
    simp [List.all_append, hbefore, isPrefixByte_byte]
  have hsplit : ∀ a b : LegacyPrefix, before ++ a.byte :: b.byte :: rest =
      before ++ [a.byte, b.byte] ++ rest := by
    intro a b
    simp
  have hlength : ∀ a b : LegacyPrefix,
      (before ++ [a.byte, b.byte]).length = before.length + 2 := by
    intro a b
    simp
  rw [hsplit, hsplit]
  -- Where the two do not both fit, no room is left for an opcode, whichever comes first.
  by_cases hfits : before.length + 2 ≤ maxLength
  · rw [decode_run (hpair x y) ((hlength x y).symm ▸ hfits),
      decode_run (hpair y x) ((hlength y x).symm ▸ hfits), hlength, hlength,
      PrefixState.ofRun_swap mode before h]
  · have hfull : maxLength ≤ before.length + 2 := Nat.le_of_not_le hfits
    rw [decode_run_of_le (hpair x y) ((hlength x y).symm ▸ hfull),
      decode_run_of_le (hpair y x) ((hlength y x).symm ▸ hfull)]

/-- With a byte of the run repeated, decoding goes on one byte later and with the same prefixes. -/
theorem decode_repeat {b : UInt8} (hb : isPrefixByte mode b = true)
    (hlength : before.length + 1 < maxLength) :
    ∃ s : ReadState, s.consumed < maxLength ∧ s.relative = false ∧
      decode mode (before ++ b :: rest) ip = decodeFrom mode s ip ∧
      decode mode (before ++ b :: b :: rest) ip = decodeFrom mode s.later ip := by
  have honce : (before ++ [b]).all (isPrefixByte mode) = true := by
    simp [List.all_append, hbefore, hb]
  have htwice : (before ++ [b, b]).all (isPrefixByte mode) = true := by
    simp [List.all_append, hbefore, hb]
  have hat := decode_run honce (by simp; omega) rest ip
  have hlater := decode_run htwice (by simp; omega) rest ip
  have hmore : (before ++ [b, b]).length = (before ++ [b]).length + 1 := by simp
  rw [PrefixState.ofRun_repeat before hb, hmore] at hlater
  rw [List.append_assoc] at hat hlater
  exact ⟨_, by simpa using hlength, rfl, hat, hlater⟩

end Order

/-- Neither the order of prefixes from different groups nor a repetition matters. Two neighbours
can be exchanged, whatever decoding comes to. A byte of the run that is repeated makes the
instruction one byte longer, and too long if it has the greatest length already. -/
theorem decode_prefix_order (mode : Mode) (ip : UInt64) (before : List UInt8)
    (hbefore : before.all (isPrefixByte mode) = true) (rest : List UInt8) :
    (∀ x y : LegacyPrefix, x.group ≠ y.group →
      (decode mode (before ++ x.byte :: y.byte :: rest) ip).outcome =
        (decode mode (before ++ y.byte :: x.byte :: rest) ip).outcome) ∧
    ∀ b, isPrefixByte mode b = true → ∀ inst,
      (decode mode (before ++ b :: rest) ip).outcome = .ok inst →
        (inst.length ≤ 14 →
          (decode mode (before ++ b :: b :: rest) ip).outcome = .ok (inst.lengthened mode)) ∧
        (inst.length = 15 →
          (decode mode (before ++ b :: b :: rest) ip).outcome = .error ⟨15, .tooLong⟩) := by
  refine ⟨fun x y h => decode_swap hbefore rest ip h, fun b hb inst hinst => ?_⟩
  have hroom : before.length + 1 < maxLength := by
    by_contra hfull
    have honce : (before ++ [b]).all (isPrefixByte mode) = true := by
      simp [List.all_append, hbefore, hb]
    have hlong := decode_run_of_le honce (by simp; omega) rest ip
    rw [List.append_assoc] at hlong
    exact nomatch hinst.symm.trans hlong
  obtain ⟨s, hs, hrelative, honce, htwice⟩ := decode_repeat hbefore rest ip hb hroom
  rw [honce] at hinst
  rw [htwice]
  constructor
  · intro hlength
    have htrails := (Reader.delays_body mode).delaysAt s hs
    exact (decodeFrom_eq_ok_iff_of_trails htrails hrelative).2
      ⟨inst, hinst, Nat.lt_succ_of_le hlength, rfl⟩
  · exact decodeFrom_later_of_full hs hinst

theorem decode_prefix_order_imul :
    (decode .bits64 [0x4c, 0x4c, 0x69, 0x05, 0x78, 0x56, 0x34, 0x12, 0xf0, 0xff, 0xff, 0xff]
        0x1000).outcome =
      .ok { imul with
        nextIp := 0x100c
        length := 12
        memory := { imul.memory with displacement := 0x12346684 }
        constants := { displacement := ⟨4, 4⟩, first := ⟨8, 4⟩ } } ∧
    (decode .bits64 [0x66, 0xf2, 0x69, 0x05, 0x78, 0x56, 0x34, 0x12, 0xf0, 0xff, 0xff, 0xff]
        0x1000).outcome =
      (decode .bits64 [0xf2, 0x66, 0x69, 0x05, 0x78, 0x56, 0x34, 0x12, 0xf0, 0xff, 0xff, 0xff]
        0x1000).outcome :=
  have horder := decode_prefix_order .bits64 0x1000 [] rfl
    [0x69, 0x05, 0x78, 0x56, 0x34, 0x12, 0xf0, 0xff, 0xff, 0xff]
  ⟨(horder.2 0x4c (by decide) imul decode_imul_call.1).1 (by decide),
    horder.1 .operandSize .repne (by decide)⟩

end X86Decoder
