import X86Decoder.Comparison
import X86Decoder.Proofs.Sweep

/-!
# Comparisons are exhaustive

A comparison with a reference comes to an end for every reference that claims no more bytes than
there are, also for one that claims none or fewer than none. Whatever the two say, the walk goes
forward, and each offset that it visits counts once: as an agreement, as an encoding that the
reference does not support, or as a disagreement.

* `Comparison.Subject`: what is compared, and what is said of it at each offset.
* `Comparison.verdict_eq_disagree_iff`: what a disagreement is.
* `Comparison.Subject.nextPosition_mem`: where the walk goes on.
* `Comparison.Subject.Visits`: the offsets that a walk visits.
* `Comparison.Subject.exists_walk`: a walk judges the offsets that it visits.
* `Comparison.Subject.run_exhaustive`: what a comparison says of data.
-/

namespace X86Decoder.Comparison

/-! ### One offset -/

/-- What is compared: a reference, and the decoder on data in a mode. -/
structure Subject where
  mode : Mode
  /-- The instruction pointer of the first byte. -/
  ip : UInt64
  data : List UInt8
  reference : Reference

namespace Subject

variable (s : Subject)

/-- What the decoder says at an offset. -/
def outcome (offset : Nat) : Except DecodeError Instruction :=
  (decode s.mode (s.data.drop offset) (s.ip + offset.toUInt64)).outcome

/-- What the reference says at an offset. -/
def answer (offset : Nat) : ReferenceAnswer :=
  s.reference s.mode (s.data.drop offset)

/-- How decoder and reference compare at an offset. -/
def verdict (offset : Nat) : Verdict :=
  Comparison.verdict (s.outcome offset) (s.answer offset)

/-- The offset that is visited after another. -/
def next (offset : Nat) : Nat :=
  (nextPosition offset (s.outcome offset) (s.answer offset)).toNat

/-- How many bytes a disagreement shows: those of the longer instruction, at least one, and no more
than there are. -/
def shown (offset : Nat) : Int :=
  min (max (max (decodedLength (s.outcome offset) : Int) (s.answer offset).length) 1)
    (s.data.length - offset)

/-- The disagreement at an offset. -/
def disagreement (offset : Nat) : Disagreement :=
  ⟨s.ip + offset.toUInt64, (s.data.drop offset).take (s.shown offset).toNat, s.outcome offset,
    s.answer offset⟩

/-- A reference that claims no more bytes than there are, and none where it fails. -/
def Bounded : Prop :=
  ∀ offset < s.data.length,
    ((s.answer offset).error = none →
      (s.answer offset).length ≤ (s.data.length : Int) - offset) ∧
    ((s.answer offset).error ≠ none → (s.answer offset).length = 0)

end Subject

/-- Decoder and reference disagree when both succeed with different lengths, when the reference
alone fails on an instruction without an extended prefix, and when it alone succeeds. -/
theorem verdict_eq_disagree_iff {outcome : Except DecodeError Instruction}
    {answer : ReferenceAnswer} :
    verdict outcome answer = .disagree ↔
      (∃ inst, outcome = .ok inst ∧ answer.error = none ∧ (inst.length : Int) ≠ answer.length) ∨
      (∃ inst, outcome = .ok inst ∧ answer.error ≠ none ∧ inst.encoding = .legacy) ∨
      ∃ e, outcome = .error e ∧ answer.error = none := by
  unfold verdict
  cases outcome <;> cases answer.error <;> simp

theorem verdict_eq_agree_iff {outcome : Except DecodeError Instruction}
    {answer : ReferenceAnswer} :
    verdict outcome answer = .agree ↔
      (∃ inst, outcome = .ok inst ∧ answer.error = none ∧ (inst.length : Int) = answer.length) ∨
      ∃ e, outcome = .error e ∧ answer.error ≠ none := by
  unfold verdict
  cases outcome <;> cases answer.error <;> simp [ite_eq_iff]

/-- Sums of a position and a length within the data do not wrap. -/
theorem wrappingSum_eq {a b : Int} (hlower : 0 ≤ a + b) (hupper : a + b < 0x8000000000000000) :
    wrappingSum a b = a + b := by
  rw [wrappingSum, Int.bmod_eq_iff (by decide)]
  omega

namespace Subject

variable {s : Subject} {limit : Int}

theorem decodedLength_le {offset : Nat} (h : offset < s.data.length) :
    (decodedLength (s.outcome offset) : Int) ≤ s.data.length - offset := by
  cases houtcome : s.outcome offset with
  | ok inst =>
    have hle := (Nat.le_min.1 (length_le_of_decode houtcome)).2
    rw [List.length_drop] at hle
    rw [decodedLength]
    omega
  | error e =>
    rw [decodedLength]
    omega

/-- The walk goes forward and does not leave the data. -/
theorem nextPosition_mem (hs : s.Bounded) (hsize : s.data.length < 0x8000000000000000)
    {offset : Nat} (h : offset < s.data.length) :
    (offset : Int) < nextPosition offset (s.outcome offset) (s.answer offset) ∧
      nextPosition offset (s.outcome offset) (s.answer offset) ≤ s.data.length := by
  have hle := s.decodedLength_le h
  cases houtcome : s.outcome offset with
  | ok inst =>
    have hpos := length_pos_of_decode houtcome
    rw [houtcome, decodedLength] at hle
    rw [nextPosition]
    omega
  | error e =>
    rw [nextPosition]
    split
    · -- The reference alone succeeds, with a length that fits.
      rename_i hanswer
      have hfits := (hs offset h).1 (Option.isNone_iff_eq_none.1 hanswer.1)
      rw [wrappingSum_eq (by omega) (by omega)]
      omega
    · omega

theorem next_eq (hs : s.Bounded) (hsize : s.data.length < 0x8000000000000000)
    {offset : Nat} (h : offset < s.data.length) :
    nextPosition offset (s.outcome offset) (s.answer offset) = s.next offset := by
  have := nextPosition_mem hs hsize h
  rw [next, Int.toNat_of_nonneg (by omega)]

/-- A disagreement shows some bytes, and there are so many. -/
theorem coveredBytes_eq (hs : s.Bounded) (hsize : s.data.length < 0x8000000000000000)
    {offset : Nat} (h : offset < s.data.length) :
    0 < s.shown offset ∧ s.shown offset ≤ (s.data.length : Int) - offset ∧
      coveredBytes s.data.length offset (s.data.drop offset) (s.outcome offset) (s.answer offset) =
        .ok (s.disagreement offset).bytes := by
  have hdecoded := s.decodedLength_le h
  have hanswer : (s.answer offset).length ≤ (s.data.length : Int) - offset := by
    by_cases herror : (s.answer offset).error = none
    · exact (hs offset h).1 herror
    · rw [(hs offset h).2 herror]
      omega
  have hshown : s.shown offset =
      max (max (decodedLength (s.outcome offset) : Int) (s.answer offset).length) 1 :=
    Int.min_eq_left (by omega)
  refine ⟨by omega, by omega, ?_⟩
  rw [coveredBytes, ← hshown, wrappingSum_eq (by omega) (by omega), Int.min_eq_left (by omega),
    if_neg (by omega), Int.add_comm, Int.add_sub_cancel]
  rfl

/-! ### Walks -/

/-- The comparison with what is said at one more offset. -/
def judge (s : Subject) (c : Comparison) (offset : Nat) : Comparison :=
  c.record (s.verdict offset) (s.disagreement offset)

/-- What has been judged at offsets, one after the other. -/
structure Tallies (s : Subject) (offsets : List Nat) (c : Comparison) : Prop where
  instructions : c.instructions = offsets.length
  agreed : c.agreed = offsets.countP fun offset => s.verdict offset = .agree
  unsupported : c.unsupported = offsets.countP fun offset => s.verdict offset = .unsupported
  disagreements : c.disagreements =
    (offsets.filter fun offset => s.verdict offset = .disagree).map s.disagreement

theorem Tallies.judge {offsets : List Nat} {c : Comparison} (hc : s.Tallies offsets c)
    (offset : Nat) : s.Tallies (offsets ++ [offset]) (s.judge c offset) := by
  obtain ⟨hinstructions, hagreed, hunsupported, hdisagreements⟩ := hc
  rw [Subject.judge]
  cases hverdict : s.verdict offset <;> rw [record] <;>
    exact ⟨by simp [hinstructions], by simp [hagreed, hverdict], by simp [hunsupported, hverdict],
      by simp [hdisagreements, hverdict]⟩

/-- Each offset counts once. -/
theorem Tallies.instructions_eq {offsets : List Nat} {c : Comparison} (hc : s.Tallies offsets c) :
    c.instructions = c.agreed + c.unsupported + c.disagreements.length := by
  rw [hc.instructions, hc.agreed, hc.unsupported, hc.disagreements, List.length_map,
    ← List.countP_eq_length_filter]
  clear hc
  induction offsets with
  | nil => rfl
  | cons offset offsets ih =>
    simp only [List.countP_cons, List.length_cons]
    cases s.verdict offset <;> simp <;> omega

/-- The bytes that have been compared are passed over. -/
theorem walk_eq (mode : Mode) (limit : Int) (reference : Reference) (size : Nat) (ip : UInt64)
    (position covered : Nat) (c : Comparison) (data : List UInt8) :
    walk mode limit reference size ip position covered c data =
      walk mode limit reference size (ip + covered.toUInt64) (position + covered) 0 c
        (data.drop covered) := by
  induction data generalizing ip position covered with
  | nil =>
    rw [List.drop_nil]
    rfl
  | cons b rest ih =>
    cases covered with
    | zero =>
      change _ = walk mode limit reference size (ip + 0) position 0 c (b :: rest)
      rw [UInt64.add_zero]
    | succ n => rw [walk, ih, add_one_add_toUInt64, List.drop_succ_cons, Nat.add_assoc,
        Nat.add_comm 1]

/-- A walk from an offset on. -/
def walkFrom (s : Subject) (limit : Int) (offset : Nat) (c : Comparison) :
    Except Misuse Comparison :=
  walk s.mode limit s.reference s.data.length (s.ip + offset.toUInt64) offset 0 c
    (s.data.drop offset)

/-- A walk that has not reached its limit judges the offset where it is and goes on. -/
theorem walkFrom_eq (hs : s.Bounded) (hsize : s.data.length < 0x8000000000000000) {offset : Nat}
    (h : offset < s.data.length) (c : Comparison) :
    s.walkFrom limit offset c =
      if c.atLimit limit then .ok { c with truncated := true }
      else s.walkFrom limit (s.next offset) (s.judge c offset) := by
  have hnext := nextPosition_mem hs hsize h
  have hcovered := (coveredBytes_eq hs hsize h).2.2
  obtain ⟨b, rest, hrest⟩ : ∃ b rest, s.data.drop offset = b :: rest :=
    List.exists_cons_of_ne_nil (by rw [Ne, List.drop_eq_nil_iff]; omega)
  have houtcome : (decode s.mode (b :: rest) (s.ip + offset.toUInt64)).outcome
      = s.outcome offset := by
    rw [outcome, hrest]
  have hanswer : s.reference s.mode (b :: rest) = s.answer offset := by rw [answer, hrest]
  -- Wherever the walk goes on, it passes over the bytes before.
  have hon : ∀ c, (if nextPosition offset (s.outcome offset) (s.answer offset) < 0 ∨
        (s.data.length : Int) < nextPosition offset (s.outcome offset) (s.answer offset) then
      .error (.positionOutOfRange (nextPosition offset (s.outcome offset) (s.answer offset))
        s.data.length)
      else walk s.mode limit s.reference s.data.length (s.ip + offset.toUInt64 + 1) (offset + 1)
        ((nextPosition offset (s.outcome offset) (s.answer offset) - offset).toNat - 1) c rest) =
      s.walkFrom limit (s.next offset) c := by
    intro c
    rw [if_neg (by omega), walk_eq, walkFrom]
    rw [next_eq hs hsize h] at hnext ⊢
    obtain ⟨n, hn⟩ := Nat.exists_eq_add_of_lt (Int.ofNat_lt.1 hnext.1)
    have hskip : ((s.next offset : Int) - offset).toNat - 1 = n := by omega
    have hdrop : s.data.drop (s.next offset) = rest.drop n := by
      rw [hn, Nat.add_assoc, ← List.drop_drop, hrest, List.drop_succ_cons]
    rw [hskip, hdrop, hn, Nat.add_right_comm, add_one_add_toUInt64, Nat.add_assoc,
      Nat.toUInt64_eq, Nat.toUInt64_eq, Nat.toUInt64_eq, UInt64.ofNat_add offset,
      ← UInt64.add_assoc]
  rw [hrest] at hcovered
  rw [walkFrom, hrest, walk]
  split
  · rfl
  · simp only [houtcome, hanswer, hcovered]
    rw [judge, verdict]
    cases Comparison.verdict (s.outcome offset) (s.answer offset) <;> exact hon _

/-- A walk visits offsets in the data, each the next of the one before, and stops at another. -/
inductive Visits (s : Subject) : Nat → List Nat → Nat → Prop
  | stop (offset : Nat) : Visits s offset [] offset
  | step {offset stop : Nat} {offsets : List Nat} (h : offset < s.data.length)
      (hrest : Visits s (s.next offset) offsets stop) : Visits s offset (offset :: offsets) stop

/-- The offsets increase. -/
theorem Visits.pairwise (hs : s.Bounded) (hsize : s.data.length < 0x8000000000000000)
    {first stop : Nat} {offsets : List Nat} (hvisits : s.Visits first offsets stop) :
    offsets.Pairwise (· < ·) ∧ ∀ offset ∈ offsets, first ≤ offset ∧ offset < s.data.length := by
  induction hvisits with
  | stop => exact ⟨.nil, List.forall_mem_nil _⟩
  | step h hrest ih =>
    have hnext := (nextPosition_mem hs hsize h).1
    rw [next_eq hs hsize h] at hnext
    refine ⟨.cons (fun later hlater => ?_) ih.1, List.forall_mem_cons.2
      ⟨⟨Nat.le_refl _, h⟩, fun later hlater => ⟨?_, (ih.2 later hlater).2⟩⟩⟩
    all_goals
      have := (ih.2 later hlater).1
      omega

theorem length_disagreements_judge_le (c : Comparison) (offset : Nat) :
    (s.judge c offset).disagreements.length ≤ c.disagreements.length + 1 := by
  rw [judge]
  cases s.verdict offset <;> rw [record] <;> simp

/-- A walk comes to an end. It judges the offsets that it visits, has no more disagreements than the
limit allows, and stops within the data only when it has so many. -/
theorem exists_walk (hs : s.Bounded) (hsize : s.data.length < 0x8000000000000000)
    {seen : List Nat} {c : Comparison} (hc : s.Tallies seen c) (htruncated : c.truncated = false)
    (hwithin : 0 < limit → (c.disagreements.length : Int) ≤ limit) {first : Nat}
    (hfirst : first ≤ s.data.length) :
    ∃ result offsets stop, s.walkFrom limit first c = .ok result ∧
      s.Visits first offsets stop ∧ s.Tallies (seen ++ offsets) result ∧
      (0 < limit → (result.disagreements.length : Int) ≤ limit) ∧
      (result.truncated = true ↔ stop < s.data.length) ∧
      (stop < s.data.length → 0 < limit ∧ (result.disagreements.length : Int) = limit) := by
  -- Every step takes the walk closer to the end of the data.
  induction hleft : s.data.length - first using Nat.strongRecOn generalizing seen c first with
  | ind n ih =>
    by_cases hend : first = s.data.length
    · refine ⟨c, [], first, ?_, .stop first, by rwa [List.append_nil], hwithin, ?_, ?_⟩
      · rw [walkFrom, hend, List.drop_length]
        rfl
      · simp [htruncated, hend]
      · omega
    have hlt : first < s.data.length := Nat.lt_of_le_of_ne hfirst hend
    rw [walkFrom_eq hs hsize hlt]
    split
    · -- The limit has been reached, and it has never been passed.
      rename_i hreached
      rw [atLimit, Bool.and_eq_true, decide_eq_true_eq, decide_eq_true_eq] at hreached
      refine ⟨_, [], first, rfl, .stop first, ?_, hwithin, by simpa using hlt, fun _ => ?_⟩
      · obtain ⟨hinstructions, hagreed, hunsupported, hdisagreements⟩ := hc
        rw [List.append_nil]
        exact ⟨hinstructions, hagreed, hunsupported, hdisagreements⟩
      · exact ⟨hreached.1, Int.le_antisymm (hwithin hreached.1) hreached.2⟩
    · rename_i hreached
      rw [atLimit, Bool.and_eq_true, decide_eq_true_eq, decide_eq_true_eq] at hreached
      have hnext := nextPosition_mem hs hsize hlt
      rw [next_eq hs hsize hlt] at hnext
      have hmore := s.length_disagreements_judge_le c first
      have hjudged : (s.judge c first).truncated = false := by
        rw [← htruncated, judge]
        cases s.verdict first <;> rfl
      obtain ⟨result, offsets, stop, hresult, hvisits, htallies, hrest⟩ :=
        ih (s.data.length - s.next first) (by omega) (hc.judge first) hjudged (by omega) (by omega)
          rfl
      refine ⟨result, first :: offsets, stop, hresult, .step hlt hvisits, ?_, hrest⟩
      rwa [List.append_assoc, List.singleton_append] at htallies

/-! ### Comparisons -/

/-- A disagreement at an offset: what the two say there, that they differ on whether there is an
instruction or on its length, and the bytes there, some of them but no more than there are. -/
structure Disagrees (s : Subject) (offset : Nat) (d : Disagreement) : Prop where
  lt : offset < s.data.length
  ip_eq : d.ip = s.ip + offset.toUInt64
  outcome_eq : d.outcome = s.outcome offset
  reference_eq : d.reference = s.answer offset
  differ : (∃ inst, d.outcome = .ok inst ∧ d.reference.error = none ∧
      (inst.length : Int) ≠ d.reference.length) ∨
    (∃ inst, d.outcome = .ok inst ∧ d.reference.error ≠ none ∧ inst.encoding = .legacy) ∨
    ∃ e, d.outcome = .error e ∧ d.reference.error = none
  bytes_ne_nil : d.bytes ≠ []
  bytes_eq : d.bytes = (s.data.drop offset).take d.bytes.length
  length_eq : (d.bytes.length : Int) =
    min (max (max (decodedLength d.outcome : Int) d.reference.length) 1) (s.data.length - offset)

theorem disagrees_disagreement (hs : s.Bounded) (hsize : s.data.length < 0x8000000000000000)
    {offset : Nat} (h : offset < s.data.length) (hverdict : s.verdict offset = .disagree) :
    s.Disagrees offset (s.disagreement offset) := by
  obtain ⟨hpos, hle, -⟩ := coveredBytes_eq hs hsize h
  have hlength : (s.disagreement offset).bytes.length = (s.shown offset).toNat := by
    refine List.length_take_of_le ?_
    rw [List.length_drop]
    omega
  refine ⟨h, rfl, rfl, rfl, verdict_eq_disagree_iff.1 hverdict, ?_, ?_, ?_⟩
  · rw [← List.length_pos_iff]
    omega
  · rw [hlength]
    rfl
  · rw [hlength, Int.toNat_of_nonneg (by omega)]
    rfl

/-- Comparisons are exhaustive. With a reference that claims no more bytes than there are, a
comparison comes to an end. It visits increasing offsets, each of which counts once; it has no more
disagreements than its limit, and stops with data left only when it has so many; each disagreement
is one, with the bytes at its offset; and if decoder and reference say the same at every offset,
there is none. -/
theorem run_exhaustive (s : Subject) (limit : Int) (hdata : s.data ≠ [])
    (hsize : s.data.length < 0x8000000000000000) (hs : s.Bounded) :
    ∃ c offsets stop, run (.known s.mode) s.ip s.data limit s.reference = .ok c ∧
      s.Visits 0 offsets stop ∧ offsets.Pairwise (· < ·) ∧ s.Tallies offsets c ∧
      c.instructions = c.agreed + c.unsupported + c.disagreements.length ∧
      (0 < limit → (c.disagreements.length : Int) ≤ limit) ∧
      (c.truncated = true ↔ stop < s.data.length) ∧
      (c.truncated = true → 0 < limit ∧ (c.disagreements.length : Int) = limit) ∧
      (∀ d ∈ c.disagreements, ∃ offset ∈ offsets, s.Disagrees offset d) ∧
      ((∀ offset < s.data.length,
          (∃ inst, s.outcome offset = .ok inst ∧ (s.answer offset).error = none ∧
            (inst.length : Int) = (s.answer offset).length) ∨
          ∃ e, s.outcome offset = .error e ∧ (s.answer offset).error ≠ none) →
        c.disagreements = [] ∧ c.agreed = c.instructions) := by
  have hstart : s.Tallies [] {} := ⟨rfl, rfl, rfl, rfl⟩
  obtain ⟨c, offsets, stop, hwalk, hvisits, htallies, hwithin, htruncated, hleft⟩ :=
    exists_walk hs hsize hstart rfl (fun h => Int.le_of_lt h) (Nat.zero_le s.data.length)
  have hrun : run (.known s.mode) s.ip s.data limit s.reference = s.walkFrom limit 0 {} := by
    rw [run, List.isEmpty_eq_false_iff.2 hdata, walkFrom]
    change _ = walk s.mode limit s.reference s.data.length (s.ip + 0) 0 0 {} s.data
    rw [UInt64.add_zero]
    rfl
  rw [List.nil_append] at htallies
  obtain ⟨hpairwise, hrange⟩ := hvisits.pairwise hs hsize
  refine ⟨c, offsets, stop, hrun.trans hwalk, hvisits, hpairwise, htallies,
    htallies.instructions_eq, hwithin, htruncated, fun h => hleft (htruncated.1 h), ?_, ?_⟩
  · intro d hd
    rw [htallies.disagreements, List.mem_map] at hd
    obtain ⟨offset, hoffset, rfl⟩ := hd
    obtain ⟨hmem, hverdict⟩ := List.mem_filter.1 hoffset
    exact ⟨offset, hmem,
      disagrees_disagreement hs hsize (hrange offset hmem).2 (of_decide_eq_true hverdict)⟩
  · intro hsame
    have hagree : ∀ offset ∈ offsets, s.verdict offset = .agree := fun offset hmem =>
      verdict_eq_agree_iff.2 (hsame offset (hrange offset hmem).2)
    constructor
    · rw [htallies.disagreements, List.filter_eq_nil_iff.2 fun offset hmem => by
        rw [hagree offset hmem]
        decide]
      rfl
    · rw [htallies.agreed, htallies.instructions, List.countP_eq_length]
      exact fun offset hmem => decide_eq_true (hagree offset hmem)

/-- Two bytes that the decoder rejects and a reference accepts with no bytes or fewer, up to the
first disagreement. -/
theorem run_exhaustive_backward :
    let s : Subject :=
      ⟨.bits64, 0xffffffffffffffff, [0xc5, 0xc5], fun _ rest => ⟨(rest.length : Int) - 2, none⟩⟩
    s.data ≠ [] ∧ s.data.length < 0x8000000000000000 ∧ s.Bounded ∧
      ∃ c offsets stop, run (.known s.mode) s.ip s.data 1 s.reference = .ok c ∧
        s.Visits 0 offsets stop ∧ offsets.Pairwise (· < ·) ∧ s.Tallies offsets c ∧
        c.instructions = c.agreed + c.unsupported + c.disagreements.length ∧
        (c.disagreements.length : Int) ≤ 1 ∧ (c.truncated = true ↔ stop < 2) := by
  intro s
  have hs : s.Bounded := by
    intro offset _
    have hlength : (s.answer offset).length = ((s.data.drop offset).length : Int) - 2 := rfl
    rw [List.length_drop] at hlength
    exact ⟨fun _ => by omega, fun herror => absurd rfl herror⟩
  obtain ⟨c, offsets, stop, hrun, hvisits, hpairwise, htallies, hsum, hwithin, htruncated, -⟩ :=
    s.run_exhaustive 1 (List.cons_ne_nil _ _) (by decide) hs
  exact ⟨List.cons_ne_nil _ _, by decide, hs, c, offsets, stop, hrun, hvisits, hpairwise, htallies,
    hsum, hwithin (by decide), htruncated⟩

end Subject

end X86Decoder.Comparison
