import X86Decoder.Proofs.Bits
import X86Decoder.Proofs.Reader

/-!
# Runs of prefixes

The prefixes in front of an instruction are read one by one, and what each of them changes depends
on those before it. What all of them say together can be told from the run as a whole: which bytes
occur in it, which of several comes last, and whether its last byte is a REX prefix.

* `PrefixState.ofRun`: what a run of prefixes says.
* `PrefixState.add?_ofRun`: one more byte of the run.
* `Reader.scanPrefixes_run`: the reader takes a run as a whole.
* `Reader.legacyPrefixes_closed_form`: all that reading the prefixes can come to.
-/

namespace X86Decoder

/-- The legacy prefixes: LOCK, REPNE and REPE, the segments ES, CS, SS, DS, FS and GS, and the
overrides of the operand size and the address size. -/
def legacyBytes : List UInt8 :=
  [0xf0, 0xf2, 0xf3, 0x26, 0x2e, 0x36, 0x3e, 0x64, 0x65, 0x66, 0x67]

/-- Whether a byte is a prefix: a legacy prefix, or in 64-bit mode one of the bytes 40 to 4F. -/
def isPrefixByte (mode : Mode) (b : UInt8) : Bool :=
  legacyBytes.contains b || (mode == .bits64 && decide (0x40 ≤ b ∧ b ≤ 0x4f))

namespace LegacyPrefix

theorem byte_of_ofByte? {b : UInt8} {legacy : LegacyPrefix} (h : ofByte? b = some legacy) :
    legacy.byte = b := by
  simpa using List.find?_some h

@[simp]
theorem ofByte?_byte (legacy : LegacyPrefix) : ofByte? legacy.byte = some legacy := by
  cases legacy <;> simp [ofByte?, all, byte]

end LegacyPrefix

/-- The REX prefixes are the bytes from 40 to 4F. -/
theorem Rex.isRex_eq (b : UInt8) : Rex.isRex b = decide (0x40 ≤ b ∧ b ≤ 0x4f) := by
  have hall := Bits.of_all_bytes (fun b => Rex.isRex b == decide (0x40 ≤ b ∧ b ≤ 0x4f))
    (by decide)
  exact eq_of_beq (hall b)

/-- The bytes that are prefixes are those that the reader takes for one. -/
theorem isPrefixByte_eq (mode : Mode) (b : UInt8) :
    isPrefixByte mode b =
      ((LegacyPrefix.ofByte? b).isSome || (mode == .bits64 && Rex.isRex b)) := by
  have hlegacy := Bits.of_all_bytes
    (fun b => legacyBytes.contains b == (LegacyPrefix.ofByte? b).isSome) (by decide)
  rw [isPrefixByte, Rex.isRex_eq, eq_of_beq (hlegacy b)]

namespace PrefixRun

/-- The last of the given bytes in a run. -/
def last? (bytes run : List UInt8) : Option UInt8 :=
  (run.filter bytes.contains).getLast?

/-- The repeat prefix of a run, which is its last. -/
def repetition (run : List UInt8) : Option Repetition :=
  (last? [0xf2, 0xf3] run).map fun b => if b = 0xf2 then .repne else .repe

/-- The mandatory prefix of a run: the repeat prefix, and 66 where there is none. -/
def mandatory (run : List UInt8) : Mandatory :=
  match repetition run with
  | some .repne => .pF2
  | some .repe => .pF3
  | none => if run.contains 0x66 then .p66 else .none

/-- The segment of a segment prefix. -/
def segmentOf (b : UInt8) : Register :=
  if b = 0x26 then .es else if b = 0x2e then .cs else if b = 0x36 then .ss
  else if b = 0x3e then .ds else if b = 0x64 then .fs else .gs

/-- The segment that a run selects, which is its last; but in 64-bit mode FS and GS go before the
others. -/
def segment (mode : Mode) (run : List UInt8) : Register :=
  let selected :=
    if mode = .bits64 then (last? [0x64, 0x65] run).or (last? [0x26, 0x2e, 0x36, 0x3e] run)
    else last? [0x26, 0x2e, 0x36, 0x3e, 0x64, 0x65] run
  selected.elim .none segmentOf

/-- The REX prefix of a run, which has to be its last byte. -/
def rex? (run : List UInt8) : Option Rex :=
  (run.getLast?.filter fun b => decide (0x40 ≤ b ∧ b ≤ 0x4f)).map Rex.mk

theorem mem_of_last?_eq_some {bytes run : List UInt8} {b : UInt8} (h : last? bytes run = some b) :
    b ∈ bytes := by
  have hmem := List.mem_of_getLast? h
  simpa using (List.mem_filter.1 hmem).2

/-- In 64-bit mode the segment is FS or GS exactly if one of the two is in the run. -/
theorem segment_bits64_eq_iff (run : List UInt8) :
    (segment .bits64 run = .fs ∨ segment .bits64 run = .gs) ↔
      (last? [0x64, 0x65] run).isSome := by
  have hselected : segment .bits64 run =
      ((last? [0x64, 0x65] run).or (last? [0x26, 0x2e, 0x36, 0x3e] run)).elim .none
        segmentOf := rfl
  rw [hselected]
  cases hhigh : last? [0x64, 0x65] run with
  | some b =>
    have hall : [0x64, 0x65].all fun b => segmentOf b = .fs ∨ segmentOf b = .gs := by decide
    simpa using List.all_eq_true.mp hall b (mem_of_last?_eq_some hhigh)
  | none =>
    rw [Option.none_or]
    cases hlow : last? [0x26, 0x2e, 0x36, 0x3e] run with
    | some b =>
      have hall : [0x26, 0x2e, 0x36, 0x3e].all
          fun b => ¬(segmentOf b = .fs ∨ segmentOf b = .gs) := by decide
      simpa using List.all_eq_true.mp hall b (mem_of_last?_eq_some hlow)
    | none => decide

/-! ### One more byte -/

theorem contains_concat (run : List UInt8) (b k : UInt8) :
    (run ++ [b]).contains k = (run.contains k || k == b) := by
  rw [List.contains_append, List.contains_cons, List.contains_nil, Bool.or_false]

/-- One more byte is the last of its kind, or else leaves the last one as it is. -/
theorem last?_concat (bytes run : List UInt8) (b : UInt8) :
    last? bytes (run ++ [b]) = if bytes.contains b then some b else last? bytes run := by
  rw [last?, List.filter_append, List.getLast?_append, last?]
  split
  next hb =>
    rw [List.filter_cons_of_pos hb, List.filter_nil, List.getLast?_singleton, Option.some_or]
  next hb => rw [List.filter_cons_of_neg hb, List.filter_nil, List.getLast?_nil, Option.none_or]

theorem rex?_concat (run : List UInt8) (b : UInt8) :
    rex? (run ++ [b]) = if Rex.isRex b then some ⟨b⟩ else none := by
  rw [rex?, List.getLast?_concat, Rex.isRex_eq]
  by_cases hb : 0x40 ≤ b ∧ b ≤ 0x4f <;> simp [hb, Option.filter]

theorem repetition_concat (run : List UInt8) (legacy : LegacyPrefix) :
    repetition (run ++ [legacy.byte]) =
      if legacy = .repne then some .repne
      else if legacy = .repe then some .repe
      else repetition run := by
  rw [repetition, last?_concat]
  cases legacy <;> rfl

/-- A repeat prefix is the new mandatory prefix, and 66 is where there was none. -/
theorem mandatory_concat (run : List UInt8) (legacy : LegacyPrefix) :
    mandatory (run ++ [legacy.byte]) =
      if legacy = .repne then .pF2
      else if legacy = .repe then .pF3
      else if legacy = .operandSize ∧ mandatory run = .none then .p66
      else mandatory run := by
  rw [mandatory, mandatory, repetition_concat, contains_concat]
  cases repetition run with
  | some r => cases r <;> cases legacy <;> rfl
  | none => cases run.contains 0x66 <;> cases legacy <;> rfl

/-- A segment prefix selects its segment, unless it is one of ES, CS, SS and DS after FS or GS in
64-bit mode. -/
theorem segment_concat (mode : Mode) (run : List UInt8) (legacy : LegacyPrefix) :
    segment mode (run ++ [legacy.byte]) =
      if legacy ∈ [.fs, .gs] then legacy.segment
      else if legacy ∈ [.es, .cs, .ss, .ds] then
        if mode = .bits64 ∧ (segment mode run = .fs ∨ segment mode run = .gs) then segment mode run
        else legacy.segment
      else segment mode run := by
  by_cases hmode : mode = .bits64
  · subst hmode
    simp only [segment_bits64_eq_iff, true_and]
    simp only [segment, if_true, last?_concat]
    cases last? [0x64, 0x65] run <;> cases legacy <;> rfl
  · simp only [segment, hmode, if_false, false_and, last?_concat]
    cases legacy <;> rfl

end PrefixRun

namespace PrefixState

open PrefixRun

/-- What a run of prefixes says. -/
def ofRun (mode : Mode) (run : List UInt8) : PrefixState :=
  { operandSizeOverride := run.contains 0x66
    addressSizeOverride := run.contains 0x67
    lock := run.contains 0xf0
    repetition := PrefixRun.repetition run
    mandatory := PrefixRun.mandatory run
    segment := PrefixRun.segment mode run
    rex := rex? run
    w := (rex? run).any Rex.w
    r := (rex? run).any Rex.r
    x := (rex? run).any Rex.x
    b := (rex? run).any Rex.b }

theorem ofRun_nil (mode : Mode) : ofRun mode [] = {} := by
  cases mode <;> rfl

/-- What one more legacy prefix does, field by field. -/
theorem addLegacy_eq (p : PrefixState) (mode : Mode) (legacy : LegacyPrefix) :
    p.addLegacy mode legacy =
      { p with
        operandSizeOverride := p.operandSizeOverride || decide (legacy = .operandSize)
        addressSizeOverride := p.addressSizeOverride || decide (legacy = .addressSize)
        lock := p.lock || decide (legacy = .lock)
        repetition :=
          if legacy = .repne then some .repne
          else if legacy = .repe then some .repe
          else p.repetition
        mandatory :=
          if legacy = .repne then .pF2
          else if legacy = .repe then .pF3
          else if legacy = .operandSize ∧ p.mandatory = .none then .p66
          else p.mandatory
        segment :=
          if legacy ∈ [.fs, .gs] then legacy.segment
          else if legacy ∈ [.es, .cs, .ss, .ds] then
            if mode = .bits64 ∧ (p.segment = .fs ∨ p.segment = .gs) then p.segment
            else legacy.segment
          else p.segment
        rex := none
        w := false
        r := false
        x := false
        b := false } := by
  by_cases hkept : mode = .bits64 ∧ (p.segment = .fs ∨ p.segment = .gs)
  · cases legacy <;> simp [addLegacy, clearRex, if_pos hkept]
  · cases legacy <;> simp [addLegacy, clearRex, if_neg hkept]

/-- One more legacy prefix in a run acts as it does alone. -/
theorem ofRun_concat_legacy (mode : Mode) (run : List UInt8) (legacy : LegacyPrefix) :
    ofRun mode (run ++ [legacy.byte]) = (ofRun mode run).addLegacy mode legacy := by
  have hbyte : ((0x66 == legacy.byte) = decide (legacy = .operandSize)) ∧
      ((0x67 == legacy.byte) = decide (legacy = .addressSize)) ∧
      ((0xf0 == legacy.byte) = decide (legacy = .lock)) := by
    cases legacy <;> decide
  have hrex : rex? (run ++ [legacy.byte]) = none := by
    rw [rex?_concat]
    cases legacy <;> rfl
  rw [addLegacy_eq, ofRun, contains_concat, contains_concat, contains_concat, hbyte.1, hbyte.2.1,
    hbyte.2.2, repetition_concat, mandatory_concat, segment_concat, hrex]
  rfl

/-- One more REX prefix in a run acts as it does alone. -/
theorem ofRun_concat_rex (mode : Mode) (run : List UInt8) {b : UInt8} (hb : Rex.isRex b) :
    ofRun mode (run ++ [b]) = (ofRun mode run).addRex ⟨b⟩ := by
  -- A REX prefix is none of the bytes that the other fields are about.
  have hne : ∀ k, Rex.isRex k = false → (k == b) = false := by
    intro k hk
    refine beq_false_of_ne fun hsame => ?_
    rw [hsame, hb] at hk
    cases hk
  have hcontains : ∀ k, Rex.isRex k = false → (run ++ [b]).contains k = run.contains k := by
    intro k hk
    rw [contains_concat, hne k hk, Bool.or_false]
  have hlast : ∀ bytes : List UInt8, (bytes.all fun k => !Rex.isRex k) →
      last? bytes (run ++ [b]) = last? bytes run := by
    intro bytes hbytes
    rw [last?_concat, if_neg]
    intro hmem
    have hnot := List.all_eq_true.1 hbytes b (List.contains_iff_mem.1 hmem)
    rw [hb] at hnot
    cases hnot
  have hrepetition : PrefixRun.repetition (run ++ [b]) = PrefixRun.repetition run := by
    rw [PrefixRun.repetition, hlast _ (by decide), PrefixRun.repetition]
  have hmandatory : PrefixRun.mandatory (run ++ [b]) = PrefixRun.mandatory run := by
    rw [PrefixRun.mandatory, hrepetition, hcontains _ (by decide), PrefixRun.mandatory]
  have hsegment : PrefixRun.segment mode (run ++ [b]) = PrefixRun.segment mode run := by
    rw [PrefixRun.segment, hlast _ (by decide), hlast _ (by decide), hlast _ (by decide),
      PrefixRun.segment]
  have hrex : rex? (run ++ [b]) = some ⟨b⟩ := by rw [rex?_concat, if_pos hb]
  rw [ofRun, hcontains _ (by decide), hcontains _ (by decide), hcontains _ (by decide),
    hrepetition, hmandatory, hsegment, hrex]
  rfl

/-- The bytes that extend a run are the prefixes, and each of them acts as it does alone. -/
theorem add?_ofRun (mode : Mode) (run : List UInt8) (b : UInt8) :
    (ofRun mode run).add? mode b =
      if isPrefixByte mode b then some (ofRun mode (run ++ [b])) else none := by
  rw [add?, isPrefixByte_eq]
  cases hb : LegacyPrefix.ofByte? b with
  | some legacy =>
    obtain rfl := LegacyPrefix.byte_of_ofByte? hb
    rw [ofRun_concat_legacy]
    rfl
  | none =>
    cases hrex : Rex.isRex b with
    | false => simp
    | true =>
      rw [ofRun_concat_rex mode run hrex]
      simp

end PrefixState

namespace Reader

open PrefixState (ofRun)

/-- A run of prefixes, after those that have been read, is taken as a whole. -/
theorem scanPrefixes_run {mode : Mode} {run : List UInt8} (hrun : run.all (isPrefixByte mode))
    (before rest : List UInt8) {s : ReadState} (hs : s.prefixes = ofRun mode before)
    (hlength : s.consumed + run.length ≤ maxLength) :
    scanPrefixes mode (run ++ rest) s =
      scanPrefixes mode rest
        { s with
          consumed := s.consumed + run.length
          prefixes := ofRun mode (before ++ run) } := by
  induction run generalizing before s with
  | nil => simp [← hs]
  | cons b run ih =>
    obtain ⟨hb, hrun⟩ : isPrefixByte mode b ∧ run.all (isPrefixByte mode) := by
      simpa using hrun
    rw [List.length_cons] at hlength
    have hread : ¬maxLength ≤ s.consumed := by omega
    rw [List.cons_append, scanPrefixes, if_neg hread, hs, PrefixState.add?_ofRun, if_pos hb]
    change scanPrefixes mode (run ++ rest) _ = _
    rw [ih hrun (before ++ [b]) rfl (by simp; omega)]
    simp [Nat.add_assoc, Nat.add_comm 1]

/-- The byte after a run of prefixes ends it. -/
theorem runOn_legacyPrefixes_run {mode : Mode} {run : List UInt8} {b : UInt8}
    (hrun : run.all (isPrefixByte mode)) (hlength : run.length < maxLength)
    (hb : isPrefixByte mode b = false) (rest : List UInt8) :
    (legacyPrefixes mode).runOn { rest := run ++ b :: rest } =
      (.ok b, { rest := rest, consumed := run.length + 1, prefixes := ofRun mode run }) := by
  have hscan := scanPrefixes_run (s := { rest := run ++ b :: rest }) hrun [] (b :: rest)
    (PrefixState.ofRun_nil mode).symm (by simp; omega)
  refine hscan.trans ?_
  simp [scanPrefixes, Nat.not_le.2 hlength, PrefixState.add?_ofRun, hb]

/-- Behind a run of prefixes the opcode starts in the primary map. -/
theorem runOn_opcode_run {mode : Mode} {run : List UInt8} {b : UInt8}
    (hrun : run.all (isPrefixByte mode)) (hlength : run.length < maxLength)
    (hb : isPrefixByte mode b = false) (rest : List UInt8) :
    (opcode mode).runOn { rest := run ++ b :: rest } =
      (opcodeFrom mode b).runOn
        { rest := rest, consumed := run.length + 1, prefixes := ofRun mode run } := by
  rw [opcode, runOn_bind_of_ok (runOn_legacyPrefixes_run hrun hlength hb rest),
    runOn_bind_of_ok (runOn_modifyPrefixes _ _)]
  rfl

theorem scanPrefixes_of_maxLength_le (mode : Mode) (data : List UInt8) {s : ReadState}
    (h : maxLength ≤ s.consumed) :
    scanPrefixes mode data s = (.error .tooLong, { s with rest := data }) := by
  cases data with
  | nil => rw [scanPrefixes, if_pos h]
  | cons b rest => rw [scanPrefixes, if_pos h]

/-- What reading the prefixes in front of the data comes to. The run of prefixes is the longest one
that there is: it is refused if no instruction can be so long, and it takes another byte to end
it. -/
theorem legacyPrefixes_closed_form (mode : Mode) (data : List UInt8) :
    (legacyPrefixes mode).runOn { rest := data } =
      let run := data.takeWhile (isPrefixByte mode)
      if maxLength ≤ run.length then
        (.error .tooLong,
          { rest := data.drop maxLength
            consumed := maxLength
            prefixes := ofRun mode (run.take maxLength) })
      else
        match data.dropWhile (isPrefixByte mode) with
        | [] =>
          (.error .truncated, { rest := [], consumed := run.length, prefixes := ofRun mode run })
        | b :: rest =>
          (.ok b, { rest := rest, consumed := run.length + 1, prefixes := ofRun mode run }) := by
  have hrun : (data.takeWhile (isPrefixByte mode)).all (isPrefixByte mode) := List.all_takeWhile
  have hdata : data.takeWhile (isPrefixByte mode) ++ data.dropWhile (isPrefixByte mode) = data :=
    List.takeWhile_append_dropWhile
  have hstop := List.head?_dropWhile_not (isPrefixByte mode) data
  generalize data.takeWhile (isPrefixByte mode) = run at hrun hdata ⊢
  generalize data.dropWhile (isPrefixByte mode) = after at hdata hstop ⊢
  change scanPrefixes mode data { rest := data } = _
  have hinit : ({ rest := data } : ReadState).prefixes = ofRun mode [] :=
    (PrefixState.ofRun_nil mode).symm
  by_cases hlong : maxLength ≤ run.length
  · -- The first bytes of the run are as many as an instruction can have.
    have htake : (run.take maxLength).all (isPrefixByte mode) :=
      List.all_eq_true.2 fun b hb => List.all_eq_true.1 hrun b (List.mem_of_mem_take hb)
    have hsplit : run.take maxLength ++ data.drop maxLength = data := by
      rw [← hdata, List.drop_append_of_le_length hlong, ← List.append_assoc, List.take_append_drop]
    have hlength : (run.take maxLength).length = maxLength := List.length_take_of_le hlong
    have hscan := scanPrefixes_run htake [] (data.drop maxLength) hinit (by simp [hlength])
    rw [hsplit, hlength] at hscan
    rw [hscan, scanPrefixes_of_maxLength_le mode _ (by simp), if_pos hlong]
    simp
  · rw [if_neg hlong, ← hdata]
    cases after with
    | nil =>
      have hscan := scanPrefixes_run (s := { rest := run ++ [] }) hrun [] [] hinit (by simp; omega)
      exact hscan.trans (by simp [scanPrefixes, hlong])
    | cons b rest =>
      have hb : isPrefixByte mode b = false := by simpa using hstop
      exact runOn_legacyPrefixes_run hrun (Nat.lt_of_not_le hlong) hb rest

end Reader

end X86Decoder
