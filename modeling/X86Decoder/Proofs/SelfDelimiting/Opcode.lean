import X86Decoder.Proofs.SelfDelimiting.Basic
import X86Decoder.Proofs.Table

/-!
# Prefixes and opcodes are self-delimiting

Outside 64-bit mode, and for one byte in it, the byte that starts an extended prefix is an opcode as
well, and the next byte tells which. So the readers of opcodes are not self-delimiting: without a
next byte they take the opcode, which more data may prove wrong. But each of these opcodes has a
ModR/M byte, so that reading it runs out of data as the prefix would have.

* `Reader.delimitsAt_extendedOpcode`: an opcode that may start a prefix, with its ModR/M byte.
* `Reader.selfDelimiting_selector`: everything up to the ModR/M byte.
-/

namespace X86Decoder

namespace Reader

/-! ### Legacy prefixes -/

theorem runOn_legacyPrefixes (mode : Mode) (s : ReadState) :
    (legacyPrefixes mode).runOn s = scanPrefixes mode s.rest s := rfl

/-- The bytes are handed over beside the state, so those in the state do not matter. -/
theorem scanPrefixes_with_rest (mode : Mode) (bs rest : List UInt8) (s : ReadState) :
    scanPrefixes mode bs { s with rest := rest } = scanPrefixes mode bs s := by
  induction bs generalizing s with
  | nil => rfl
  | cons b bs ih =>
    simp only [scanPrefixes]
    split
    · rfl
    · split
      · rename_i p hp
        exact ih { s with consumed := s.consumed + 1, prefixes := p }
      · rfl

theorem reaches_scanPrefixes (mode : Mode) (bs : List UInt8) (s : ReadState) :
    ReadState.Reaches { s with rest := bs } (scanPrefixes mode bs s).2 := by
  fun_induction scanPrefixes mode bs s with
  | case1 s => exact .of_eq rfl rfl
  | case2 b rest s hmax => exact .of_eq rfl rfl
  | case3 b rest s hmax p hp ih =>
    -- One byte for the prefix, and those that the induction hypothesis takes.
    have hbyte : ReadState.Reaches { s with rest := b :: rest }
        { s with rest := rest, consumed := s.consumed + 1, prefixes := p } :=
      ⟨[b], rfl, rfl, fun _ => Nat.lt_of_not_le hmax⟩
    exact hbyte.trans ih
  | case4 b rest s hmax hp => exact ⟨[b], rfl, rfl, fun _ => Nat.lt_of_not_le hmax⟩

/-- The byte after the prefixes is read. -/
theorem length_lt_of_scanPrefixes {mode : Mode} {bs : List UInt8} {s t : ReadState} {b : UInt8}
    (h : scanPrefixes mode bs s = (.ok b, t)) : t.rest.length < bs.length := by
  fun_induction scanPrefixes mode bs s with
  | case1 s => cases h
  | case2 b' rest s hmax => cases h
  | case3 b' rest s hmax p hp ih => exact Nat.lt_succ_of_lt (ih h)
  | case4 b' rest s hmax hp =>
    cases h
    exact Nat.lt_succ_self _

theorem scanPrefixes_append {mode : Mode} {bs : List UInt8} {s : ReadState}
    (h : (scanPrefixes mode bs s).1 ≠ .error .truncated) (more : List UInt8) :
    scanPrefixes mode (bs ++ more) s =
      ((scanPrefixes mode bs s).1, (scanPrefixes mode bs s).2.append more) := by
  fun_induction scanPrefixes mode bs s with
  | case1 s =>
    by_cases hmax : maxLength ≤ s.consumed
    · cases more <;> simp [scanPrefixes, hmax, ReadState.append]
    · simp [hmax] at h
  | case2 b rest s hmax => simp [scanPrefixes, hmax, ReadState.append]
  | case3 b rest s hmax p hp ih =>
    rw [List.cons_append, scanPrefixes, if_neg hmax, hp]
    exact ih h
  | case4 b rest s hmax hp => simp [scanPrefixes, hmax, hp, ReadState.append]

theorem scanPrefixes_exhausted {mode : Mode} {bs : List UInt8} {s : ReadState}
    (h : (scanPrefixes mode bs s).1 = .error .truncated) :
    (scanPrefixes mode bs s).2.rest = [] ∧ (scanPrefixes mode bs s).2.consumed < maxLength := by
  fun_induction scanPrefixes mode bs s with
  | case1 s =>
    by_cases hmax : maxLength ≤ s.consumed
    · simp [hmax] at h
    · exact ⟨rfl, Nat.lt_of_not_le hmax⟩
  | case2 b rest s hmax => cases h
  | case3 b rest s hmax p hp ih => exact ih h
  | case4 b rest s hmax hp => cases h

/-- Prefixes are too long only where there are as many as an instruction may have bytes. -/
theorem scanPrefixes_full {mode : Mode} {bs : List UInt8} {s : ReadState}
    (h : (scanPrefixes mode bs s).1 = .error .tooLong) :
    maxLength ≤ (scanPrefixes mode bs s).2.consumed := by
  fun_induction scanPrefixes mode bs s with
  | case1 s =>
    by_cases hmax : maxLength ≤ s.consumed
    · exact hmax
    · simp [hmax] at h
  | case2 b rest s hmax => exact hmax
  | case3 b rest s hmax p hp ih => exact ih h
  | case4 b rest s hmax hp => cases h

/-- Where only prefixes were left, the byte after them is one of the new data. -/
theorem scanPrefixes_overrun {mode : Mode} {bs : List UInt8} {s : ReadState}
    (h : (scanPrefixes mode bs s).1 = .error .truncated) {more : List UInt8} {b : UInt8}
    {t : ReadState} (hmore : scanPrefixes mode (bs ++ more) s = (.ok b, t)) :
    t.rest.length < more.length := by
  fun_induction scanPrefixes mode bs s with
  | case1 s => exact length_lt_of_scanPrefixes hmore
  | case2 b' rest s hmax => cases h
  | case3 b' rest s hmax p hp ih =>
    rw [List.cons_append, scanPrefixes, if_neg hmax, hp] at hmore
    exact ih h hmore
  | case4 b' rest s hmax hp => cases h

theorem selfDelimiting_legacyPrefixes (mode : Mode) : (legacyPrefixes mode).SelfDelimiting where
  counts s := reaches_scanPrefixes mode s.rest s
  delimitsAt s := by
    have happend : ∀ more, (legacyPrefixes mode).runOn (s.append more) =
        scanPrefixes mode (s.rest ++ more) s :=
      fun more => scanPrefixes_with_rest mode (s.rest ++ more) (s.rest ++ more) s
    refine ⟨fun more h => ?_, scanPrefixes_exhausted, fun h more b t hb => ?_, scanPrefixes_full⟩
    · rw [happend, scanPrefixes_append h, runOn_legacyPrefixes]
    · rw [happend] at hb
      exact scanPrefixes_overrun h hb

/-! ### Extended prefixes -/

theorem selfDelimiting_checkBefore (encoding : EncodingKind) :
    (checkBefore encoding).SelfDelimiting :=
  selfDelimiting_prefixes.bind fun _ => selfDelimiting_checkPrefixes _

theorem selfDelimiting_selectMap (encoding : EncodingKind) (n : UInt8) (map? : Option OpcodeMap) :
    (selectMap encoding n map?).SelfDelimiting := by
  refine (selfDelimiting_modifyPrefixes _).bind fun _ => ?_
  cases map? with
  | none => exact selfDelimiting_refusePrefixes _
  | some map => exact selfDelimiting_modifyPrefixes _

theorem selfDelimiting_vexPayload (short : Bool) : (vexPayload short).SelfDelimiting := by
  cases short with
  | true => exact selfDelimiting_byte.map _
  | false =>
    exact selfDelimiting_byte.bind fun _ => selfDelimiting_byte.bind fun _ => selfDelimiting_pure _

theorem selfDelimiting_evexPayload : evexPayload.SelfDelimiting :=
  selfDelimiting_byte.bind fun _ => selfDelimiting_byte.bind fun _ =>
    selfDelimiting_byte.bind fun _ => selfDelimiting_pure _

theorem selfDelimiting_vexLikePrefix (encoding : EncodingKind) (map? : UInt8 → Option OpcodeMap)
    (mode : Mode) (short : Bool) : (vexLikePrefix encoding map? mode short).SelfDelimiting :=
  (selfDelimiting_checkBefore _).bind fun _ => (selfDelimiting_vexPayload short).bind fun _ =>
    (selfDelimiting_selectMap _ _ _).bind fun _ => selfDelimiting_modifyPrefixes _

theorem selfDelimiting_evexPrefix (mode : Mode) : (evexPrefix mode).SelfDelimiting :=
  (selfDelimiting_checkBefore _).bind fun _ => selfDelimiting_evexPayload.bind fun _ =>
    (selfDelimiting_checkPrefixes _).bind fun _ => (selfDelimiting_selectMap _ _ _).bind fun _ =>
      (selfDelimiting_modifyPrefixes _).bind fun _ => selfDelimiting_checkPrefixes _

theorem selfDelimiting_escapedOpcode : escapedOpcode.SelfDelimiting := by
  refine selfDelimiting_byte.bind fun b => ?_
  split
  · exact (selfDelimiting_modifyPrefixes _).bind fun _ => selfDelimiting_byte
  · split
    · exact (selfDelimiting_modifyPrefixes _).bind fun _ => selfDelimiting_byte
    · exact (selfDelimiting_modifyPrefixes _).bind fun _ => selfDelimiting_pure b

/-! ### The ModR/M byte after the opcode -/

theorem selfDelimiting_modrm (p : PrefixState) (op : UInt8) : (modrm p op).SelfDelimiting := by
  rw [modrm]
  split
  · exact selfDelimiting_misuse _
  · split
    · exact selfDelimiting_byte.map _
    · exact selfDelimiting_pure _

theorem selfDelimiting_withModRM (op : UInt8) : (withModRM op).SelfDelimiting :=
  selfDelimiting_prefixes.bind fun _ => (selfDelimiting_modrm _ op).bind fun _ =>
    selfDelimiting_pure _

theorem length_lt_of_byte {s t : ReadState} {b : UInt8} (h : byte.runOn s = (.ok b, t)) :
    t.rest.length < s.rest.length := by
  rw [runOn_byte] at h
  split at h
  · cases h
  · split at h
    · cases h
    · rename_i c rest hrest
      cases h
      rw [hrest]
      exact Nat.lt_succ_self _

/-- An opcode with a ModR/M byte reads it. -/
theorem runOn_withModRM {op : UInt8} {s : ReadState}
    (hcovers : Table.covers s.prefixes.encoding s.prefixes.map)
    (hmodrm : Table.hasModRM s.prefixes.encoding s.prefixes.map op) :
    (withModRM op).runOn s = (do let m ← byte; return (s.prefixes, op, ModRM.mk m)).runOn s := by
  rw [withModRM, runOn_bind_of_ok (runOn_prefixes s), modrm, hcovers, hmodrm]
  simp

/-- Behind an opcode with a ModR/M byte, what selects the form takes one byte more. -/
theorem runOn_selector {mode : Mode} {op : UInt8} {s t : ReadState}
    (hop : (opcode mode).runOn s = (.ok op, t))
    (hcovers : Table.covers t.prefixes.encoding t.prefixes.map)
    (hmodrm : Table.hasModRM t.prefixes.encoding t.prefixes.map op) :
    (selector mode).runOn s = (do let m ← byte; return (t.prefixes, op, ModRM.mk m)).runOn t := by
  rw [selector, runOn_bind_of_ok hop, runOn_withModRM hcovers hmodrm]

theorem length_lt_of_withModRM {op : UInt8} {s t : ReadState}
    {selected : PrefixState × UInt8 × ModRM}
    (hcovers : Table.covers s.prefixes.encoding s.prefixes.map)
    (hmodrm : Table.hasModRM s.prefixes.encoding s.prefixes.map op)
    (h : (withModRM op).runOn s = (.ok selected, t)) : t.rest.length < s.rest.length := by
  rw [runOn_withModRM hcovers hmodrm] at h
  obtain ⟨m, u, hbyte, hpure⟩ := exists_of_runOn_bind_ok h
  cases hpure
  exact length_lt_of_byte hbyte

/-! ### Opcodes that may start an extended prefix -/

theorem runOn_nextIs (test : UInt8 → Bool) (s : ReadState) :
    (nextIs test).runOn s =
      (.ok ((if maxLength ≤ s.consumed then none else s.rest.head?).any test), s) := by
  rw [nextIs, runOn_bind_of_ok (runOn_peek? s), runOn_pure]

theorem counts_nextIs (test : UInt8 → Bool) : (nextIs test).Counts := by
  intro s
  rw [runOn_nextIs]
  exact .refl s

/-- With a next byte at hand, more data do not change it. -/
theorem delimitsAt_nextIs (test : UInt8 → Bool) {s : ReadState}
    (h : maxLength ≤ s.consumed ∨ s.rest ≠ []) : (nextIs test).DelimitsAt s := by
  refine .of_append ?_ (fun h => ?_) fun more => ?_
  · rw [runOn_nextIs]
    simp
  · rw [runOn_nextIs] at h
    cases h
  · rw [runOn_nextIs, runOn_nextIs]
    rcases h with hmax | hrest
    · simp [hmax]
    · obtain ⟨b, bs, hcons⟩ := List.exists_cons_of_ne_nil hrest
      simp [hcons]

section ExtendedOpcode

variable {b : UInt8} {starts : Reader Bool} {rest : Reader Unit}

theorem selfDelimiting_restOrOpcode (hrest : rest.SelfDelimiting) (extended : Bool) :
    (if extended then do rest; byte else pure b : Reader UInt8).SelfDelimiting := by
  cases extended with
  | true => exact hrest.bind fun _ => selfDelimiting_byte
  | false => exact selfDelimiting_pure b

theorem counts_extendedOpcode (hstarts : starts.Counts) (hrest : rest.SelfDelimiting) :
    (extendedOpcode b starts rest).Counts :=
  hstarts.bind fun extended => (selfDelimiting_restOrOpcode hrest extended).counts

theorem delimitsAt_extendedOpcode_of_starts {s : ReadState} (hstarts : starts.DelimitsAt s)
    (hrest : rest.SelfDelimiting) : (extendedOpcode b starts rest).DelimitsAt s :=
  hstarts.bind_selfDelimiting (selfDelimiting_restOrOpcode hrest)

/-- Whether it starts a prefix or not, the byte is followed by at least one more. -/
theorem length_lt_of_extendedOpcode (hrest : rest.SelfDelimiting) {s t : ReadState}
    {selected : PrefixState × UInt8 × ModRM} (hstarts : (starts.runOn s).2 = s)
    (hcovers : Table.covers s.prefixes.encoding s.prefixes.map)
    (hmodrm : Table.hasModRM s.prefixes.encoding s.prefixes.map b)
    (h : (extendedOpcode b starts rest >>= withModRM).runOn s = (.ok selected, t)) :
    t.rest.length < s.rest.length := by
  obtain ⟨op, u, hop, hselected⟩ := exists_of_runOn_bind_ok h
  obtain ⟨extended, v, hextended, hbranch⟩ := exists_of_runOn_bind_ok hop
  obtain rfl : v = s := by rwa [hextended] at hstarts
  cases extended with
  | true =>
    -- The opcode behind the prefix is a byte that is read; the other readers put nothing back.
    obtain ⟨_, w, hpayload, hbyte⟩ := exists_of_runOn_bind_ok hbranch
    have hle := (hrest.counts v).length_rest_le
    rw [hpayload] at hle
    have hlt := length_lt_of_byte hbyte
    have hle' := ((selfDelimiting_withModRM op).counts u).length_rest_le
    rw [hselected] at hle'
    dsimp only at hle hle'
    omega
  | false =>
    -- The byte itself is the opcode, so the byte that is read is the ModR/M byte.
    cases hbranch
    exact length_lt_of_withModRM hcovers hmodrm hselected

/-- So there has to be room for that byte. -/
theorem consumed_lt_of_extendedOpcode (hcounts : starts.Counts) (hrest : rest.SelfDelimiting)
    {s t : ReadState} {selected : PrefixState × UInt8 × ModRM} (hs : s.consumed ≤ maxLength)
    (hstarts : (starts.runOn s).2 = s)
    (hcovers : Table.covers s.prefixes.encoding s.prefixes.map)
    (hmodrm : Table.hasModRM s.prefixes.encoding s.prefixes.map b)
    (h : (extendedOpcode b starts rest >>= withModRM).runOn s = (.ok selected, t)) :
    s.consumed < t.consumed ∧ t.consumed ≤ maxLength := by
  have hlt := length_lt_of_extendedOpcode hrest hstarts hcovers hmodrm h
  have hreaches := ((counts_extendedOpcode (b := b) hcounts hrest).bind fun op =>
    (selfDelimiting_withModRM op).counts) s
  rw [h] at hreaches
  have hcount := hreaches.consumed_add_length
  obtain ⟨-, -, -, hmax⟩ := hreaches
  dsimp only at hcount
  exact ⟨by omega, hmax hs⟩

theorem delimitsAt_extendedOpcode {test : UInt8 → Bool} (hrest : rest.SelfDelimiting)
    {s : ReadState} (hcovers : Table.covers s.prefixes.encoding s.prefixes.map)
    (hmodrm : Table.hasModRM s.prefixes.encoding s.prefixes.map b) :
    (extendedOpcode b (nextIs test) rest >>= withModRM).DelimitsAt s := by
  by_cases hnext : maxLength ≤ s.consumed ∨ s.rest ≠ []
  · -- More data take the same branch.
    have hop := delimitsAt_extendedOpcode_of_starts (b := b) (delimitsAt_nextIs test hnext) hrest
    exact hop.bind_selfDelimiting selfDelimiting_withModRM
  · -- Without a next byte the opcode is taken, and its ModR/M byte is missing.
    obtain ⟨hmax, hrest'⟩ : ¬ maxLength ≤ s.consumed ∧ s.rest = [] := by
      simpa [not_or] using hnext
    have hop : (extendedOpcode b (nextIs test) rest).runOn s = (.ok b, s) := by
      rw [extendedOpcode, runOn_bind_of_ok (runOn_nextIs test s)]
      simp [hrest']
    have hrun : (extendedOpcode b (nextIs test) rest >>= withModRM).runOn s =
        (.error .truncated, s) := by
      rw [runOn_bind_of_ok hop, runOn_withModRM hcovers hmodrm, runOn_bind, runOn_byte, if_neg hmax,
        hrest']
    refine ⟨fun more h => ?_, fun _ => ?_, fun _ more selected t ht => ?_, fun h => ?_⟩
    · rw [hrun] at h
      exact absurd rfl h
    · rw [hrun]
      exact ⟨hrest', Nat.lt_of_not_le hmax⟩
    · -- More data may take the other branch, which reads one of them as well.
      have hstarts : ((nextIs test).runOn (s.append more)).2 = s.append more := by
        rw [runOn_nextIs]
      have hlt := length_lt_of_extendedOpcode (s := s.append more) hrest hstarts hcovers hmodrm ht
      rwa [ReadState.rest_append, hrest', List.nil_append] at hlt
    · rw [hrun] at h
      cases h

end ExtendedOpcode

/-! ### The selector of the form -/

theorem snd_runOn_startsExtended (mode : Mode) (s : ReadState) :
    ((startsExtended mode).runOn s).2 = s := by
  rw [startsExtended]
  split
  · rfl
  · rw [runOn_nextIs]

theorem counts_startsExtended (mode : Mode) : (startsExtended mode).Counts := by
  rw [startsExtended]
  split
  · exact (selfDelimiting_pure true).counts
  · exact counts_nextIs _

theorem delimitsAt_startsExtended {mode : Mode} {b : UInt8} {rest : Reader Unit}
    (hrest : rest.SelfDelimiting) {s : ReadState}
    (hcovers : Table.covers s.prefixes.encoding s.prefixes.map)
    (hmodrm : Table.hasModRM s.prefixes.encoding s.prefixes.map b) :
    (extendedOpcode b (startsExtended mode) rest >>= withModRM).DelimitsAt s := by
  rw [startsExtended]
  split
  · -- In 64-bit mode the byte always starts a prefix.
    have hstarts := (selfDelimiting_pure true).delimitsAt s
    exact (delimitsAt_extendedOpcode_of_starts hstarts hrest).bind_selfDelimiting
      selfDelimiting_withModRM
  · exact delimitsAt_extendedOpcode hrest hcovers hmodrm

theorem counts_opcodeFrom (mode : Mode) (b : UInt8) : (opcodeFrom mode b).Counts := by
  rw [opcodeFrom]
  split
  · exact counts_extendedOpcode (counts_startsExtended mode) (selfDelimiting_vexLikePrefix ..)
  split
  · exact counts_extendedOpcode (counts_startsExtended mode) (selfDelimiting_evexPrefix mode)
  split
  · exact counts_extendedOpcode (counts_nextIs _) (selfDelimiting_vexLikePrefix ..)
  split
  · exact selfDelimiting_escapedOpcode.counts
  · exact (selfDelimiting_pure b).counts

theorem delimitsAt_opcodeFrom (mode : Mode) (b : UInt8) {s : ReadState}
    (hencoding : s.prefixes.encoding = .legacy) (hmap : s.prefixes.map = .primary) :
    (opcodeFrom mode b >>= withModRM).DelimitsAt s := by
  have hcovers : Table.covers s.prefixes.encoding s.prefixes.map := by
    rw [hencoding, hmap]
    decide
  have hmodrm : b ∈ [0xc4, 0xc5, 0x62, 0x8f] →
      Table.hasModRM s.prefixes.encoding s.prefixes.map b := by
    rw [hencoding, hmap]
    exact Table.hasModRM_of_mem
  rw [opcodeFrom]
  split
  · rename_i hb
    exact delimitsAt_startsExtended (selfDelimiting_vexLikePrefix ..) hcovers
      (hmodrm (by rcases hb with rfl | rfl <;> decide))
  split
  · rename_i hb
    exact delimitsAt_startsExtended (selfDelimiting_evexPrefix mode) hcovers
      (hmodrm (by subst hb; decide))
  split
  · rename_i hb
    exact delimitsAt_extendedOpcode (selfDelimiting_vexLikePrefix ..) hcovers
      (hmodrm (by subst hb; decide))
  split
  · exact (selfDelimiting_escapedOpcode.bind selfDelimiting_withModRM).delimitsAt s
  · exact ((selfDelimiting_pure b).bind selfDelimiting_withModRM).delimitsAt s

theorem selfDelimiting_selector (mode : Mode) : (selector mode).SelfDelimiting := by
  rw [selector, opcode, bind_assoc]
  have hcounts : ∀ b, (opcodeFrom mode b >>= withModRM).Counts := fun b =>
    (counts_opcodeFrom mode b).bind fun op => (selfDelimiting_withModRM op).counts
  refine (selfDelimiting_legacyPrefixes mode).bind fun b => ?_
  -- The opcode alone is not self-delimiting, so it is kept together with its ModR/M byte.
  rw [bind_assoc]
  refine ⟨(selfDelimiting_modifyPrefixes _).counts.bind fun _ => hcounts b, fun s => ?_⟩
  refine ((selfDelimiting_modifyPrefixes _).delimitsAt s).bind (fun _ => hcounts b) fun _ t ht => ?_
  rw [runOn_modifyPrefixes] at ht
  cases ht
  exact delimitsAt_opcodeFrom mode b rfl rfl

end Reader

end X86Decoder
