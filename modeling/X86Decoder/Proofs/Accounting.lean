import Mathlib.Algebra.BigOperators.Group.List.Lemmas
import Mathlib.Algebra.BigOperators.Ring.Finset
import X86Decoder.Proofs.Scan

/-!
# What scans account for

A scan accounts for every byte of a region, whichever policy it follows where no instruction starts.
Each byte belongs to an instruction that was counted, or starts none, or was left when the scan
stopped. Only a scan that skips bytes can pass its limit, since one that stops has seen a single
failure.

* `Histogram.Counts.sum_eq`: the counts of a histogram add up to the number of codes.
* `coveredBytes_eq`: records cover the bytes of their instructions, and one for each failure.
* `Resync.counted`, `Resync.left`: the records that a policy counts, and those that it leaves.
* `Statistics.exists_count`: within the limit, statistics count these records.
* `Scan.region_accounts`: what a scan says of a region.
-/

namespace X86Decoder

open Finding (coveredBytes)

/-! ### Histograms -/

namespace Histogram

variable {h : Histogram} {codes : List Code}

theorem Counts.pos (hcounts : h.Counts codes) : ∀ entry ∈ h, 0 < entry.2 := by
  intro entry hentry
  obtain ⟨hmem, hcount⟩ := (hcounts.mem_iff entry.1 entry.2).1 hentry
  rw [hcount]
  exact_mod_cast List.count_pos_iff.2 hmem

/-- The counts of a histogram add up to the number of codes. -/
theorem Counts.sum_eq (hcounts : h.Counts codes) : (h.map Prod.snd).sum = codes.length := by
  -- The entries are those of the codes without repetition, in some order.
  have hperm : (h.map Prod.fst).Perm codes.dedup :=
    (List.perm_ext_iff_of_nodup hcounts.nodup codes.nodup_dedup).2 fun code => by
      simp [hcounts.mem_iff]
  have hsnd : h.map Prod.snd = (h.map Prod.fst).map fun code => (codes.count code : Int) := by
    rw [List.map_map]
    exact List.map_congr_left fun entry hentry =>
      ((hcounts.mem_iff entry.1 entry.2).1 hentry).2
  calc (h.map Prod.snd).sum
      = (codes.dedup.map fun code => (codes.count code : Int)).sum := by
        rw [hsnd, (hperm.map _).sum_eq]
    _ = ((codes.dedup.map fun code => codes.count code).sum : Nat) := by
        rw [Nat.cast_list_sum, List.map_map]
        rfl
    _ = codes.length := by rw [List.sum_map_count_dedup_eq_length]

end Histogram

/-! ### Records -/

/-- The instruction of a finding, if there is one. -/
def Finding.instruction? (finding : Finding) : Option Instruction :=
  finding.outcome.toOption

variable {mode : Mode} {ip : UInt64} {data : List UInt8}

theorem length_bytes_of_mem_sweep {record : Finding} (hmem : record ∈ sweep mode ip data) :
    record.bytes.length = Finding.extent record.outcome := by
  obtain ⟨k, hk⟩ := List.mem_iff_getElem?.1 hmem
  obtain ⟨hrest, rfl⟩ := eq_front_of_getElem?_sweep hk
  rw [Finding.length_bytes_front mode _ hrest, Finding.outcome_front]

theorem coveredBytes_append (first second : List Finding) :
    coveredBytes (first ++ second) = coveredBytes first + coveredBytes second := by
  simp [coveredBytes]

/-- Records cover the bytes of their instructions, and one byte for each failure. -/
theorem coveredBytes_eq {records : List Finding}
    (hextent : ∀ record ∈ records, record.bytes.length = Finding.extent record.outcome) :
    coveredBytes records =
      ((records.filterMap Finding.instruction?).map Instruction.length).sum
        + records.countP fun record => !record.outcome.isOk := by
  induction records with
  | nil => rfl
  | cons record records ih =>
    rw [List.forall_mem_cons] at hextent
    rw [coveredBytes_cons, ih hextent.2, hextent.1]
    cases hrecord : record.outcome with
    | ok inst =>
      have hinst : record.instruction? = some inst := by
        rw [Finding.instruction?, hrecord]
        rfl
      rw [List.filterMap_cons_some hinst, List.map_cons, List.sum_cons,
        List.countP_cons_of_neg (by rw [hrecord]; exact Bool.noConfusion), Finding.extent]
      omega
    | error e =>
      have hinst : record.instruction? = none := by
        rw [Finding.instruction?, hrecord]
        rfl
      rw [List.filterMap_cons_none hinst, List.countP_cons_of_pos (by rw [hrecord]; rfl),
        Finding.extent]
      omega

/-! ### Policies -/

namespace Resync

/-- The records that a policy counts: all of them, or those up to the first without an
instruction. -/
def counted : Resync → List Finding → List Finding
  | skip, records => records
  | stop, records =>
    records.takeWhile (fun record => record.outcome.isOk)
      ++ (records.dropWhile fun record => record.outcome.isOk).take 1

/-- The records that a policy leaves. -/
def left : Resync → List Finding → List Finding
  | skip, _ => []
  | stop, records => (records.dropWhile fun record => record.outcome.isOk).drop 1

theorem counted_append_left (policy : Resync) (records : List Finding) :
    policy.counted records ++ policy.left records = records := by
  cases policy with
  | skip => exact List.append_nil records
  | stop =>
    rw [counted, left, List.append_assoc, List.take_append_drop, List.takeWhile_append_dropWhile]

theorem counted_stop_cons (record : Finding) (records : List Finding) :
    stop.counted (record :: records) =
      record :: if record.outcome.isOk then stop.counted records else [] := by
  cases h : record.outcome.isOk <;> simp [counted, h]

theorem left_stop_cons (record : Finding) (records : List Finding) :
    stop.left (record :: records) =
      if record.outcome.isOk then stop.left records else records := by
  cases h : record.outcome.isOk <;> simp [left, h]

/-- The record at which a policy stops has no instruction. -/
theorem filterMap_counted_stop (records : List Finding) :
    (stop.counted records).filterMap Finding.instruction? =
      (records.takeWhile fun record => record.outcome.isOk).filterMap Finding.instruction? := by
  induction records with
  | nil => rfl
  | cons record records ih =>
    rw [counted_stop_cons, List.filterMap_cons, List.takeWhile_cons, Finding.instruction?]
    cases hrecord : record.outcome with
    | ok inst =>
      simp [Except.isOk, Except.toBool, Except.toOption, Finding.instruction?, hrecord, ih]
    | error e => simp [Except.isOk, Except.toBool, Except.toOption]

/-- A policy that stops counts one failure, if there is any. -/
theorem countP_counted_stop (records : List Finding) :
    ((stop.counted records).countP fun record => !record.outcome.isOk) =
      if records.countP (fun record => !record.outcome.isOk) = 0 then 0 else 1 := by
  induction records with
  | nil => rfl
  | cons record records ih =>
    rw [counted_stop_cons, List.countP_cons, List.countP_cons]
    cases hrecord : record.outcome.isOk with
    | true => simp [ih]
    | false => simp

end Resync

namespace Statistics

variable {s : Statistics} {records : List Finding} {limit : Nat}

theorem passesLimit_eq_true_iff {invalid : Int} :
    passesLimit limit invalid = true ↔ 0 < limit ∧ (limit : Int) < invalid := by
  simp [passesLimit]

/-- A single failure passes no limit. -/
theorem passesLimit_one (limit : Nat) : passesLimit limit 1 = false := by
  rw [← Bool.not_eq_true, passesLimit_eq_true_iff]
  omega

/-- A limit that all failures together do not pass changes nothing. -/
theorem count_skip_of_within (position : Nat) (more : List Finding)
    (hlimit : passesLimit limit
      (s.invalid + more.countP fun record => !record.outcome.isOk) = false) :
    count .skip limit s position more = count .skip 0 s position more := by
  induction more generalizing s position with
  | nil => rfl
  | cons record more ih =>
    rw [count, count]
    cases hrecord : record.outcome with
    | ok inst =>
      rw [List.countP_cons_of_neg (by rw [hrecord]; exact Bool.noConfusion)] at hlimit
      exact ih _ hlimit
    | error e =>
      rw [List.countP_cons_of_pos (by rw [hrecord]; rfl)] at hlimit
      have hmore : passesLimit limit (s.invalid + 1 +
          more.countP fun record => !record.outcome.isOk) = false := by
        rw [← hlimit]
        congr 1
        omega
      have hnow : passesLimit limit (s.invalid + 1) = false := by
        rw [← Bool.not_eq_true, passesLimit_eq_true_iff] at hmore ⊢
        omega
      dsimp only
      rw [hnow, ih _ hmore]
      rfl

/-- If all failures together pass the limit, counting ends at the one that does. -/
theorem count_skip_of_beyond (position : Nat) (more : List Finding)
    (hs : passesLimit limit s.invalid = false)
    (hlimit : passesLimit limit
      (s.invalid + more.countP fun record => !record.outcome.isOk) = true) :
    (count .skip limit s position more).2 = .error ⟨s.region, limit⟩ := by
  induction more generalizing s position with
  | nil =>
    rw [List.countP_nil, Nat.cast_zero, Int.add_zero, hs] at hlimit
    cases hlimit
  | cons record more ih =>
    rw [count]
    cases hrecord : record.outcome with
    | ok inst =>
      rw [List.countP_cons_of_neg (by rw [hrecord]; exact Bool.noConfusion)] at hlimit
      exact ih _ hs hlimit
    | error e =>
      rw [List.countP_cons_of_pos (by rw [hrecord]; rfl)] at hlimit
      have hmore : passesLimit limit (s.invalid + 1 +
          more.countP fun record => !record.outcome.isOk) = true := by
        rw [← hlimit]
        congr 1
        omega
      dsimp only
      split
      · rfl
      · rename_i hnow
        exact ih _ (Bool.eq_false_iff.2 hnow) hmore

/-- A scan that stops has no limit to pass. What it leaves are the bytes behind the first failure,
which is where it stands then. -/
theorem Tallies.count_stop (hs : s.Tallies records) (hinvalid : s.invalid = 0)
    (hundecoded : s.undecoded = 0) (limit position : Nat) (more : List Finding)
    (hextent : ∀ record ∈ more, record.bytes.length = Finding.extent record.outcome)
    (hbytes : s.bytes = position + coveredBytes more) :
    ∃ result, (count .stop limit s position more).2 = .ok result ∧
      result.Tallies (records ++ Resync.stop.counted more) ∧ result.region = s.region ∧
      result.mode = s.mode ∧ result.bytes = s.bytes ∧
      result.undecoded = coveredBytes (Resync.stop.left more) := by
  -- The position goes on by the bytes of each record, so it varies along with the records.
  induction more generalizing s records position with
  | nil =>
    refine ⟨s, rfl, ?_, rfl, rfl, rfl, hundecoded⟩
    change s.Tallies (records ++ [])
    rwa [List.append_nil]
  | cons record more ih =>
    rw [List.forall_mem_cons] at hextent
    rw [coveredBytes_cons] at hbytes
    rw [count]
    cases hrecord : record.outcome with
    | ok inst =>
      rw [Resync.counted_stop_cons, Resync.left_stop_cons, hrecord, ← List.singleton_append,
        ← List.append_assoc]
      refine ih (hs.addInstruction hrecord) hinvalid hundecoded _ hextent.2 ?_
      change s.bytes = _
      omega
    | error e =>
      have hone : passesLimit limit (s.invalid + 1) = false := by
        rw [hinvalid]
        exact passesLimit_one limit
      have hlength : record.bytes.length = 1 := by rw [hextent.1, hrecord, Finding.extent]
      dsimp only
      rw [hone, Resync.counted_stop_cons, Resync.left_stop_cons, hrecord]
      obtain ⟨hinstructions, hinvalids, hcodes⟩ := hs.addInvalid hrecord
      refine ⟨_, rfl, ⟨hinstructions, hinvalids, hcodes⟩, rfl, rfl, rfl, ?_⟩
      change s.bytes - position - 1 = coveredBytes more
      omega

/-- Unless a scan that skips bytes passes its limit, the records that its policy counts are
counted. -/
theorem exists_count (policy : Resync) (limit : Nat) (region : String) (mode : StatedMode)
    (found : List Finding)
    (hextent : ∀ record ∈ found, record.bytes.length = Finding.extent record.outcome)
    (hlimit : ¬(policy = .skip ∧ 0 < limit ∧
      limit < found.countP fun record => !record.outcome.isOk)) :
    ∃ result,
      (count policy limit ⟨region, mode, coveredBytes found, 0, 0, 0, some []⟩ 0 found).2 =
        .ok result ∧
      result.Tallies (policy.counted found) ∧ result.region = region ∧ result.mode = mode ∧
      result.bytes = coveredBytes found ∧
      result.undecoded = coveredBytes (policy.left found) := by
  have hstart : Tallies ⟨region, mode, coveredBytes found, 0, 0, 0, some []⟩ [] :=
    ⟨rfl, rfl, [], rfl, Histogram.counts_nil⟩
  cases policy with
  | skip =>
    have hwithin : passesLimit limit
        (0 + (found.countP fun record => !record.outcome.isOk : Nat)) = false := by
      rw [← Bool.not_eq_true, passesLimit_eq_true_iff]
      simp only [true_and] at hlimit
      omega
    obtain ⟨result, hcount, hresult⟩ := hstart.count_skip 0 found
    refine ⟨result, ?_, hresult⟩
    rw [count_skip_of_within 0 found hwithin, hcount]
  | stop => exact hstart.count_stop rfl rfl limit 0 found hextent (Int.zero_add _).symm

/-- Statistics that account for all bytes, given the instructions that were counted: the bytes are
those of the instructions, those that start none and those that were left; and each instruction is
counted under its code. -/
structure Accounts (s : Statistics) (decoded : List Instruction) : Prop where
  balance : s.bytes = (decoded.map Instruction.length).sum + s.invalid + s.undecoded
  instructions_eq : s.instructions = decoded.length
  codes : ∃ h, s.codes = some h ∧ h.Counts (decoded.map Instruction.code) ∧
    (∀ entry ∈ h, 0 < entry.2) ∧ s.instructions = (h.map Prod.snd).sum

/-- Statistics that count records account for the bytes which these cover. -/
theorem Tallies.accounts (hs : s.Tallies records)
    (hextent : ∀ record ∈ records, record.bytes.length = Finding.extent record.outcome)
    (hbytes : s.bytes = coveredBytes records + s.undecoded) :
    s.Accounts (records.filterMap Finding.instruction?) := by
  obtain ⟨h, hcodes, hcounts⟩ := hs.codes
  have hinstructions : s.instructions = (records.filterMap Finding.instruction?).length := by
    rw [hs.instructions, List.length_filterMap_eq_countP]
    congr 1
    refine List.countP_congr fun record _ => ?_
    rw [Finding.instruction?]
    cases record.outcome <;> rfl
  have hdecoded : records.filterMap Finding.code? =
      (records.filterMap Finding.instruction?).map Instruction.code :=
    List.map_filterMap.symm
  refine ⟨?_, hinstructions, h, hcodes, hdecoded ▸ hcounts, hcounts.pos, ?_⟩
  · rw [hbytes, coveredBytes_eq hextent, hs.invalid, Nat.cast_add]
  · rw [hcounts.sum_eq, hdecoded, List.length_map, hinstructions]

end Statistics

/-! ### Scans -/

/-- A scan accounts for every byte of its region. The records are what a decoder finds that is moved
along the data, past each instruction or past a byte where there is none. The scan fails exactly
when it skips bytes, has a limit, and more records are failures than the limit allows. Otherwise its
statistics account for all bytes: when it skips bytes, by all instructions there are, and when it
stops, by those before the first failure. -/
theorem Scan.region_accounts (config : Config) (region : Region) (data : List UInt8)
    (hdata : data ≠ []) :
    let records := sweep region.mode region.ip data
    let failures := records.countP fun record => !record.outcome.isOk
    let outcome := (Scan.region config false region (.ok data)).2
    (data.length < UInt64.size → ∃ start last,
      Decoder.new (.known region.mode) data region.ip = .ok start ∧ start.Walks records last ∧
        last.position = data.length) ∧
    (outcome = .error (.tooManyErrors ⟨region.name, config.maxErrors⟩) ↔
      config.resync = .skip ∧ 0 < config.maxErrors ∧ config.maxErrors < failures) ∧
    (outcome ≠ .error (.tooManyErrors ⟨region.name, config.maxErrors⟩) →
      ∃ stats, outcome = .ok stats ∧ stats.region = region.name ∧
        stats.mode = .known region.mode ∧ stats.bytes = data.length ∧
        (config.resync = .skip → stats.Accounts (records.filterMap Finding.instruction?) ∧
          stats.invalid = failures ∧ stats.undecoded = 0) ∧
        (config.resync = .stop →
          stats.Accounts ((records.takeWhile fun record => record.outcome.isOk).filterMap
            Finding.instruction?) ∧
          stats.invalid = if failures = 0 then 0 else 1)) := by
  intro records failures outcome
  have hlength : data.length = coveredBytes records := by rw [coveredBytes, flatMap_bytes_sweep]
  have houtcome : outcome = (Statistics.count config.resync config.maxErrors
      ⟨region.name, .known region.mode, coveredBytes records, 0, 0, 0, some []⟩ 0
        records).2.mapError .tooManyErrors := by
    rw [← hlength]
    rfl
  have hfails (hbeyond : config.resync = .skip ∧ 0 < config.maxErrors ∧
      config.maxErrors < failures) :
      outcome = .error (.tooManyErrors ⟨region.name, config.maxErrors⟩) := by
    rw [houtcome, hbeyond.1, Statistics.count_skip_of_beyond 0 records]
    · rfl
    · rw [← Bool.not_eq_true, Statistics.passesLimit_eq_true_iff]
      dsimp only
      omega
    · rw [Statistics.passesLimit_eq_true_iff]
      dsimp only
      omega
  have haccounts (hwithin : ¬(config.resync = .skip ∧ 0 < config.maxErrors ∧
      config.maxErrors < failures)) :
      ∃ stats, outcome = .ok stats ∧ stats.Tallies (config.resync.counted records) ∧
        stats.region = region.name ∧ stats.mode = .known region.mode ∧
        stats.bytes = data.length ∧
        stats.undecoded = coveredBytes (config.resync.left records) := by
    obtain ⟨stats, hstats, hrest⟩ := Statistics.exists_count config.resync config.maxErrors
      region.name (.known region.mode) records (fun _ => length_bytes_of_mem_sweep) hwithin
    rw [hlength]
    refine ⟨stats, ?_, hrest⟩
    rw [houtcome, hstats]
    rfl
  refine ⟨fun hsize => ?_, ⟨fun herror => ?_, hfails⟩, fun hne => ?_⟩
  · obtain ⟨start, hstart, -⟩ := Decoder.exists_new region.mode region.ip hdata
    obtain ⟨last, hwalks, hlast⟩ := Decoder.walks_sweep hstart hsize
    exact ⟨start, last, hstart, hwalks, hlast⟩
  · by_contra hwithin
    obtain ⟨stats, hstats, -⟩ := haccounts hwithin
    rw [hstats] at herror
    cases herror
  · obtain ⟨stats, hstats, htallies, hname, hmode, hbytes, hundecoded⟩ :=
      haccounts fun hbeyond => hne (hfails hbeyond)
    -- Counted or left, the records cover the data.
    have hcovered : data.length = coveredBytes (config.resync.counted records) +
        coveredBytes (config.resync.left records) := by
      rw [← coveredBytes_append, Resync.counted_append_left, hlength]
    have hextent : ∀ record ∈ config.resync.counted records,
        record.bytes.length = Finding.extent record.outcome := by
      intro record hrecord
      have hmem := List.mem_append_left (config.resync.left records) hrecord
      rw [Resync.counted_append_left] at hmem
      exact length_bytes_of_mem_sweep hmem
    have hall := htallies.accounts hextent (by rw [hbytes, hundecoded]; exact_mod_cast hcovered)
    refine ⟨stats, hstats, hname, hmode, hbytes, fun hskip => ?_, fun hstop => ?_⟩
    · rw [hskip] at hall hundecoded
      refine ⟨hall, ?_, hundecoded⟩
      rw [htallies.invalid, hskip]
      rfl
    · rw [hstop, Resync.filterMap_counted_stop] at hall
      refine ⟨hall, ?_⟩
      rw [htallies.invalid, hstop, Resync.countP_counted_stop]
      exact Nat.cast_ite _ _ _

/-- An instruction, and behind it two prefixes without another one: one too many for a scan that may
skip one, and one left by a scan that stops. -/
theorem Scan.region_accounts_truncated :
    let data : List UInt8 := [0xc5, 0x00, 0x66, 0x66]
    let region : Region := ⟨"text", "a.bin", 0, 4, .bits32, 32, 0xffffffffffffffff⟩
    data ≠ [] ∧
      (Scan.region { maxErrors := 1 } false region (.ok data)).2 =
        .error (.tooManyErrors ⟨"text", 1⟩) ∧
      ∃ inst stats, inst.code = lds ∧
        (Scan.region { maxErrors := 1, resync := .stop } false region (.ok data)).2 = .ok stats ∧
        stats.Accounts [inst] ∧ stats.bytes = 4 ∧ stats.instructions = 1 ∧ stats.invalid = 1 ∧
        stats.undecoded = 1 := by
  intro data region
  have hdata : data ≠ [] := List.cons_ne_nil _ _
  obtain ⟨inst, hinst, hlength, hcode⟩ := exists_decode_lds region.ip
  obtain ⟨record, hrecord, hrecords⟩ :=
    exists_sweep_eq_cons hdata (outcome_decode_append_of_ok hinst [0x66, 0x66])
  rw [hlength] at hrecords
  change sweep region.mode region.ip data = record :: sweep .bits32 (region.ip + 2) [0x66, 0x66]
    at hrecords
  have hfailures : ((sweep region.mode region.ip data).countP fun record =>
      !record.outcome.isOk) = 2 := by
    rw [hrecords, List.countP_cons_of_neg (by rw [hrecord]; exact Bool.false_ne_true)]
    rfl
  obtain ⟨-, hlimit, -⟩ := region_accounts { maxErrors := 1 } region data hdata
  obtain ⟨-, hlimit', hstats⟩ :=
    region_accounts { maxErrors := 1, resync := .stop } region data hdata
  obtain ⟨stats, hok, -, -, hsize, -, hstop⟩ := hstats fun herror => by cases (hlimit'.1 herror).1
  obtain ⟨haccounts, hinvalid⟩ := hstop rfl
  rw [hfailures] at hlimit hinvalid
  have hdecoded : ((sweep region.mode region.ip data).takeWhile fun record =>
      record.outcome.isOk).filterMap Finding.instruction? = [inst] := by
    rw [hrecords, List.takeWhile_cons_of_pos (by rw [hrecord]; rfl), List.filterMap_cons,
      Finding.instruction?, hrecord]
    rfl
  rw [hdecoded] at haccounts
  refine ⟨hdata, hlimit.2 ⟨rfl, by decide, by decide⟩, inst, stats, hcode, hok, haccounts, hsize,
    haccounts.instructions_eq, hinvalid, ?_⟩
  have hbalance := haccounts.balance
  rw [hsize, hinvalid, List.map_singleton, hlength] at hbalance
  change (4 : Int) = 2 + 1 + stats.undecoded at hbalance
  omega

end X86Decoder
