import X86Decoder.Listing
import X86Decoder.Proofs.PositionIndependence
import X86Decoder.Proofs.Sweep
import X86Decoder.Scan

/-!
# Listings and scans

Listings show the findings of a sweep and scans count them. Neither loses a byte or takes one twice:
the records of a listing, written one after the other, are the data again, and a scan that skips
what it cannot decode counts each record once.

* `Histogram.Counts`: a histogram holds how often each code occurs.
* `Statistics.Tallies`: statistics hold how many records there are of each kind.
* `Finding.StandsAt`, `Covers`: what records of data have to be.
* `sweep_lossless`: listings and scans are made from records that cover the data.
-/

namespace X86Decoder

open Finding (coveredBytes)

/-! ### Histograms -/

namespace Histogram

/-- Every code that occurs has one entry, which says how often. -/
structure Counts (h : Histogram) (codes : List Code) : Prop where
  nodup : (h.map Prod.fst).Nodup
  mem_iff : ∀ code n, (code, n) ∈ h ↔ code ∈ codes ∧ n = codes.count code

theorem counts_nil : Counts [] [] :=
  ⟨List.nodup_nil, fun _ _ => by simp⟩

/-- One more occurrence leaves the other codes alone. -/
theorem mem_add_of_ne {code c : Code} (hne : c ≠ code) (n : Int) (h : Histogram) :
    (c, n) ∈ h.add code ↔ (c, n) ∈ h := by
  induction h with
  | nil => simp [add, hne]
  | cons entry h ih =>
    obtain ⟨d, m⟩ := entry
    rw [add]
    split
    · rename_i heq
      simp [heq, hne]
    · simp [ih]

theorem mem_map_fst_add {code c : Code} (h : Histogram) :
    c ∈ (h.add code).map Prod.fst ↔ c ∈ h.map Prod.fst ∨ c = code := by
  induction h with
  | nil => simp [add]
  | cons entry h ih =>
    obtain ⟨d, m⟩ := entry
    rw [add]
    split
    · rename_i heq
      rw [List.map_cons, List.map_cons, List.mem_cons, heq]
      tauto
    · rw [List.map_cons, List.map_cons, List.mem_cons, List.mem_cons, ih, or_assoc]

theorem nodup_add {code : Code} {h : Histogram} (hnodup : (h.map Prod.fst).Nodup) :
    ((h.add code).map Prod.fst).Nodup := by
  induction h with
  | nil => simp [add]
  | cons entry h ih =>
    obtain ⟨d, m⟩ := entry
    rw [List.map_cons, List.nodup_cons] at hnodup
    rw [add]
    split
    · exact List.nodup_cons.2 hnodup
    · rename_i hne
      rw [List.map_cons, List.nodup_cons, mem_map_fst_add]
      exact ⟨not_or.2 ⟨hnodup.1, hne⟩, ih hnodup.2⟩

/-- The entry of a code that occurs once more is one higher, and it is new if there was none. -/
theorem mem_add_self {code : Code} {n : Int} {h : Histogram} (hnodup : (h.map Prod.fst).Nodup) :
    (code, n) ∈ h.add code ↔ (code, n - 1) ∈ h ∨ code ∉ h.map Prod.fst ∧ n = 1 := by
  induction h with
  | nil => simp [add]
  | cons entry h ih =>
    obtain ⟨d, m⟩ := entry
    rw [List.map_cons, List.nodup_cons] at hnodup
    rw [add]
    split
    · rename_i heq
      subst heq
      -- The entry that is raised is the only one of its code.
      have hother : ∀ k, (d, k) ∉ h := fun k hk => hnodup.1 (List.mem_map.2 ⟨_, hk, rfl⟩)
      simp only [List.mem_cons, Prod.mk.injEq, true_and, hother, or_false, List.map_cons, true_or,
        not_true_eq_false, false_and]
      omega
    · rename_i hne
      have hne' : code ≠ d := Ne.symm hne
      simp [ih hnodup.2, hne']

/-- A histogram with one more occurrence counts it. -/
theorem Counts.add {h : Histogram} {codes : List Code} (hcounts : h.Counts codes) (code : Code) :
    (h.add code).Counts (codes ++ [code]) := by
  refine ⟨nodup_add hcounts.nodup, fun c n => ?_⟩
  by_cases hc : c = code
  · subst hc
    have hkey : c ∈ h.map Prod.fst ↔ c ∈ codes := by
      simp [hcounts.mem_iff]
    rw [mem_add_self hcounts.nodup, hcounts.mem_iff, hkey, List.count_append,
      List.count_singleton_self, List.mem_append, List.mem_singleton]
    -- Either there was an entry, which is raised, or there is a new one with a count of one.
    by_cases hmem : c ∈ codes
    · simp only [hmem, true_and, not_true_eq_false, false_and, or_false, or_true]
      omega
    · simp [hmem, List.count_eq_zero_of_not_mem hmem]
  · rw [mem_add_of_ne hc, hcounts.mem_iff, List.count_append, List.mem_append, List.mem_singleton,
      List.count_singleton]
    simp [hc, Ne.symm hc]

end Histogram

/-! ### Statistics -/

namespace Finding

/-- The code of the instruction, if there is one. -/
def code? (finding : Finding) : Option Code :=
  finding.outcome.toOption.map Instruction.code

/-- The notice of a byte where no instruction starts, before the next one is tried. -/
def notice? (region : String) (finding : Finding) : Option Notice :=
  match finding.outcome with
  | .ok _ => none
  | .error e => some ⟨region, finding.ip, e, .skip⟩

end Finding

namespace Statistics

/-- The statistics count the records, with and without an instruction, and the codes of the
instructions. -/
structure Tallies (s : Statistics) (records : List Finding) : Prop where
  instructions : s.instructions = records.countP fun record => record.outcome.isOk
  invalid : s.invalid = records.countP fun record => !record.outcome.isOk
  codes : ∃ h, s.codes = some h ∧ h.Counts (records.filterMap Finding.code?)

variable {s : Statistics} {records : List Finding}

/-- One more instruction is counted. -/
theorem Tallies.addInstruction (hs : s.Tallies records) {record : Finding} {inst : Instruction}
    (hrecord : record.outcome = .ok inst) :
    (s.addInstruction inst.code).Tallies (records ++ [record]) := by
  obtain ⟨h, hcodes, hcounts⟩ := hs.codes
  refine ⟨?_, ?_, h.add inst.code, ?_, ?_⟩
  · simp [Statistics.addInstruction, hs.instructions, hrecord, Except.isOk, Except.toBool]
  · simp [Statistics.addInstruction, hs.invalid, hrecord, Except.isOk, Except.toBool]
  · rw [Statistics.addInstruction, hcodes]
    rfl
  · have hcode : record.code? = some inst.code := by
      rw [Finding.code?, hrecord]
      rfl
    rw [List.filterMap_append, List.filterMap_cons_some hcode, List.filterMap_nil]
    exact hcounts.add inst.code

/-- One more byte without an instruction is counted. -/
theorem Tallies.addInvalid (hs : s.Tallies records) {record : Finding} {e : DecodeError}
    (hrecord : record.outcome = .error e) :
    { s with invalid := s.invalid + 1 }.Tallies (records ++ [record]) := by
  refine ⟨?_, ?_, ?_⟩
  · simp [hs.instructions, hrecord, Except.isOk, Except.toBool]
  · simp [hs.invalid, hrecord, Except.isOk, Except.toBool]
  · have hcode : record.code? = none := by
      rw [Finding.code?, hrecord]
      rfl
    rw [List.filterMap_append, List.filterMap_cons_none hcode, List.filterMap_nil, List.append_nil]
    exact hs.codes

/-- Without a limit, counting goes on to the last record, and there is a notice for every byte
where no instruction starts. -/
theorem Tallies.count_skip (hs : s.Tallies records) (position : Nat) (more : List Finding) :
    ∃ result,
      count .skip 0 s position more = (more.filterMap (Finding.notice? s.region), .ok result) ∧
      result.Tallies (records ++ more) ∧ result.region = s.region ∧ result.mode = s.mode ∧
      result.bytes = s.bytes ∧ result.undecoded = s.undecoded := by
  -- The records that have been counted move from one list to the other, so both vary.
  induction more generalizing s records position with
  | nil =>
    rw [List.append_nil]
    exact ⟨s, rfl, hs, rfl, rfl, rfl, rfl⟩
  | cons record more ih =>
    rw [count, ← List.singleton_append, ← List.append_assoc]
    cases hrecord : record.outcome with
    | ok inst =>
      have hnotice : record.notice? s.region = none := by rw [Finding.notice?, hrecord]
      obtain ⟨result, hcount, hresult⟩ := ih (hs.addInstruction hrecord) _
      refine ⟨result, ?_, hresult⟩
      dsimp only
      rw [List.singleton_append, List.filterMap_cons_none hnotice, hcount]
      rfl
    | error e =>
      have hnotice : record.notice? s.region = some ⟨s.region, record.ip, e, .skip⟩ := by
        rw [Finding.notice?, hrecord]
      obtain ⟨result, hcount, hresult⟩ := ih (hs.addInvalid hrecord) _
      refine ⟨result, ?_, hresult⟩
      dsimp only
      rw [List.singleton_append, List.filterMap_cons_some hnotice, hcount]
      rfl

end Statistics

/-! ### Listings -/

namespace Finding

/-- A finding can be shown, with or without a dump. -/
theorem exists_line_front (dumper : Dumper) (mode mode' : Mode) (ip : UInt64)
    (data : List UInt8) :
    (∃ line, (front mode ip data).line mode' = .ok line) ∧
      ∃ dump, (front mode ip data).dump dumper = .ok dump := by
  rw [line, dump, outcome_front]
  cases hdecode : (decode mode data ip).outcome with
  | ok inst =>
    obtain ⟨body, t, hbody, rfl⟩ := decodeFrom_eq_ok_iff.1 hdecode
    obtain ⟨text, htext⟩ := ((Reader.ensures_body mode rfl).of_ok hbody).exists_text mode ip
    dsimp only
    rw [htext]
    exact ⟨⟨_, rfl⟩, ⟨_, rfl⟩⟩
  | error e => exact ⟨⟨_, rfl⟩, ⟨_, rfl⟩⟩

end Finding

/-- If each element has a result, so have all of them in order. -/
theorem exists_mapM_eq_ok {α β ε : Type} {f : α → Except ε β} {l : List α}
    (h : ∀ a ∈ l, ∃ b, f a = .ok b) : ∃ bs, l.mapM f = .ok bs := by
  induction l with
  | nil => exact ⟨[], rfl⟩
  | cons a l ih =>
    rw [List.forall_mem_cons] at h
    obtain ⟨b, hb⟩ := h.1
    obtain ⟨bs, hbs⟩ := ih h.2
    rw [List.mapM_cons, hb, hbs]
    exact ⟨b :: bs, rfl⟩

namespace Listing

/-- The findings of a sweep can be written out. -/
theorem exists_text_sweep (dumper : Dumper) (mode : Mode) (dump : Bool) (ip : UInt64)
    (data : List UInt8) :
    ∃ output, text dumper mode dump (sweep mode ip data) = .ok output := by
  have hparts : ∀ finding ∈ sweep mode ip data, ∃ part, (do
      let line ← finding.line mode
      let more ← if dump then finding.dump dumper else pure ""
      return line ++ more : Except Misuse String) = .ok part := by
    -- Whatever is found has been decoded somewhere, and every instruction that is can be shown.
    intro finding hmem
    obtain ⟨k, hk⟩ := List.mem_iff_getElem?.1 hmem
    obtain ⟨-, rfl⟩ := eq_front_of_getElem?_sweep hk
    obtain ⟨⟨line, hline⟩, ⟨dumped, hdumped⟩⟩ := Finding.exists_line_front dumper mode mode
      (ip + (coveredBytes ((sweep mode ip data).take k)).toUInt64)
      (data.drop (coveredBytes ((sweep mode ip data).take k)))
    rw [hline, hdumped]
    cases dump <;> exact ⟨_, rfl⟩
  obtain ⟨parts, hmapM⟩ := exists_mapM_eq_ok hparts
  rw [text, hmapM]
  exact ⟨_, rfl⟩

/-- There is a listing in every format, which shows the findings of the sweep. -/
theorem render_sweep (encoders : Encoders) (dumper : Dumper) (mode : Mode) (ip : UInt64)
    {data : List UInt8} (hdata : data ≠ []) (dump : Bool) :
    let findings := sweep mode ip data
    let listing := render encoders dumper (.known mode) ip data
    (∃ output, text dumper mode dump findings = .ok output ∧ listing "text" dump = .ok output) ∧
      listing "json" dump = .ok (encoders.json (document findings)) ∧
      listing "yaml" dump = .ok (encoders.yaml (document findings)) := by
  intro findings listing
  have hempty : data.isEmpty = false := List.isEmpty_eq_false_iff.2 hdata
  obtain ⟨output, houtput⟩ := exists_text_sweep dumper mode dump ip data
  refine ⟨⟨output, houtput, ?_⟩, ?_, ?_⟩
  · change render encoders dumper (.known mode) ip data "text" dump = _
    rw [render, hempty]
    change (text dumper mode dump findings).mapError _ = _
    rw [houtput]
    rfl
  · change render encoders dumper (.known mode) ip data "json" dump = _
    rw [render, hempty]
    rfl
  · change render encoders dumper (.known mode) ip data "yaml" dump = _
    rw [render, hempty]
    rfl

end Listing

/-- The digits of bytes, written in parts. -/
theorem Text.hexBytes_flatMap (records : List Finding) :
    String.join (records.map fun record => Text.hexBytes record.bytes) =
      Text.hexBytes (records.flatMap Finding.bytes) := by
  induction records with
  | nil => rfl
  | cons record records ih =>
    rw [List.map_cons, String.join_cons, ih, List.flatMap_cons, Text.hexBytes, Text.hexBytes,
      Text.hexBytes, List.map_append, String.join_append]

/-! ### Records that cover data -/

/-- What a record has to be at an offset of the data: its instruction pointer has gone on with the
offset, its bytes are those in the data, only one if there is no instruction, and it says what a new
decoder for the rest of the data finds. -/
structure Finding.StandsAt (mode : Mode) (ip : UInt64) (data : List UInt8) (offset : Nat)
    (record : Finding) : Prop where
  ip_eq : record.ip = ip + offset.toUInt64
  bytes_eq : record.bytes = (data.drop offset).take record.bytes.length
  length_eq : ∀ inst, record.outcome = .ok inst → record.bytes.length = inst.length
  length_eq_one : ∀ e, record.outcome = .error e → record.bytes.length = 1
  fresh : ∃ fresh, Decoder.new (.known mode) (data.drop offset) record.ip = .ok fresh ∧
    fresh.next.1 = record.outcome ∧ fresh.next.2.prefixes = record.prefixes

/-- Records that lose no byte of the data and take none twice. There are no more of them than bytes;
their bytes, written one after the other, are the data; each stands at the offset where the last one
ends; and where an instruction expects the next one, there is the next record. -/
structure Covers (mode : Mode) (ip : UInt64) (data : List UInt8) (records : List Finding) :
    Prop where
  length_le : records.length ≤ data.length
  join_hexBytes : String.join (records.map fun record => Text.hexBytes record.bytes) =
    Text.hexBytes data
  standsAt : ∀ (k : Nat) (record : Finding), records[k]? = some record →
    record.StandsAt mode ip data (coveredBytes (records.take k))
  nextIp_modEq : ∀ (k : Nat) (record next : Finding) (inst : Instruction),
    records[k]? = some record → records[k + 1]? = some next → record.outcome = .ok inst →
    (inst.nextIp.toNat : Int) ≡ next.ip.toNat [ZMOD (Nat.pow 2 mode.bits : Nat)]

variable {mode : Mode} {ip : UInt64} {data : List UInt8}

theorem Finding.standsAt_front {offset : Nat} (hrest : data.drop offset ≠ []) :
    (front mode (ip + offset.toUInt64) (data.drop offset)).StandsAt mode ip data offset := by
  have hlength := length_bytes_front mode (ip + offset.toUInt64) hrest
  rw [← outcome_front] at hlength
  have hip : (front mode (ip + offset.toUInt64) (data.drop offset)).ip = ip + offset.toUInt64 := by
    rw [front_eq]
  refine ⟨hip, bytes_front mode _ hrest, fun inst hinst => ?_, fun e he => ?_, ?_⟩
  · rw [hlength, hinst, extent]
  · rw [hlength, he, extent]
  · -- A new decoder stands at the start of its data, which is the rest of these.
    obtain ⟨fresh, hfresh, hzero, hdecoded⟩ :=
      Decoder.exists_new mode (ip + offset.toUInt64) hrest
    have hposition : fresh.position ≤ fresh.data.length := by
      rw [hzero]
      exact Nat.zero_le _
    refine ⟨fresh, by rwa [hip], ?_, ?_⟩
    · rw [Decoder.next_fst hposition, hdecoded, outcome_front]
    · rw [Decoder.prefixes_next hposition, hdecoded, front_eq]

/-- An instruction expects the next one right behind it. -/
theorem nextIp_modEq_of_decode {inst : Instruction} (h : (decode mode data ip).outcome = .ok inst) :
    (inst.nextIp.toNat : Int) ≡ (ip + inst.length.toUInt64).toNat
      [ZMOD (Nat.pow 2 mode.bits : Nat)] := by
  obtain ⟨body, t, -, rfl⟩ := decodeFrom_eq_ok_iff.1 h
  exact (Body.nextIp_modEq mode ip body.length).trans
    (Word.add_modEq mode.bits_le ip body.length.toUInt64).symm

/-- The records of a sweep cover the data. -/
theorem covers_sweep (mode : Mode) (ip : UInt64) (data : List UInt8) :
    Covers mode ip data (sweep mode ip data) where
  length_le := length_sweep_le mode ip data
  join_hexBytes := by rw [Text.hexBytes_flatMap, flatMap_bytes_sweep]
  standsAt k record hrecord := by
    obtain ⟨hrest, rfl⟩ := eq_front_of_getElem?_sweep hrecord
    exact Finding.standsAt_front hrest
  nextIp_modEq k record next inst hrecord hnext hinst := by
    obtain ⟨hrest, hfront⟩ := eq_front_of_getElem?_sweep hrecord
    obtain ⟨-, hnext⟩ := eq_front_of_getElem?_sweep hnext
    have hdecode : (decode mode (data.drop (coveredBytes ((sweep mode ip data).take k)))
        (ip + (coveredBytes ((sweep mode ip data).take k)).toUInt64)).outcome = .ok inst := by
      rw [← hinst, hfront, Finding.outcome_front]
    have hlength : record.bytes.length = inst.length := by
      rw [hfront] at hinst ⊢
      exact (Finding.standsAt_front hrest).length_eq inst hinst
    -- The next record is as far behind this one as the instruction is long.
    have hip : next.ip = ip + (coveredBytes ((sweep mode ip data).take k)).toUInt64 +
        inst.length.toUInt64 := by
      rw [hnext, Finding.front_eq, coveredBytes_take_succ hrecord, hlength, Nat.toUInt64_eq,
        UInt64.ofNat_add, ← UInt64.add_assoc]
    rw [hip]
    exact nextIp_modEq_of_decode hdecode

/-- What a scan that skips bytes and has no limit makes of data, beside its notices. -/
theorem Scan.exists_region_skip (config : Config) (region : Region) (data : List UInt8)
    (hresync : config.resync = .skip) (hlimit : config.maxErrors = 0) :
    ∃ stats, Scan.region config false region (.ok data) =
        ((sweep region.mode region.ip data).filterMap (Finding.notice? region.name), .ok stats) ∧
      stats.Tallies (sweep region.mode region.ip data) ∧ stats.region = region.name ∧
      stats.mode = .known region.mode ∧ stats.bytes = data.length ∧ stats.undecoded = 0 := by
  let start : Statistics := ⟨region.name, .known region.mode, data.length, 0, 0, 0, some []⟩
  have hstart : start.Tallies [] := ⟨rfl, rfl, [], rfl, Histogram.counts_nil⟩
  obtain ⟨stats, hcount, htallies, hname, hmode, hbytes, hundecoded⟩ :=
    hstart.count_skip 0 (sweep region.mode region.ip data)
  refine ⟨stats, ?_, htallies, hname, hmode, hbytes, hundecoded⟩
  rw [Scan.region, Statistics.ofData, hresync, hlimit]
  change ((Statistics.count .skip 0 start 0 (sweep region.mode region.ip data)).1,
    (Statistics.count .skip 0 start 0 (sweep region.mode region.ip data)).2.mapError _) = _
  rw [hcount]
  rfl

/-- Listings and scans lose no byte and agree with each other. A listing in any format shows records
that cover the data, however documents are encoded and fields are dumped; a decoder that is moved
along the data, past each instruction or past a byte where there is none, finds these and then stands
at the end of the data; and a scan that skips bytes and has no limit counts the same records, with a
notice for each that has no instruction. -/
theorem sweep_lossless (mode : Mode) (ip : UInt64) (data : List UInt8) (hdata : data ≠ []) :
    let records := sweep mode ip data
    Covers mode ip data records ∧
    (∀ (encoders : Encoders) (dumper : Dumper) (dump : Bool),
      let listing := Listing.render encoders dumper (.known mode) ip data
      (∃ output, Listing.text dumper mode dump records = .ok output ∧
        listing "text" dump = .ok output) ∧
      listing "json" dump = .ok (encoders.json (Listing.document records)) ∧
      listing "yaml" dump = .ok (encoders.yaml (Listing.document records))) ∧
    (data.length < UInt64.size → ∃ start last, Decoder.new (.known mode) data ip = .ok start ∧
      start.Walks records last ∧ last.position = data.length) ∧
    ∀ (config : Config) (region : Region), config.resync = .skip → config.maxErrors = 0 →
      region.mode = mode → region.ip = ip →
      ∃ stats, Scan.region config false region (.ok data) =
          (records.filterMap (Finding.notice? region.name), .ok stats) ∧
        stats.Tallies records ∧ stats.bytes = data.length ∧ stats.undecoded = 0 := by
  intro records
  refine ⟨covers_sweep mode ip data, fun encoders dumper dump =>
    Listing.render_sweep encoders dumper mode ip hdata dump, fun hsize => ?_,
    fun config region hresync hlimit hmode hip => ?_⟩
  · obtain ⟨start, hstart, -⟩ := Decoder.exists_new mode ip hdata
    obtain ⟨last, hwalks, hlast⟩ := Decoder.walks_sweep hstart hsize
    exact ⟨start, last, hstart, hwalks, hlast⟩
  · subst hmode hip
    obtain ⟨stats, hregion, htallies, -, -, hbytes, hundecoded⟩ :=
      Scan.exists_region_skip config region data hresync hlimit
    exact ⟨stats, hregion, htallies, hbytes, hundecoded⟩

/-- An instruction at the last place there is, and behind it one whose end is missing, at the first
place again. -/
theorem sweep_lossless_wrapping :
    let data : List UInt8 := [0x90, 0xc5]
    let region : Region := ⟨"text", "a.bin", 0, 2, .bits64, 64, 0xffffffffffffffff⟩
    let records := sweep .bits64 0xffffffffffffffff data
    data ≠ [] ∧ data.length < UInt64.size ∧
      Covers .bits64 0xffffffffffffffff data records ∧
      (∃ start last, Decoder.new (.known .bits64) data 0xffffffffffffffff = .ok start ∧
        start.Walks records last ∧ last.position = 2) ∧
      ∃ stats, Scan.region {} false region (.ok data) =
          (records.filterMap (Finding.notice? "text"), .ok stats) ∧
        stats.Tallies records ∧ stats.bytes = 2 ∧ stats.undecoded = 0 := by
  intro data region records
  obtain ⟨hcovers, -, hwalks, hscan⟩ :=
    sweep_lossless .bits64 0xffffffffffffffff [0x90, 0xc5] (by decide)
  exact ⟨by decide, by decide, hcovers, hwalks (by decide), hscan {} region rfl rfl rfl rfl⟩

end X86Decoder
