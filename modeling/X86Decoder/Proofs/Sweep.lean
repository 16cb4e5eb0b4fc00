import X86Decoder.Proofs.History
import X86Decoder.Proofs.Totality
import X86Decoder.Sweep

/-!
# Sweeps

A sweep leaves out no byte and covers none twice. Each of its findings is what stands at the front
of the data that the findings before it leave, so from any finding on it is the sweep of those data.
A decoder that is moved along, past an instruction or past a byte where there is none, finds the
same and stops at the end of the data.

* `sweep_eq_cons`: the first finding, and the sweep of what it leaves.
* `sweep_induction`: induction along a sweep.
* `flatMap_bytes_sweep`: the findings cover the data.
* `drop_sweep`: the rest of a sweep is the sweep of the rest.
* `Decoder.visit`, `Decoder.Walks`: a decoder that is moved along its data.
* `Decoder.walks_sweep`: what it finds is the sweep.
-/

namespace X86Decoder

/-- The number of bytes that findings cover. -/
def Finding.coveredBytes (findings : List Finding) : Nat :=
  (findings.flatMap Finding.bytes).length

open Finding (coveredBytes)

variable {mode : Mode}

/-! ### One finding -/

namespace Finding

/-- How many bytes a finding covers: those of the instruction, or a single one. -/
def extent : Except DecodeError Instruction → Nat
  | .ok inst => inst.length
  | .error _ => 1

theorem front_eq (mode : Mode) (ip : UInt64) (data : List UInt8) :
    front mode ip data =
      ⟨ip, data.take (extent (decode mode data ip).outcome), (decode mode data ip).outcome,
        (decode mode data ip).prefixes⟩ := by
  rw [front]
  cases (decode mode data ip).outcome <;> rfl

/-- A finding covers some bytes, and no more than there are. -/
theorem extent_mem (ip : UInt64) {data : List UInt8} (hdata : data ≠ []) :
    0 < extent (decode mode data ip).outcome ∧
      extent (decode mode data ip).outcome ≤ data.length := by
  cases h : (decode mode data ip).outcome with
  | ok inst =>
    have hle := Nat.le_min.1 (length_le_of_decode h)
    exact ⟨length_pos_of_decode h, hle.2⟩
  | error e => exact ⟨Nat.one_pos, List.length_pos_iff.2 hdata⟩

theorem outcome_front (mode : Mode) (ip : UInt64) (data : List UInt8) :
    (front mode ip data).outcome = (decode mode data ip).outcome := by
  rw [front_eq]

theorem length_bytes_front (mode : Mode) (ip : UInt64) {data : List UInt8} (hdata : data ≠ []) :
    (front mode ip data).bytes.length = extent (decode mode data ip).outcome := by
  rw [front_eq]
  exact List.length_take_of_le (extent_mem ip hdata).2

theorem length_bytes_front_pos (mode : Mode) (ip : UInt64) {data : List UInt8} (hdata : data ≠ []) :
    0 < (front mode ip data).bytes.length := by
  rw [length_bytes_front mode ip hdata]
  exact (extent_mem ip hdata).1

/-- The bytes of a finding are the first of the data. -/
theorem bytes_front (mode : Mode) (ip : UInt64) {data : List UInt8} (hdata : data ≠ []) :
    (front mode ip data).bytes = data.take (front mode ip data).bytes.length := by
  rw [length_bytes_front mode ip hdata, front_eq]

end Finding

/-! ### The findings of a sweep -/

open Finding (front)

theorem add_one_add_toUInt64 (ip : UInt64) (n : Nat) :
    ip + 1 + n.toUInt64 = ip + (n + 1).toUInt64 := by
  rw [Nat.toUInt64_eq, Nat.toUInt64_eq, UInt64.ofNat_add, UInt64.add_assoc, UInt64.add_comm 1]
  rfl

/-- The bytes that belong to an earlier finding are passed over. -/
theorem sweepFrom_eq (mode : Mode) (ip : UInt64) (covered : Nat) (data : List UInt8) :
    sweepFrom mode ip covered data =
      sweep mode (ip + covered.toUInt64) (data.drop covered) := by
  -- Both the place and the number of bytes to be passed over change from one byte to the next.
  induction data generalizing ip covered with
  | nil =>
    rw [List.drop_nil]
    rfl
  | cons b rest ih =>
    cases covered with
    | zero =>
      change sweep mode ip (b :: rest) = sweep mode (ip + 0) (b :: rest)
      rw [UInt64.add_zero]
    | succ n => rw [sweepFrom, ih, add_one_add_toUInt64, List.drop_succ_cons]

/-- A sweep finds what is in front of the data and goes on behind it. -/
theorem sweep_eq_cons (ip : UInt64) {data : List UInt8} (hdata : data ≠ []) :
    sweep mode ip data =
      front mode ip data ::
        sweep mode (ip + (front mode ip data).bytes.length.toUInt64)
          (data.drop (front mode ip data).bytes.length) := by
  cases data with
  | nil => exact absurd rfl hdata
  | cons b rest =>
    -- The first byte has been taken, and the others of the finding are still to be passed over.
    obtain ⟨n, hn⟩ := Nat.exists_eq_succ_of_ne_zero
      (Nat.pos_iff_ne_zero.1 (Finding.length_bytes_front_pos mode ip hdata))
    rw [sweep, sweepFrom, sweepFrom_eq, hn, Nat.succ_eq_add_one, Nat.add_sub_cancel,
      add_one_add_toUInt64, List.drop_succ_cons]

theorem exists_sweep_eq_cons {ip : UInt64} {data : List UInt8} (hdata : data ≠ [])
    {inst : Instruction} (h : (decode mode data ip).outcome = .ok inst) :
    ∃ finding : Finding, finding.outcome = .ok inst ∧ sweep mode ip data =
      finding :: sweep mode (ip + inst.length.toUInt64) (data.drop inst.length) := by
  have hlength := Finding.length_bytes_front mode ip hdata
  rw [h, Finding.extent] at hlength
  refine ⟨front mode ip data, (Finding.outcome_front mode ip data).trans h, ?_⟩
  rw [sweep_eq_cons ip hdata, hlength]

/-- Induction along a sweep: what holds behind a finding holds in front of it. -/
theorem sweep_induction (mode : Mode) {motive : UInt64 → List UInt8 → Prop}
    (nil : ∀ ip, motive ip [])
    (cons : ∀ ip data, data ≠ [] →
      motive (ip + (front mode ip data).bytes.length.toUInt64)
        (data.drop (front mode ip data).bytes.length) → motive ip data)
    (ip : UInt64) (data : List UInt8) : motive ip data := by
  induction hlength : data.length using Nat.strongRecOn generalizing ip data with
  | ind n ih =>
    by_cases hdata : data = []
    · rw [hdata]
      exact nil ip
    · have hpos := Finding.length_bytes_front_pos mode ip hdata
      have hdata' := List.length_pos_iff.2 hdata
      -- A finding covers a byte at least, so there is less behind it.
      refine cons ip data hdata (ih _ ?_ _ _ rfl)
      rw [List.length_drop]
      omega

/-- The findings of a sweep cover the data, each byte once and in order. -/
theorem flatMap_bytes_sweep (mode : Mode) (ip : UInt64) (data : List UInt8) :
    (sweep mode ip data).flatMap Finding.bytes = data := by
  induction ip, data using sweep_induction mode with
  | nil ip => rfl
  | cons ip data hdata ih =>
    rw [sweep_eq_cons ip hdata, List.flatMap_cons, ih]
    calc (front mode ip data).bytes ++ data.drop (front mode ip data).bytes.length
        = data.take (front mode ip data).bytes.length
            ++ data.drop (front mode ip data).bytes.length :=
          congrArg (· ++ _) (Finding.bytes_front mode ip hdata)
      _ = data := List.take_append_drop _ _

theorem length_sweep_le (mode : Mode) (ip : UInt64) (data : List UInt8) :
    (sweep mode ip data).length ≤ data.length := by
  induction ip, data using sweep_induction mode with
  | nil ip => exact Nat.le_refl _
  | cons ip data hdata ih =>
    have hpos := Finding.length_bytes_front_pos mode ip hdata
    have hdata' := List.length_pos_iff.2 hdata
    rw [List.length_drop] at ih
    rw [sweep_eq_cons ip hdata, List.length_cons]
    omega

theorem coveredBytes_cons (finding : Finding) (findings : List Finding) :
    coveredBytes (finding :: findings) = finding.bytes.length + coveredBytes findings := by
  simp [coveredBytes]

/-- From any finding on, a sweep is that of the data which the findings before it leave. -/
theorem drop_sweep (mode : Mode) (ip : UInt64) (data : List UInt8) (k : Nat) :
    (sweep mode ip data).drop k =
      sweep mode (ip + (coveredBytes ((sweep mode ip data).take k)).toUInt64)
        (data.drop (coveredBytes ((sweep mode ip data).take k))) := by
  induction k generalizing ip data with
  | zero =>
    change sweep mode ip data = sweep mode (ip + 0) data
    rw [UInt64.add_zero]
  | succ k ih =>
    by_cases hdata : data = []
    · rw [hdata, List.drop_nil]
      rfl
    · -- What the first finding covers is added to the place, whether at once or step by step.
      rw [sweep_eq_cons ip hdata, List.drop_succ_cons, List.take_succ_cons, coveredBytes_cons, ih,
        List.drop_drop, Nat.toUInt64_eq, Nat.toUInt64_eq, Nat.toUInt64_eq, UInt64.ofNat_add,
        UInt64.add_assoc]

/-- A finding is what is in front of the data that those before it leave, and some are left. -/
theorem eq_front_of_getElem?_sweep {ip : UInt64} {data : List UInt8} {k : Nat} {finding : Finding}
    (h : (sweep mode ip data)[k]? = some finding) :
    let offset := coveredBytes ((sweep mode ip data).take k)
    data.drop offset ≠ [] ∧ finding = front mode (ip + offset.toUInt64) (data.drop offset) := by
  intro offset
  have hhead : ((sweep mode ip data).drop k).head? = some finding := by
    rw [List.head?_drop, h]
  -- If nothing were left, the sweep would have ended before.
  have hrest : data.drop offset ≠ [] := by
    intro hnil
    rw [drop_sweep, hnil] at hhead
    cases hhead
  rw [drop_sweep, sweep_eq_cons _ hrest, List.head?_cons] at hhead
  exact ⟨hrest, (Option.some.inj hhead).symm⟩

/-- The findings before the next one are those before this one, and this one. -/
theorem coveredBytes_take_succ {findings : List Finding} {k : Nat} {finding : Finding}
    (h : findings[k]? = some finding) :
    coveredBytes (findings.take (k + 1)) =
      coveredBytes (findings.take k) + finding.bytes.length := by
  rw [List.take_add_one, h]
  simp [coveredBytes]

/-! ### A decoder that is moved along -/

namespace Decoder

/-- Decode where a decoder stands and move it on: past the instruction, whose bytes are found again
in the data, or past one byte if there is none. -/
def visit (d : Decoder) : Except Misuse (Finding × Decoder) :=
  match d.next with
  | (.ok inst, after) => do
    let bytes ← inst.bytes d.data d.ip
    return (⟨d.currentIp, bytes, .ok inst, after.prefixes⟩, after)
  | (.error e, after) => do
    let moved ← after.setPosition (d.position + 1)
    return (⟨d.currentIp, (d.data.drop d.position).take 1, .error e, after.prefixes⟩, moved)

/-- As long as any data remain, the decoder is moved on; the findings are listed in order, and the
last decoder has come to the end. -/
inductive Walks : Decoder → List Finding → Decoder → Prop
  | stop {d : Decoder} (h : d.canDecode = false) : Walks d [] d
  | step {d moved last : Decoder} {finding : Finding} {findings : List Finding}
      (h : d.canDecode = true) (hvisit : d.visit = .ok (finding, moved))
      (hrest : Walks moved findings last) : Walks d (finding :: findings) last

variable {data : List UInt8} {ip : UInt64} {d : Decoder}

/-- Where data remain, a decoder finds what is in front of them and is moved past it. -/
theorem Within.exists_visit (hd : d.Within mode data ip) (hlt : d.position < data.length)
    (hsize : data.length < UInt64.size) :
    ∃ moved, d.visit = .ok (front mode (ip + d.position.toUInt64) (data.drop d.position), moved) ∧
      moved.Within mode data ip ∧
      moved.position = d.position +
        (front mode (ip + d.position.toUInt64) (data.drop d.position)).bytes.length := by
  have hdata : d.data = data := hd.data_eq
  have hposition : d.position ≤ d.data.length := by
    rw [hdata]
    exact hd.position_le
  have hrest : data.drop d.position ≠ [] := by
    rw [Ne, List.drop_eq_nil_iff]
    omega
  have hip : d.currentIp = ip + d.position.toUInt64 := by rw [currentIp, hd.ip_eq]
  have hnext := next_fst hposition
  have hprefixes := prefixes_next hposition
  rw [hd.decoded_eq] at hnext hprefixes
  rw [Finding.length_bytes_front mode _ hrest, Finding.front_eq]
  rcases hrun : d.next with ⟨e | inst, after⟩ <;> rw [hrun] at hnext hprefixes <;>
    dsimp only at hnext hprefixes <;> rw [← hnext, ← hprefixes]
  · -- The byte after the place where decoding failed is within the data or at their end.
    have hafter : after.Within mode data ip := by
      have h := hd.next
      rwa [hrun] at h
    have hrange : ¬((d.position + 1 : Int) < 0 ∨ (after.data.length : Int) < d.position + 1) := by
      rw [hafter.data_eq]
      omega
    have hmoved : after.setPosition (d.position + 1) =
        .ok { after with position := d.position + 1 } := by
      rw [Decoder.setPosition, if_neg hrange]
      rfl
    refine ⟨_, ?_, hafter.setPosition hmoved, rfl⟩
    rw [visit, hrun]
    dsimp only
    rw [hmoved, hip, hdata]
    rfl
  · -- The instruction is within the data, so its bytes are found again at its place.
    have hok : d.next.1 = .ok inst := by rw [hrun]
    have hmoved := position_next_of_ok hposition hok
    have hafter := hd.next
    rw [hrun] at hmoved hafter
    have hbytes := bytes_of_next hposition hok (by rwa [hdata])
    refine ⟨after, ?_, hafter, hmoved⟩
    rw [visit, hrun]
    dsimp only
    rw [hbytes, hip, hdata]
    rfl

/-- A decoder that is moved along its data finds what a sweep of the rest of them does, and stops at
their end. -/
theorem Within.exists_walks (hd : d.Within mode data ip) (hsize : data.length < UInt64.size) :
    ∃ last, d.Walks (sweep mode (ip + d.position.toUInt64) (data.drop d.position)) last ∧
      last.position = data.length := by
  -- Every step takes the decoder closer to the end of its data.
  induction hleft : data.length - d.position using Nat.strongRecOn generalizing d with
  | ind n ih =>
    by_cases hlt : d.position < data.length
    · have hrest : data.drop d.position ≠ [] := by
        rw [Ne, List.drop_eq_nil_iff]
        omega
      obtain ⟨moved, hvisit, hmoved, hposition⟩ := hd.exists_visit hlt hsize
      have hpos := Finding.length_bytes_front_pos mode (ip + d.position.toUInt64) hrest
      obtain ⟨last, hwalks, hlast⟩ := ih _ (by omega) hmoved rfl
      refine ⟨last, ?_, hlast⟩
      rw [sweep_eq_cons _ hrest]
      refine .step (by rw [canDecode, hd.data_eq]; exact decide_eq_true hlt) hvisit ?_
      rw [hposition, Nat.toUInt64_eq, UInt64.ofNat_add, ← UInt64.add_assoc,
        ← List.drop_drop] at hwalks
      exact hwalks
    · have hend : d.position = data.length := Nat.le_antisymm hd.position_le (Nat.le_of_not_lt hlt)
      refine ⟨d, ?_, hend⟩
      rw [hend, List.drop_length]
      refine .stop ?_
      rw [canDecode, hd.data_eq]
      exact decide_eq_false hlt

/-- A new decoder that is moved along its data finds what a sweep does. -/
theorem walks_sweep {start : Decoder} (hnew : new (.known mode) data ip = .ok start)
    (hsize : data.length < UInt64.size) :
    ∃ last, start.Walks (sweep mode ip data) last ∧ last.position = data.length := by
  have hzero : start.position = 0 := by
    rw [new] at hnew
    split at hnew <;> cases hnew
    rfl
  obtain ⟨last, hwalks, hlast⟩ := (within_new hnew).exists_walks hsize
  rw [hzero, List.drop_zero] at hwalks
  have hip : ip + Nat.toUInt64 0 = ip := UInt64.add_zero ip
  rw [hip] at hwalks
  exact ⟨last, hwalks, hlast⟩

end Decoder

end X86Decoder
