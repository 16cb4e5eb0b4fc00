import X86Decoder.Proofs.Decoder

/-!
# Decoding does not depend on history

A decoder keeps its reader from one instruction to the next, and a failure may leave it anywhere
within an instruction. None of this can be told from what the decoder does later: after any calls it
decodes what a new decoder for the rest of the data would.

* `Decoder.Call`, `Decoder.run`: sequences of calls on a decoder.
* `Decoder.Within`: what every call preserves.
* `Decoder.next_run_new`: independence of history.
-/

namespace X86Decoder

namespace Decoder

/-- A call on a decoder that may move it. -/
inductive Call where
  /-- Decode the next instruction. -/
  | next
  /-- Move to an offset. -/
  | setPosition (position : Int)

/-- The decoder after a call. A move outside the data leaves it as it is. -/
def after (d : Decoder) : Call → Decoder
  | .next => d.next.2
  | .setPosition position =>
    match d.setPosition position with
    | .ok moved => moved
    | .error _ => d

/-- The decoder after some calls. -/
def run (d : Decoder) (calls : List Call) : Decoder :=
  calls.foldl after d

/-- A decoder for the given data that stands within them. -/
structure Within (mode : Mode) (data : List UInt8) (ip : UInt64) (d : Decoder) : Prop where
  mode_eq : d.mode = mode
  data_eq : d.data = data
  ip_eq : d.ip = ip
  position_le : d.position ≤ data.length

variable {mode : Mode} {data : List UInt8} {ip : UInt64} {d : Decoder}

theorem within_new {d : Decoder} (h : new (.known mode) data ip = .ok d) :
    d.Within mode data ip := by
  rw [new] at h
  split at h
  · cases h
  · cases h
    exact ⟨rfl, rfl, rfl, Nat.zero_le _⟩

theorem Within.next (h : d.Within mode data ip) : d.next.2.Within mode data ip := by
  have hposition : d.position ≤ d.data.length := by
    rw [h.data_eq]
    exact h.position_le
  have hdata : d.next.2.data = d.data ∧ d.next.2.mode = d.mode ∧ d.next.2.ip = d.ip := by
    rw [next_eq hposition]
    cases d.decoded.outcome <;> exact ⟨rfl, rfl, rfl⟩
  refine ⟨hdata.2.1.trans h.mode_eq, hdata.1.trans h.data_eq, hdata.2.2.trans h.ip_eq, ?_⟩
  cases hnext : d.next.1 with
  | ok inst =>
    rw [position_next_of_ok hposition hnext, ← h.data_eq]
    exact position_add_length_le hposition hnext
  | error e =>
    rw [position_next_of_error hposition hnext]
    exact h.position_le

theorem Within.setPosition (h : d.Within mode data ip) {position : Int} {moved : Decoder}
    (hmoved : d.setPosition position = .ok moved) : moved.Within mode data ip := by
  rw [Decoder.setPosition] at hmoved
  split at hmoved
  · cases hmoved
  · rename_i hrange
    cases hmoved
    refine ⟨h.mode_eq, h.data_eq, h.ip_eq, ?_⟩
    rw [h.data_eq] at hrange
    change position.toNat ≤ data.length
    omega

/-- Every call keeps the decoder within its data. -/
theorem Within.after (h : d.Within mode data ip) (call : Call) :
    (d.after call).Within mode data ip := by
  cases call with
  | next => exact h.next
  | setPosition position =>
    rw [Decoder.after]
    split
    · rename_i moved hmoved
      exact h.setPosition hmoved
    · exact h

/-- So do any calls, one after the other. -/
theorem Within.run (h : d.Within mode data ip) (calls : List Call) :
    (d.run calls).Within mode data ip := by
  induction calls generalizing d with
  | nil => exact h
  | cons call calls ih => exact ih (h.after call)

/-- A move within the data leads there, whatever came before. -/
theorem Within.position_run_setPosition (h : d.Within mode data ip) (calls : List Call) {n : Nat}
    (hn : n ≤ data.length) : (d.run (calls ++ [.setPosition n])).position = n := by
  have hrange : ¬ ((n : Int) < 0 ∨ ((d.run calls).data.length : Int) < n) := by
    rw [(h.run calls).data_eq]
    omega
  rw [Decoder.run, List.foldl_append, List.foldl_cons, List.foldl_nil]
  change ((d.run calls).after (.setPosition n)).position = n
  rw [Decoder.after, Decoder.setPosition, if_neg hrange]
  exact Int.toNat_natCast n

/-- What a decoder decodes is what a new one for the rest of the data does. -/
theorem Within.decoded_eq (h : d.Within mode data ip) :
    d.decoded = decode mode (data.drop d.position) (ip + d.position.toUInt64) := by
  rw [decoded, currentIp, h.mode_eq, h.data_eq, h.ip_eq]

theorem exists_new (mode : Mode) {data : List UInt8} (ip : UInt64) (h : data ≠ []) :
    ∃ fresh, new (.known mode) data ip = .ok fresh ∧ fresh.position = 0 ∧
      fresh.decoded = decode mode data ip := by
  refine ⟨{ mode, data, ip }, ?_, rfl, ?_⟩
  · simp [new, h]
  · rw [decoded, currentIp, List.drop_zero]
    congr 1
    exact UInt64.add_zero ip

/-- Decoding does not depend on history. After any calls on a new decoder, failures and moves
outside the data among them, the decoder stands within its data; success moves it by the length of
the instruction and failure does not move it; and before the end of the data it decodes what a new
decoder for the rest of them would, with the same prefixes. -/
theorem next_run_new (mode : Mode) (data : List UInt8) (ip : UInt64) (start : Decoder)
    (hnew : new (.known mode) data ip = .ok start) (calls : List Call) :
    let d := start.run calls
    d.position ≤ data.length ∧
    (∀ inst, d.next.1 = .ok inst → d.next.2.position = d.position + inst.length) ∧
    (∀ e, d.next.1 = .error e → d.next.2.position = d.position) ∧
    (d.position < data.length →
      ∃ fresh, new (.known mode) (data.drop d.position) (ip + d.position.toUInt64) = .ok fresh ∧
        d.next.1 = fresh.next.1 ∧ d.next.2.prefixes = fresh.next.2.prefixes) := by
  intro d
  have hd : d.Within mode data ip := (within_new hnew).run calls
  have hposition : d.position ≤ d.data.length := by
    rw [hd.data_eq]
    exact hd.position_le
  refine ⟨hd.position_le, fun inst => position_next_of_ok hposition,
    fun e => position_next_of_error hposition, fun hlt => ?_⟩
  have hrest : data.drop d.position ≠ [] := by
    rw [Ne, List.drop_eq_nil_iff]
    omega
  obtain ⟨fresh, hfresh, hzero, hdecoded⟩ :=
    exists_new mode (ip + d.position.toUInt64) hrest
  have hfresh' : fresh.position ≤ fresh.data.length := by
    rw [hzero]
    exact Nat.zero_le _
  refine ⟨fresh, hfresh, ?_, ?_⟩
  · rw [next_fst hposition, next_fst hfresh', hd.decoded_eq, hdecoded]
  · rw [prefixes_next hposition, prefixes_next hfresh', hd.decoded_eq, hdecoded]

/-- A call whose target is cut off, a move outside the data, and a move to their last byte, where
the instruction pointer wraps around. -/
theorem next_run_new_wrapping :
    ∃ start, new (.known .bits64) [0xe8, 0x90] 0xffffffffffffffff = .ok start ∧
      let d := start.run ([.next, .setPosition 3] ++ [.setPosition (1 : Nat)])
      d.position = 1 ∧
        ∃ fresh, new (.known .bits64) [0x90] 0 = .ok fresh ∧ d.next.1 = fresh.next.1 ∧
          d.next.2.prefixes = fresh.next.2.prefixes := by
  refine ⟨_, rfl, ?_⟩
  have hposition := (within_new rfl : Within .bits64 [0xe8, 0x90] 0xffffffffffffffff _)
    |>.position_run_setPosition [.next, .setPosition 3] (n := 1) (by decide)
  obtain ⟨-, -, -, hfresh⟩ := next_run_new .bits64 [0xe8, 0x90] 0xffffffffffffffff _ rfl
    ([.next, .setPosition 3] ++ [.setPosition (1 : Nat)])
  refine ⟨hposition, ?_⟩
  rw [hposition] at hfresh
  exact hfresh (by decide)

end Decoder

end X86Decoder
