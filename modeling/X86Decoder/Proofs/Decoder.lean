import X86Decoder.Decoder
import X86Decoder.Proofs.SelfDelimiting.Decode

/-!
# One step of a decoder

A decoder clears its reader before each instruction, so a step depends on nothing but the data that
are left and the instruction pointer there.

* `Decoder.next_fst`, `Decoder.prefixes_next`: a step is decoding what is left of the data.
* `Decoder.position_next_of_ok`, `Decoder.position_next_of_error`: where a step leads.
-/

namespace X86Decoder

/-- Nothing of the last instruction is left in a cleared reader. -/
theorem ReadState.reset_eq (s : ReadState) (data : List UInt8) : s.reset data = { rest := data } :=
  rfl

namespace Decoder

variable {d : Decoder}

/-- What is left of the data, decoded. -/
def decoded (d : Decoder) : Decoded :=
  decode d.mode (d.data.drop d.position) d.currentIp

theorem next_eq (h : d.position ≤ d.data.length) :
    d.next =
      match d.decoded.outcome with
      | .ok inst =>
        (.ok inst, { d with position := d.position + inst.length, reader := d.decoded.state })
      | .error e => (.error e, { d with reader := d.decoded.state }) := by
  rw [next, if_neg (Nat.not_lt.2 h), ReadState.reset_eq]
  rfl

theorem next_fst (h : d.position ≤ d.data.length) : d.next.1 = d.decoded.outcome := by
  rw [next_eq h]
  cases d.decoded.outcome <;> rfl

/-- A decoder yields the body in front of it, placed where it stands. -/
theorem next_eq_ok_iff (h : d.position ≤ d.data.length) {inst : Instruction} :
    d.next.1 = .ok inst ↔
      ∃ body t, (Reader.body d.mode).runOn { rest := d.data.drop d.position } = (.ok body, t) ∧
        inst = body.place d.mode d.currentIp := by
  rw [next_fst h, decoded, decode, decodeFrom_eq_ok_iff]

theorem prefixes_next (h : d.position ≤ d.data.length) :
    d.next.2.prefixes = d.decoded.prefixes := by
  rw [next_eq h]
  cases d.decoded.outcome <;> rfl

theorem position_next_of_ok (h : d.position ≤ d.data.length) {inst : Instruction}
    (hnext : d.next.1 = .ok inst) : d.next.2.position = d.position + inst.length := by
  rw [next_fst h] at hnext
  rw [next_eq h, hnext]

/-- A failure to decode leaves a decoder where it is. -/
theorem position_next_of_error (h : d.position ≤ d.data.length) {e : DecodeError}
    (hnext : d.next.1 = .error e) : d.next.2.position = d.position := by
  rw [next_fst h] at hnext
  rw [next_eq h, hnext]

/-- An instruction ends within the data. -/
theorem position_add_length_le (h : d.position ≤ d.data.length) {inst : Instruction}
    (hnext : d.next.1 = .ok inst) : d.position + inst.length ≤ d.data.length := by
  rw [next_fst h] at hnext
  have hle := (Nat.le_min.1 (length_le_of_decode hnext)).2
  rw [List.length_drop] at hle
  omega

end Decoder

end X86Decoder
