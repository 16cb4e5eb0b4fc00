import X86Decoder.Proofs.Reader

/-!
# Decoding by reading a body

Decoding reads a body and puts it at its place, so what is to be proved of instructions is proved of
bodies.

* `decodeFrom_eq_ok_iff`: an instruction is a body at its place.
* `decodeFrom_eq_error_iff`: a failure is that of the reader, with the place it came to.
-/

namespace X86Decoder

namespace Reader

/-- What selects the form comes first. -/
theorem runOn_body {mode : Mode} {s t : ReadState} {p : PrefixState} {op : UInt8} {m : ModRM}
    (h : (selector mode).runOn s = (.ok (p, op, m), t)) :
    (body mode).runOn s = (form p mode op m >>= formBody p mode m).runOn t := by
  rw [body, runOn_bind_of_ok h]

/-- The length of a body is how far the reader came. -/
theorem length_of_runOn_body {mode : Mode} {s t : ReadState} {body : Body}
    (h : (Reader.body mode).runOn s = (.ok body, t)) : body.length = t.consumed := by
  obtain ⟨⟨p, op, m⟩, u, hselector, -⟩ := exists_of_runOn_bind_ok h
  rw [runOn_body hselector] at h
  obtain ⟨f, _, -, hbody⟩ := exists_of_runOn_bind_ok h
  obtain ⟨_, _, -, hdraft⟩ := exists_of_runOn_bind_ok hbody
  obtain ⟨_, _, -, hoperands⟩ := exists_of_runOn_bind_ok hdraft
  obtain ⟨_, _, -, hrelative⟩ := exists_of_runOn_bind_ok hoperands
  obtain ⟨_, _, -, hposition⟩ := exists_of_runOn_bind_ok hrelative
  cases hposition
  rfl

end Reader

/-- Decoding yields an instruction exactly if a body can be read, and then it is this body at its
place. -/
theorem decodeFrom_eq_ok_iff {mode : Mode} {s : ReadState} {ip : UInt64} {inst : Instruction} :
    (decodeFrom mode s ip).outcome = .ok inst ↔
      ∃ body t, (Reader.body mode).runOn s = (.ok body, t) ∧ inst = body.place mode ip := by
  rw [decodeFrom]
  rcases (Reader.body mode).runOn s with ⟨fault | body, t⟩
  · simp
  · simp [eq_comm]

/-- Decoding fails exactly if no body can be read, and it tells how far the reader came. -/
theorem decodeFrom_eq_error_iff {mode : Mode} {s : ReadState} {ip : UInt64} {e : DecodeError} :
    (decodeFrom mode s ip).outcome = .error e ↔
      ∃ t, (Reader.body mode).runOn s = (.error e.fault, t) ∧ e.offset = t.consumed := by
  rw [decodeFrom]
  rcases (Reader.body mode).runOn s with ⟨fault | body, t⟩
  · cases e
    simp [and_comm, eq_comm]
  · simp

end X86Decoder
