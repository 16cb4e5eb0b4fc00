import X86Decoder.Proofs.History

/-!
# Where decoding stops

A failure to decode tells how many bytes had been read. Two limits compete at every byte: the end of
the data and the greatest length of an instruction. The first is reached only where the data end
before the greatest length, and the second only where there are data enough for it, so no more than
the greatest length of the data ever matters.

* `DecodeError.StopsWithin`: what the place of a failure says about the data.
* `stopsWithin_of_decode`: every failure has such a place.
* `outcome_decode_take_maxLength`: as many bytes as an instruction may have decide the outcome.
* `Decoder.next_stops`: both for a decoder anywhere in its data.
-/

namespace X86Decoder

/-- The place of a failure where so many bytes remain. Data that run out are read to their end,
which comes before the fifteenth byte. What is too long has been read up to the fifteenth byte. -/
structure DecodeError.StopsWithin (e : DecodeError) (remaining : Nat) : Prop where
  offset_le : e.offset ≤ min 15 remaining
  truncated : e.fault.class? = some .truncated → e.offset = remaining ∧ remaining < 15
  invalidLength : e.fault.class? = some .invalidLength → e.offset = 15 ∧ 15 ≤ remaining

/-- Each of the two limits has a fault of its own. -/
theorem DecodeFault.eq_of_class? {fault : DecodeFault} :
    (fault.class? = some .truncated → fault = .truncated) ∧
      (fault.class? = some .invalidLength → fault = .tooLong) := by
  cases fault <;> simp [class?]

section Decode

variable {mode : Mode} {ip : UInt64} {r : List UInt8} {e : DecodeError}

/-- A failure leaves the reader within the data, and its offset is how far it came. -/
theorem exists_reaches_of_decode (h : (decode mode r ip).outcome = .error e) :
    ∃ t, (Reader.body mode).runOn { rest := r } = (.error e.fault, t) ∧ e.offset = t.consumed ∧
      t.consumed + t.rest.length = r.length ∧ t.consumed ≤ maxLength := by
  obtain ⟨t, hrun, hoffset⟩ := decodeFrom_eq_error_iff.1 h
  have hreaches := (Reader.selfDelimiting_body mode).counts { rest := r }
  rw [hrun] at hreaches
  have hcount := hreaches.consumed_add_length
  obtain ⟨_, -, -, hmax⟩ := hreaches
  rw [Nat.zero_add] at hcount
  exact ⟨t, hrun, hoffset, hcount, hmax (Nat.zero_le _)⟩

theorem stopsWithin_of_decode (h : (decode mode r ip).outcome = .error e) :
    e.StopsWithin r.length := by
  obtain ⟨t, hrun, hoffset, hcount, hmax⟩ := exists_reaches_of_decode h
  have hdelimits := (Reader.selfDelimiting_body mode).delimitsAt { rest := r }
  rw [maxLength] at hmax
  refine ⟨?_, fun hclass => ?_, fun hclass => ?_⟩
  · omega
  · -- The reader stops at the end of the data, before the greatest length.
    have hfault := DecodeFault.eq_of_class?.1 hclass
    obtain ⟨hrest, hlt⟩ := hdelimits.exhausted (by rw [hrun, hfault])
    rw [hrun] at hrest hlt
    rw [hrest, List.length_nil, Nat.add_zero] at hcount
    rw [hoffset, ← hcount]
    exact ⟨rfl, hlt⟩
  · -- The reader stops at the greatest length, so the data go as far.
    have hfault := DecodeFault.eq_of_class?.2 hclass
    have hfull := hdelimits.full (by rw [hrun, hfault])
    rw [hrun, maxLength] at hfull
    dsimp only at hfull
    omega

/-- As many bytes as an instruction may have decide the outcome. They cannot run out, since data run
out only before the greatest length. -/
theorem outcome_decode_take_maxLength (mode : Mode) (r : List UInt8) (ip : UInt64) :
    (decode mode (r.take maxLength) ip).outcome = (decode mode r ip).outcome := by
  by_cases hlength : r.length ≤ maxLength
  · rw [List.take_of_length_le hlength]
  · have htake : (r.take maxLength).length = maxLength :=
      List.length_take_of_le (Nat.le_of_not_le hlength)
    have hsame := @outcome_decode_append mode ip (r.take maxLength) (fun e he htruncated => by
      have hstops := (stopsWithin_of_decode he).truncated (by rw [htruncated]; rfl)
      rw [htake] at hstops
      exact absurd hstops.2 (Nat.lt_irrefl _)) (r.drop maxLength)
    rw [List.take_append_drop] at hsame
    exact hsame.symm

end Decode

namespace Decoder

/-- A decoder that fails tells a place within the fifteen bytes before it: the end of the data if
they run out, and the end of the fifteenth byte if the instruction is too long. Nothing beyond these
bytes plays a part, so a decoder that has no others decodes or fails in the same way. -/
theorem next_stops (d : Decoder) (hposition : d.position ≤ d.data.length) :
    (∀ e, d.next.1 = .error e → e.StopsWithin (d.data.length - d.position)) ∧
      (1 ≤ d.data.length - d.position →
        ∃ short, Decoder.new (.known d.mode)
            ((d.data.drop d.position).take (min 15 (d.data.length - d.position))) d.currentIp =
              .ok short ∧
          short.next.1 = d.next.1) := by
  have hlength : (d.data.drop d.position).length = d.data.length - d.position := List.length_drop
  rw [next_fst hposition, decoded]
  refine ⟨fun e he => hlength ▸ stopsWithin_of_decode he, fun hpos => ?_⟩
  have htake : (d.data.drop d.position).take (min 15 (d.data.length - d.position)) =
      (d.data.drop d.position).take maxLength := by
    rw [← hlength, ← List.take_take, List.take_length, maxLength]
  have hne : (d.data.drop d.position).take maxLength ≠ [] := by
    rw [← List.length_pos_iff, List.length_take, hlength, maxLength]
    omega
  obtain ⟨short, hshort, hzero, hdecoded⟩ := exists_new d.mode d.currentIp hne
  refine ⟨short, htake ▸ hshort, ?_⟩
  rw [next_fst (hzero ▸ Nat.zero_le _), hdecoded, outcome_decode_take_maxLength]

/-- Prefixes up to the fifteenth byte, behind an instruction. -/
theorem next_stops_prefixes :
    let d : Decoder :=
      { mode := .bits32, data := 0x90 :: List.replicate 15 0x66, ip := 0, position := 1 }
    d.next.1 = .error ⟨15, .tooLong⟩ ∧ DecodeError.StopsWithin ⟨15, .tooLong⟩ 15 ∧
      ∃ short, Decoder.new (.known .bits32) (List.replicate 15 0x66) 1 = .ok short ∧
        short.next.1 = .error ⟨15, .tooLong⟩ := by
  intro d
  have hnext : d.next.1 = .error ⟨15, .tooLong⟩ := rfl
  obtain ⟨hstops, hshort⟩ := next_stops d (by decide)
  refine ⟨hnext, hstops _ hnext, ?_⟩
  rw [← hnext]
  exact hshort (by decide)

end Decoder

end X86Decoder
