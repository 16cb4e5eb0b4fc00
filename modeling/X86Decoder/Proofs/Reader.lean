import X86Decoder.Decode.Basic

/-!
# Running readers

What a reader does to the state it starts in. The elementary readers have one equation each, and a
sequence of readers is taken apart by `runOn_bind` and its inversion, so that no later proof unfolds
the monad.
-/

namespace X86Decoder

namespace Reader

variable {α β : Type}

@[simp]
theorem runOn_pure (a : α) (s : ReadState) : (pure a : Reader α).runOn s = (.ok a, s) := rfl

@[simp]
theorem runOn_throw (fault : DecodeFault) (s : ReadState) :
    (throw fault : Reader α).runOn s = (.error fault, s) := rfl

@[simp]
theorem runOn_get (s : ReadState) : (get : Reader ReadState).runOn s = (.ok s, s) := rfl

@[simp]
theorem runOn_set (s t : ReadState) : (set t : Reader PUnit).runOn s = (.ok ⟨⟩, t) := rfl

/-- The second reader starts where the first one stops, and only if that one succeeds. -/
theorem runOn_bind (m : Reader α) (f : α → Reader β) (s : ReadState) :
    (m >>= f).runOn s =
      match m.runOn s with
      | (.ok a, t) => (f a).runOn t
      | (.error fault, t) => (.error fault, t) := by
  change (match (m.runOn s) with
    | (r, t) => (ExceptT.bindCont f r : StateM ReadState _).run t) = _
  rcases m.runOn s with ⟨_ | _, t⟩ <;> rfl

theorem runOn_bind_of_ok {m : Reader α} {f : α → Reader β} {s t : ReadState} {a : α}
    (h : m.runOn s = (.ok a, t)) : (m >>= f).runOn s = (f a).runOn t := by
  rw [runOn_bind, h]

theorem runOn_bind_of_error {m : Reader α} {f : α → Reader β} {s t : ReadState}
    {fault : DecodeFault} (h : m.runOn s = (.error fault, t)) :
    (m >>= f).runOn s = (.error fault, t) := by
  rw [runOn_bind, h]

/-- A sequence of two readers succeeds only if both do. -/
theorem exists_of_runOn_bind_ok {m : Reader α} {f : α → Reader β} {s t : ReadState} {b : β}
    (h : (m >>= f).runOn s = (.ok b, t)) :
    ∃ a u, m.runOn s = (.ok a, u) ∧ (f a).runOn u = (.ok b, t) := by
  rcases hm : m.runOn s with ⟨fault | a, u⟩
  · rw [runOn_bind_of_error hm] at h
    cases h
  · rw [runOn_bind_of_ok hm] at h
    exact ⟨a, u, rfl, h⟩

theorem runOn_bind_eq_ok_iff {m : Reader α} {f : α → Reader β} {s t : ReadState} {b : β} :
    (m >>= f).runOn s = (.ok b, t) ↔
      ∃ a u, m.runOn s = (.ok a, u) ∧ (f a).runOn u = (.ok b, t) := by
  constructor
  · exact exists_of_runOn_bind_ok
  · rintro ⟨a, u, hm, hf⟩
    rw [runOn_bind_of_ok hm, hf]

/-- A test of what a reader yields, for runs that can be evaluated. -/
theorem exists_of_any_runOn {m : Reader α} {s : ReadState} {test : α → Bool}
    (h : (m.runOn s).1.toOption.any test) : ∃ a t, m.runOn s = (.ok a, t) ∧ test a := by
  rcases hm : m.runOn s with ⟨fault | a, t⟩ <;> rw [hm] at h
  · cases h
  · exact ⟨a, t, rfl, h⟩

theorem runOn_map (f : α → β) (m : Reader α) (s : ReadState) :
    (f <$> m).runOn s =
      match m.runOn s with
      | (.ok a, t) => (.ok (f a), t)
      | (.error fault, t) => (.error fault, t) := by
  rw [map_eq_pure_bind, runOn_bind]
  rfl

@[simp]
theorem runOn_prefixes (s : ReadState) : prefixes.runOn s = (.ok s.prefixes, s) := rfl

@[simp]
theorem runOn_modifyPrefixes (f : PrefixState → PrefixState) (s : ReadState) :
    (modifyPrefixes f).runOn s = (.ok (), { s with prefixes := f s.prefixes }) := rfl

theorem runOn_byte (s : ReadState) :
    byte.runOn s =
      if maxLength ≤ s.consumed then (.error .tooLong, s)
      else
        match s.rest with
        | [] => (.error .truncated, s)
        | b :: rest => (.ok b, { s with rest := rest, consumed := s.consumed + 1 }) := by
  by_cases hmax : maxLength ≤ s.consumed
  · simp [byte, runOn_bind, hmax]
  · cases hrest : s.rest with
    | nil => simp [byte, runOn_bind, hmax, hrest]
    | cons b rest => simp [byte, runOn_bind, runOn_map, hmax, hrest]

theorem runOn_peek? (s : ReadState) :
    peek?.runOn s = (.ok (if maxLength ≤ s.consumed then none else s.rest.head?), s) := rfl

end Reader

end X86Decoder
