import X86Decoder.Proofs.Reader

/-!
# Self-delimiting readers

A reader is self-delimiting if it takes bytes from the front of the data only, counts them, and can
tell by itself where to stop: more data change nothing unless the data had run out, and then a
reader that comes to an end does so within the new data.

* `ReadState.Reaches s t`: a reader can get from `s` to `t` by taking bytes from the front.
* `Reader.DelimitsAt m s`: what more data do to `m` started in `s`.
* `Reader.SelfDelimiting m`: both for every state; closed under sequencing (`SelfDelimiting.bind`).
-/

namespace X86Decoder

namespace ReadState

/-- The state with more data behind those not yet read. -/
def append (s : ReadState) (more : List UInt8) : ReadState :=
  { s with rest := s.rest ++ more }

@[simp]
theorem rest_append (s : ReadState) (more : List UInt8) :
    (s.append more).rest = s.rest ++ more := rfl

@[simp]
theorem consumed_append (s : ReadState) (more : List UInt8) :
    (s.append more).consumed = s.consumed := rfl

@[simp]
theorem append_nil (s : ReadState) : s.append [] = s := by
  simp [append]

/-- The state `t` comes from `s` by taking bytes from the front of the data and counting them, never
beyond the greatest length. -/
def Reaches (s t : ReadState) : Prop :=
  ∃ taken, s.rest = taken ++ t.rest ∧ t.consumed = s.consumed + taken.length ∧
    (s.consumed ≤ maxLength → t.consumed ≤ maxLength)

/-- A change to anything but the bytes and their count takes no bytes. -/
theorem Reaches.of_eq {s t : ReadState} (hrest : t.rest = s.rest)
    (hconsumed : t.consumed = s.consumed) : s.Reaches t := by
  refine ⟨[], ?_, ?_, ?_⟩
  · simp [hrest]
  · simp [hconsumed]
  · intro h
    rwa [hconsumed]

theorem Reaches.refl (s : ReadState) : s.Reaches s := .of_eq rfl rfl

theorem Reaches.trans {s t u : ReadState} (hst : s.Reaches t) (htu : t.Reaches u) :
    s.Reaches u := by
  obtain ⟨first, hrest, hconsumed, hmax⟩ := hst
  obtain ⟨second, hrest', hconsumed', hmax'⟩ := htu
  refine ⟨first ++ second, ?_, ?_, fun h => hmax' (hmax h)⟩
  · rw [hrest, hrest', List.append_assoc]
  · rw [hconsumed', hconsumed, List.length_append, Nat.add_assoc]

/-- Nothing is put back. -/
theorem Reaches.length_rest_le {s t : ReadState} (h : s.Reaches t) :
    t.rest.length ≤ s.rest.length := by
  obtain ⟨taken, hrest, -, -⟩ := h
  rw [hrest, List.length_append]
  exact Nat.le_add_left _ _

/-- What has been read and what has not make up the data. -/
theorem Reaches.consumed_add_length {s t : ReadState} (h : s.Reaches t) :
    t.consumed + t.rest.length = s.consumed + s.rest.length := by
  obtain ⟨taken, hrest, hconsumed, -⟩ := h
  rw [hconsumed, hrest, List.length_append]
  omega

end ReadState

namespace Reader

variable {α β : Type}

/-- The reader takes bytes from the front of the data and counts them. -/
def Counts (m : Reader α) : Prop :=
  ∀ s : ReadState, s.Reaches (m.runOn s).2

/-- More data do not change what the reader does from the state on, unless it runs out of data.
Then it has read all of them, and with more data it can succeed only by reading some of these. -/
structure DelimitsAt (m : Reader α) (s : ReadState) : Prop where
  /-- More data change nothing but what is left over. -/
  runOn_append : ∀ more, (m.runOn s).1 ≠ .error .truncated →
    m.runOn (s.append more) = ((m.runOn s).1, (m.runOn s).2.append more)
  /-- A reader runs out of data at their end and before the greatest length. -/
  exhausted : (m.runOn s).1 = .error .truncated →
    (m.runOn s).2.rest = [] ∧ (m.runOn s).2.consumed < maxLength
  /-- Where the data ran out, success takes at least one byte more. -/
  overrun : (m.runOn s).1 = .error .truncated →
    ∀ more a t, m.runOn (s.append more) = (.ok a, t) → t.rest.length < more.length
  /-- An instruction is found too long only once it has the greatest length. -/
  full : (m.runOn s).1 = .error .tooLong → maxLength ≤ (m.runOn s).2.consumed

/-- The reader takes bytes from the front of the data, and more data do not change what it does
unless it runs out of data. -/
structure SelfDelimiting (m : Reader α) : Prop where
  counts : m.Counts
  delimitsAt : ∀ s, m.DelimitsAt s

/-- A reader that does not run out of data. -/
theorem DelimitsAt.of_append {m : Reader α} {s : ReadState}
    (htruncated : (m.runOn s).1 ≠ .error .truncated)
    (hfull : (m.runOn s).1 = .error .tooLong → maxLength ≤ (m.runOn s).2.consumed)
    (happend : ∀ more, m.runOn (s.append more) = ((m.runOn s).1, (m.runOn s).2.append more)) :
    m.DelimitsAt s where
  runOn_append more _ := happend more
  exhausted h := absurd h htruncated
  overrun h := absurd h htruncated
  full := hfull

theorem Counts.bind {m : Reader α} {f : α → Reader β} (hm : m.Counts) (hf : ∀ a, (f a).Counts) :
    (m >>= f).Counts := by
  intro s
  have hs := hm s
  rcases hrun : m.runOn s with ⟨fault | a, t⟩ <;> rw [hrun] at hs
  · rw [runOn_bind_of_error hrun]
    exact hs
  · rw [runOn_bind_of_ok hrun]
    exact hs.trans (hf a t)

/-- What follows a reader need delimit itself only in the states that the reader leads to. -/
theorem DelimitsAt.bind {m : Reader α} {f : α → Reader β} {s : ReadState} (hm : m.DelimitsAt s)
    (hcounts : ∀ a, (f a).Counts)
    (hf : ∀ a t, m.runOn s = (.ok a, t) → (f a).DelimitsAt t) : (m >>= f).DelimitsAt s := by
  rcases hrun : m.runOn s with ⟨fault | a, t⟩
  · -- The first reader fails, so only running out of data can be mended by more data.
    have hbind : (m >>= f).runOn s = (.error fault, t) := runOn_bind_of_error hrun
    refine ⟨?_, ?_, ?_, ?_⟩
    · intro more hne
      rw [hbind] at hne ⊢
      have happend : m.runOn (s.append more) = (.error fault, t.append more) := by
        rw [hm.runOn_append more (by rw [hrun]; simpa using hne), hrun]
      exact runOn_bind_of_error happend
    · intro h
      rw [hbind] at h ⊢
      cases h
      have hexhausted := hm.exhausted (by rw [hrun])
      rwa [hrun] at hexhausted
    · intro h more b u hb
      rw [hbind] at h
      cases h
      obtain ⟨a, v, ha, hv⟩ := exists_of_runOn_bind_ok hb
      have hlt := hm.overrun (by rw [hrun]) more a v ha
      have hle := (hcounts a v).length_rest_le
      rw [hv] at hle
      exact Nat.lt_of_le_of_lt hle hlt
    · intro h
      rw [hbind] at h ⊢
      cases h
      have hfull := hm.full (by rw [hrun])
      rwa [hrun] at hfull
  · have hbind : (m >>= f).runOn s = (f a).runOn t := runOn_bind_of_ok hrun
    have happend : ∀ more, (m >>= f).runOn (s.append more) = (f a).runOn (t.append more) := by
      intro more
      refine runOn_bind_of_ok ?_
      rw [hm.runOn_append more (by rw [hrun]; simp), hrun]
    have ha := hf a t hrun
    refine ⟨?_, ?_, ?_, ?_⟩
    · intro more hne
      rw [hbind] at hne ⊢
      rw [happend]
      exact ha.runOn_append more hne
    · intro h
      rw [hbind] at h ⊢
      exact ha.exhausted h
    · intro h more b u hb
      rw [hbind] at h
      rw [happend] at hb
      exact ha.overrun h more b u hb
    · intro h
      rw [hbind] at h ⊢
      exact ha.full h

theorem DelimitsAt.bind_selfDelimiting {m : Reader α} {f : α → Reader β} {s : ReadState}
    (hm : m.DelimitsAt s) (hf : ∀ a, (f a).SelfDelimiting) : (m >>= f).DelimitsAt s :=
  hm.bind (fun a => (hf a).counts) fun a t _ => (hf a).delimitsAt t

theorem SelfDelimiting.bind {m : Reader α} {f : α → Reader β} (hm : m.SelfDelimiting)
    (hf : ∀ a, (f a).SelfDelimiting) : (m >>= f).SelfDelimiting where
  counts := hm.counts.bind fun a => (hf a).counts
  delimitsAt s := (hm.delimitsAt s).bind_selfDelimiting hf

/-- A reader that leaves the end of the data alone does the same without it. -/
theorem DelimitsAt.runOn_of_append {m : Reader α} {s t : ReadState} (hm : m.DelimitsAt s)
    {more : List UInt8} {a : α} (h : m.runOn (s.append more) = (.ok a, t))
    (hlength : more.length ≤ t.rest.length) : ∃ u, m.runOn s = (.ok a, u) := by
  by_cases htruncated : (m.runOn s).1 = .error .truncated
  · exact absurd (hm.overrun htruncated more a t h) (Nat.not_lt.2 hlength)
  · rw [hm.runOn_append more htruncated] at h
    have houtcome : (m.runOn s).1 = .ok a := congrArg Prod.fst h
    exact ⟨(m.runOn s).2, Prod.ext houtcome rfl⟩

/-- A reader that takes some of the end of the data runs out of data without it. -/
theorem DelimitsAt.truncated_of_append {m : Reader α} {s t : ReadState} (hm : m.DelimitsAt s)
    {more : List UInt8} {a : α} (h : m.runOn (s.append more) = (.ok a, t))
    (hlength : t.rest.length < more.length) : (m.runOn s).1 = .error .truncated := by
  by_cases htruncated : (m.runOn s).1 = .error .truncated
  · exact htruncated
  · -- Otherwise all of the new data would be left over.
    rw [hm.runOn_append more htruncated] at h
    have hrest : (m.runOn s).2.rest ++ more = t.rest :=
      congrArg (fun result => ReadState.rest result.2) h
    rw [← hrest, List.length_append] at hlength
    omega

/-- A reader that neither takes bytes nor looks at them nor finds too few or too many of them. -/
theorem SelfDelimiting.of_runOn {m : Reader α}
    {outcome : Nat → PrefixState → Bool → Except DecodeFault α}
    {prefixes : PrefixState → PrefixState} {relative : Bool → Bool}
    (hrun : ∀ rest n p b,
      m.runOn ⟨rest, n, p, b⟩ = (outcome n p b, ⟨rest, n, prefixes p, relative b⟩))
    (htruncated : ∀ n p b, outcome n p b ≠ .error .truncated)
    (htooLong : ∀ n p b, outcome n p b ≠ .error .tooLong) : m.SelfDelimiting where
  counts s := by
    rw [hrun]
    exact .of_eq rfl rfl
  delimitsAt s := by
    refine .of_append ?_ (fun h => ?_) fun more => ?_
    · rw [hrun]
      exact htruncated _ _ _
    · rw [hrun] at h
      exact absurd h (htooLong _ _ _)
    · rw [ReadState.append, hrun, hrun]
      rfl

theorem selfDelimiting_pure (a : α) : (pure a : Reader α).SelfDelimiting :=
  .of_runOn (fun _ _ _ _ => rfl) (by simp) (by simp)

theorem selfDelimiting_throw {fault : DecodeFault} (htruncated : fault ≠ .truncated)
    (htooLong : fault ≠ .tooLong) : (throw fault : Reader α).SelfDelimiting :=
  .of_runOn (fun _ _ _ _ => rfl) (fun _ _ _ => by simpa using htruncated)
    fun _ _ _ => by simpa using htooLong

theorem selfDelimiting_refusePrefixes (fault : PrefixFault) :
    (refusePrefixes fault : Reader α).SelfDelimiting :=
  selfDelimiting_throw (by simp) (by simp)

theorem selfDelimiting_refuseModRM (fault : ModRMFault) :
    (refuseModRM fault : Reader α).SelfDelimiting :=
  selfDelimiting_throw (by simp) (by simp)

theorem selfDelimiting_misuse (cause : Misuse) : (misuse cause : Reader α).SelfDelimiting :=
  selfDelimiting_throw (by simp) (by simp)

theorem selfDelimiting_request (r : Except Misuse α) : (request r).SelfDelimiting := by
  cases r with
  | ok a => exact selfDelimiting_pure a
  | error cause => exact selfDelimiting_misuse cause

theorem selfDelimiting_checkPrefixes (fault? : Option PrefixFault) :
    (checkPrefixes fault?).SelfDelimiting := by
  cases fault? with
  | none => exact selfDelimiting_pure ()
  | some fault => exact selfDelimiting_refusePrefixes fault

theorem selfDelimiting_position : position.SelfDelimiting :=
  @SelfDelimiting.of_runOn _ _ (fun n _ _ => .ok n) id id (fun _ _ _ _ => rfl) (by simp) (by simp)

theorem selfDelimiting_prefixes : prefixes.SelfDelimiting :=
  @SelfDelimiting.of_runOn _ _ (fun _ p _ => .ok p) id id (fun _ _ _ _ => rfl) (by simp) (by simp)

theorem selfDelimiting_isRelative : isRelative.SelfDelimiting :=
  @SelfDelimiting.of_runOn _ _ (fun _ _ b => .ok b) id id (fun _ _ _ _ => rfl) (by simp) (by simp)

theorem selfDelimiting_modifyPrefixes (f : PrefixState → PrefixState) :
    (modifyPrefixes f).SelfDelimiting :=
  .of_runOn (fun _ _ _ _ => rfl) (by simp) (by simp)

theorem selfDelimiting_setRelative (relative : Bool) : (setRelative relative).SelfDelimiting :=
  .of_runOn (fun _ _ _ _ => rfl) (by simp) (by simp)

theorem selfDelimiting_byte : byte.SelfDelimiting where
  counts s := by
    rw [runOn_byte]
    split
    · exact .refl s
    · rename_i hmax
      split
      · exact .refl s
      · rename_i b rest hrest
        refine ⟨[b], by simp [hrest], rfl, fun _ => ?_⟩
        exact Nat.lt_of_not_le hmax
  delimitsAt s := by
    by_cases hmax : maxLength ≤ s.consumed
    · refine .of_append ?_ (fun _ => ?_) fun more => ?_ <;> simp [runOn_byte, hmax]
    · cases hrest : s.rest with
      | nil =>
        have hrun : byte.runOn s = (.error .truncated, s) := by
          simp [runOn_byte, hmax, hrest]
        refine ⟨fun _ h => ?_, fun _ => ?_, fun _ more b t hb => ?_, fun h => ?_⟩
        · rw [hrun] at h
          exact absurd rfl h
        · rw [hrun]
          exact ⟨hrest, Nat.lt_of_not_le hmax⟩
        · cases more with
          | nil =>
            rw [ReadState.append_nil, hrun] at hb
            cases hb
          | cons b' rest =>
            simp only [runOn_byte, ReadState.consumed_append, hmax, ↓reduceIte,
              ReadState.rest_append, hrest, List.nil_append, Prod.mk.injEq] at hb
            rw [← hb.2]
            exact Nat.lt_succ_self _
        · rw [hrun] at h
          cases h
      | cons b rest =>
        refine .of_append ?_ (fun h => ?_) fun more => ?_
        · simp [runOn_byte, hmax, hrest]
        · simp [runOn_byte, hmax, hrest] at h
        · simp [runOn_byte, hmax, hrest, ReadState.append]

theorem SelfDelimiting.map {m : Reader α} (f : α → β) (hm : m.SelfDelimiting) :
    (f <$> m).SelfDelimiting := by
  rw [map_eq_pure_bind]
  exact hm.bind fun a => selfDelimiting_pure (f a)

theorem selfDelimiting_bytes (n : Nat) : (bytes n).SelfDelimiting := by
  induction n with
  | zero => exact selfDelimiting_pure []
  | succ n ih =>
    exact selfDelimiting_byte.bind fun b => ih.bind fun rest => selfDelimiting_pure (b :: rest)

theorem selfDelimiting_number (size : Nat) : (number size).SelfDelimiting := by
  rw [number]
  split
  · exact selfDelimiting_misuse _
  · exact (selfDelimiting_bytes size).bind fun bs => selfDelimiting_pure _

end Reader

end X86Decoder
