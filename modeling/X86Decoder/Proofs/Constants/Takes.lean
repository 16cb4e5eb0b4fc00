import X86Decoder.Proofs.Reader

/-!
# Readers of a fixed number of bytes

The constants of an instruction come last, and by then it is known how many bytes each of them has.
So a reader of constants takes a number of bytes that does not depend on them, if there is room for
so many, and what it yields is a function of its place and of these bytes.

* `ReadState.Room`: there is room for a number of bytes.
* `Reader.Takes m n f`: the reader takes `n` bytes, and `f` says what it yields.
* `Reader.Takes.bind`: such readers one after the other.
* `Reader.Silent`: the reader takes no bytes and depends on nothing that it could read.
-/

namespace X86Decoder

namespace ReadState

/-- The state after so many bytes more. -/
def skip (s : ReadState) (n : Nat) : ReadState :=
  { s with rest := s.rest.drop n, consumed := s.consumed + n }

/-- The data have so many bytes more, and an instruction may have them. -/
def Room (s : ReadState) (n : Nat) : Prop :=
  n ≤ s.rest.length ∧ (n = 0 ∨ s.consumed + n ≤ maxLength)

@[simp]
theorem skip_zero (s : ReadState) : s.skip 0 = s := rfl

theorem skip_add (s : ReadState) (n k : Nat) : s.skip (n + k) = (s.skip n).skip k := by
  simp [skip, List.drop_drop, Nat.add_assoc]

@[simp]
theorem room_zero (s : ReadState) : s.Room 0 :=
  ⟨Nat.zero_le _, .inl rfl⟩

/-- Room for two runs of bytes is room for the one and then for the other. -/
theorem room_add_iff {s : ReadState} {n k : Nat} :
    s.Room (n + k) ↔ s.Room n ∧ (s.skip n).Room k := by
  simp only [Room, skip, List.length_drop]
  omega

end ReadState

namespace Reader

variable {α β : Type}

/-- The reader succeeds exactly if there is room for `n` bytes and `f` yields something at this
place for these bytes. Then it has taken them and done nothing else. -/
structure Takes (m : Reader α) (n : Nat) (f : Nat → List UInt8 → Option α) : Prop where
  runOn_iff : ∀ s a t, m.runOn s = (.ok a, t) ↔
    s.Room n ∧ f s.consumed (s.rest.take n) = some a ∧ t = s.skip n

/-! ### Rules -/

section Rules

variable {m : Reader α} {g : α → Reader β} {n k : Nat} {f : Nat → List UInt8 → Option α}
  {h : α → Nat → List UInt8 → Option β}

/-- What a reader yields matters for as many bytes as it takes only. -/
theorem Takes.congr {n' : Nat} {f' : Nat → List UInt8 → Option α} (hm : m.Takes n f) (hn : n = n')
    (hf : ∀ start bs, bs.length = n → f start bs = f' start bs) : m.Takes n' f' := by
  subst hn
  refine ⟨fun s a t => ?_⟩
  rw [hm.runOn_iff s a t]
  refine and_congr_right fun hroom => ?_
  rw [hf _ _ (List.length_take_of_le hroom.1)]

theorem Takes.bind (hm : m.Takes n f) (hg : ∀ a, (g a).Takes k (h a)) :
    (m >>= g).Takes (n + k) fun start bs =>
      (f start (bs.take n)).bind fun a => h a (start + n) (bs.drop n) := by
  refine ⟨fun s b u => ?_⟩
  -- The bytes of both are those of the first and then those of the second.
  have htake : (s.rest.take (n + k)).take n = s.rest.take n := by
    rw [List.take_take, Nat.min_eq_left (Nat.le_add_right n k)]
  have hdrop : (s.rest.take (n + k)).drop n = (s.skip n).rest.take k := by
    rw [List.drop_take, Nat.add_sub_cancel_left]
    rfl
  simp only [htake, hdrop, Option.bind_eq_some_iff, ReadState.room_add_iff, ReadState.skip_add]
  constructor
  · intro hrun
    obtain ⟨a, t, hfirst, hsecond⟩ := exists_of_runOn_bind_ok hrun
    obtain ⟨hroom, ha, rfl⟩ := (hm.runOn_iff s a t).1 hfirst
    obtain ⟨hroom', hb, rfl⟩ := ((hg a).runOn_iff _ b u).1 hsecond
    exact ⟨⟨hroom, hroom'⟩, ⟨a, ha, hb⟩, rfl⟩
  · rintro ⟨⟨hroom, hroom'⟩, ⟨a, ha, hb⟩, rfl⟩
    rw [runOn_bind_of_ok ((hm.runOn_iff s a _).2 ⟨hroom, ha, rfl⟩)]
    exact ((hg a).runOn_iff _ b _).2 ⟨hroom', hb, rfl⟩

/-- What a reader yields may be put into another form. -/
theorem Takes.map (hm : m.Takes n f) (g : α → β) :
    (m >>= fun a => pure (g a)).Takes n fun start bs => (f start bs).map g := by
  refine ⟨fun s b u => ?_⟩
  constructor
  · intro hrun
    obtain ⟨a, t, hfirst, hsecond⟩ := exists_of_runOn_bind_ok hrun
    obtain ⟨hroom, ha, rfl⟩ := (hm.runOn_iff s a t).1 hfirst
    cases hsecond
    exact ⟨hroom, Option.map_eq_some_iff.2 ⟨a, ha, rfl⟩, rfl⟩
  · rintro ⟨hroom, hb, rfl⟩
    obtain ⟨a, ha, rfl⟩ := Option.map_eq_some_iff.1 hb
    rw [runOn_bind_of_ok ((hm.runOn_iff s a _).2 ⟨hroom, ha, rfl⟩)]
    rfl

end Rules

/-! ### Elementary readers -/

theorem takes_pure (a : α) : (pure a : Reader α).Takes 0 fun _ _ => some a := by
  refine ⟨fun s b t => ?_⟩
  simp [eq_comm]

theorem takes_throw (fault : DecodeFault) (n : Nat) :
    (throw fault : Reader α).Takes n fun _ _ => none := by
  refine ⟨fun s b t => ?_⟩
  simp

theorem takes_request (r : Except Misuse α) : (request r).Takes 0 fun _ _ => r.toOption := by
  cases r with
  | ok a => exact takes_pure a
  | error cause => exact takes_throw _ _

theorem takes_position : position.Takes 0 fun start _ => some start := by
  refine ⟨fun s b t => ?_⟩
  have hrun : position.runOn s = (.ok s.consumed, s) := rfl
  rw [hrun]
  simp [eq_comm]

theorem takes_byte : byte.Takes 1 fun _ bs => bs.head? := by
  refine ⟨fun s b t => ?_⟩
  rw [runOn_byte, ReadState.Room, ReadState.skip]
  by_cases hmax : maxLength ≤ s.consumed
  · rw [if_pos hmax]
    simp
    omega
  · rw [if_neg hmax]
    cases s.rest with
    | nil => simp
    | cons b' rest =>
      have hle : s.consumed + 1 ≤ maxLength := Nat.lt_of_not_le hmax
      simp [eq_comm, hle]

theorem takes_bytes (n : Nat) : (bytes n).Takes n fun _ bs => some bs := by
  induction n with
  | zero =>
    refine (takes_pure []).congr rfl fun start bs hlength => ?_
    rw [List.length_eq_zero_iff.1 hlength]
  | succ n ih =>
    refine (takes_byte.bind fun b => ih.map (b :: ·)).congr (Nat.add_comm 1 n) ?_
    intro start bs hlength
    cases bs with
    | nil =>
      rw [List.length_nil] at hlength
      omega
    | cons b bs => simp

/-- The word whose bytes are given, lowest first. -/
def word (bs : List UInt8) : UInt64 :=
  UInt64.ofNat (Word.littleEndian bs)

theorem takes_number {size : Nat} (h : size ≤ 8) :
    (number size).Takes size fun _ bs => some (word bs) := by
  rw [number, if_neg (Nat.not_lt.2 h)]
  exact (takes_bytes size).map word

/-! ### Readers that do not read -/

/-- What a reader yields where there is nothing to read. -/
def value? (m : Reader α) : Option α :=
  (m.runOn { rest := [] }).1.toOption

/-- The reader takes no bytes, and what it yields depends on nothing. -/
structure Silent (m : Reader α) : Prop where
  takes : m.Takes 0 fun _ _ => m.value?

theorem exists_of_value? {m : Reader α} {a : α} (h : m.value? = some a) :
    ∃ s t, m.runOn s = (.ok a, t) := by
  rw [value?] at h
  rcases hrun : m.runOn { rest := [] } with ⟨fault | b, t⟩ <;> rw [hrun] at h <;> cases h
  exact ⟨_, t, hrun⟩

theorem Silent.of_takes {m : Reader α} {x : Option α} (h : m.Takes 0 fun _ _ => x) : m.Silent := by
  have hvalue : m.value? = x := by
    have hiff : ∀ a t, m.runOn { rest := [] } = (.ok a, t) ↔ x = some a ∧ t = { rest := [] } := by
      intro a t
      simpa using h.runOn_iff { rest := [] } a t
    rcases hrun : m.runOn { rest := [] } with ⟨fault | b, t⟩ <;> rw [value?, hrun]
    · cases x with
      | none => rfl
      | some a =>
        have hok := (hiff a _).2 ⟨rfl, rfl⟩
        rw [hrun] at hok
        cases hok
    · exact ((hiff b t).1 hrun).1.symm
  exact ⟨by rwa [hvalue]⟩

theorem Silent.bind {m : Reader α} {f : α → Reader β} (hm : m.Silent) (hf : ∀ a, (f a).Silent) :
    (m >>= f).Silent :=
  .of_takes (hm.takes.bind fun a => (hf a).takes)

theorem silent_pure (a : α) : (pure a : Reader α).Silent :=
  .of_takes (takes_pure a)

theorem silent_throw (fault : DecodeFault) : (throw fault : Reader α).Silent :=
  .of_takes (takes_throw fault 0)

theorem silent_request (r : Except Misuse α) : (request r).Silent :=
  .of_takes (takes_request r)

end Reader

end X86Decoder
