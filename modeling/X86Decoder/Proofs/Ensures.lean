import X86Decoder.Proofs.Reader

/-!
# What a reader ensures

A reader ensures a postcondition if it either succeeds with it or fails with a fault that has a
class. A fault without a class is a request outside some function's contract, so a reader that
ensures anything at all never makes one.

* `Reader.Ensures m s Q`: the judgement for one initial state, with `Ensures.bind` and
  `Ensures.mono` for putting proofs together.
* `Reader.Yields m P`: the same for every initial state, for a reader that leaves the prefixes and
  the mark for relative addresses alone. Such readers need no postcondition on the state.
-/

namespace X86Decoder

/-- The states differ at most in the bytes that have been read. -/
structure ReadState.Agree (s t : ReadState) : Prop where
  prefixes : t.prefixes = s.prefixes
  relative : t.relative = s.relative

theorem ReadState.Agree.refl (s : ReadState) : s.Agree s := ⟨rfl, rfl⟩

theorem ReadState.Agree.trans {s t u : ReadState} (hst : s.Agree t) (htu : t.Agree u) :
    s.Agree u :=
  ⟨htu.prefixes.trans hst.prefixes, htu.relative.trans hst.relative⟩

namespace Reader

variable {α β : Type}

/-- Started in the state, the reader succeeds with the postcondition or fails with a fault that has
a class. -/
def Ensures (m : Reader α) (s : ReadState) (Q : α → ReadState → Prop) : Prop :=
  match m.runOn s with
  | (.ok a, t) => Q a t
  | (.error fault, _) => fault.class?.isSome

namespace Ensures

variable {m : Reader α} {f : α → Reader β} {s : ReadState} {P : α → ReadState → Prop}

theorem intro (hok : ∀ a t, m.runOn s = (.ok a, t) → P a t)
    (herror : ∀ fault t, m.runOn s = (.error fault, t) → fault.class?.isSome) :
    m.Ensures s P := by
  rw [Ensures]
  rcases hrun : m.runOn s with ⟨fault | a, t⟩
  · exact herror fault t hrun
  · exact hok a t hrun

theorem of_ok {t : ReadState} {a : α} (h : m.Ensures s P) (hrun : m.runOn s = (.ok a, t)) :
    P a t := by
  rwa [Ensures, hrun] at h

theorem of_error {t : ReadState} {fault : DecodeFault} (h : m.Ensures s P)
    (hrun : m.runOn s = (.error fault, t)) : fault.class?.isSome := by
  rwa [Ensures, hrun] at h

/-- A weaker postcondition is ensured as well. -/
theorem mono {Q : α → ReadState → Prop} (h : m.Ensures s P) (hPQ : ∀ a t, P a t → Q a t) :
    m.Ensures s Q := by
  rw [Ensures] at h ⊢
  rcases hrun : m.runOn s with ⟨fault | a, t⟩ <;> rw [hrun] at h
  · exact h
  · exact hPQ a t h

/-- The second reader may rely on what the first one ensures. -/
theorem bind {Q : β → ReadState → Prop} (hm : m.Ensures s P)
    (hf : ∀ a t, P a t → (f a).Ensures t Q) : (m >>= f).Ensures s Q := by
  rw [Ensures] at hm ⊢
  rcases hrun : m.runOn s with ⟨fault | a, t⟩ <;> rw [hrun] at hm
  · rw [runOn_bind_of_error hrun]
    exact hm
  · rw [runOn_bind_of_ok hrun]
    exact hf a t hm

end Ensures

section Elementary

variable {s : ReadState}

theorem ensures_pure {a : α} {Q : α → ReadState → Prop} (h : Q a s) :
    (pure a : Reader α).Ensures s Q := h

theorem ensures_throw {fault : DecodeFault} {Q : α → ReadState → Prop}
    (h : fault.class?.isSome) : (throw fault : Reader α).Ensures s Q := h

theorem ensures_prefixes : prefixes.Ensures s fun p t => p = s.prefixes ∧ t = s :=
  ⟨rfl, rfl⟩

theorem ensures_modifyPrefixes {f : PrefixState → PrefixState} :
    (modifyPrefixes f).Ensures s fun _ t => t = { s with prefixes := f s.prefixes } := rfl

theorem ensures_setRelative {relative : Bool} :
    (setRelative relative).Ensures s fun _ t => t = { s with relative := relative } := rfl

/-- Prefixes pass only if nothing is wrong with them. -/
theorem ensures_checkPrefixes {fault? : Option PrefixFault} :
    (checkPrefixes fault?).Ensures s fun _ t => fault? = none ∧ t = s := by
  cases fault? with
  | none => exact ⟨rfl, rfl⟩
  | some fault => rfl

end Elementary

/-- The reader leaves the prefixes and the mark for relative addresses alone, and it succeeds with
the postcondition or fails with a fault that has a class. -/
def Yields (m : Reader α) (P : α → Prop) : Prop :=
  ∀ s : ReadState, m.Ensures s fun a t => s.Agree t ∧ P a

namespace Yields

variable {m : Reader α} {f : α → Reader β} {P : α → Prop} {Q : β → Prop}

theorem mono {P' : α → Prop} (h : m.Yields P) (hP : ∀ a, P a → P' a) : m.Yields P' :=
  fun s => (h s).mono fun a _ ⟨hagree, ha⟩ => ⟨hagree, hP a ha⟩

theorem bind (hm : m.Yields P) (hf : ∀ a, P a → (f a).Yields Q) : (m >>= f).Yields Q := by
  intro s
  refine (hm s).bind fun a t ⟨hst, ha⟩ => ?_
  exact (hf a ha t).mono fun b u ⟨htu, hb⟩ => ⟨hst.trans htu, hb⟩

theorem map {g : α → β} (hm : m.Yields P) (hg : ∀ a, P a → Q (g a)) : (g <$> m).Yields Q := by
  rw [map_eq_pure_bind]
  exact hm.bind fun a ha s => ensures_pure ⟨.refl s, hg a ha⟩

end Yields

section Elementary

theorem yields_pure {a : α} {P : α → Prop} (h : P a) : (pure a : Reader α).Yields P :=
  fun s => ensures_pure ⟨.refl s, h⟩

theorem yields_throw {fault : DecodeFault} {P : α → Prop} (h : fault.class?.isSome) :
    (throw fault : Reader α).Yields P :=
  fun _ => ensures_throw h

theorem yields_refusePrefixes {fault : PrefixFault} {P : α → Prop} :
    (refusePrefixes fault : Reader α).Yields P :=
  yields_throw rfl

theorem yields_refuseModRM {fault : ModRMFault} {P : α → Prop} :
    (refuseModRM fault : Reader α).Yields P :=
  yields_throw rfl

/-- A request has to be within its contract. -/
theorem yields_request {r : Except Misuse α} {P : α → Prop} (h : ∃ a, r = .ok a ∧ P a) :
    (request r).Yields P := by
  obtain ⟨a, rfl, ha⟩ := h
  exact yields_pure ha

theorem yields_position : position.Yields fun _ => True :=
  fun s => ⟨.refl s, trivial⟩

theorem yields_byte : byte.Yields fun _ => True := by
  intro s
  rw [Ensures, runOn_byte]
  by_cases hmax : maxLength ≤ s.consumed
  · rw [if_pos hmax]
    rfl
  · rw [if_neg hmax]
    cases s.rest with
    | nil => rfl
    | cons b rest => exact ⟨⟨rfl, rfl⟩, trivial⟩

theorem yields_bytes (n : Nat) : (bytes n).Yields fun _ => True := by
  induction n with
  | zero => exact yields_pure trivial
  | succ n ih => exact yields_byte.bind fun b _ => ih.bind fun rest _ => yields_pure trivial

/-- The number fits in eight bytes. -/
theorem yields_number {size : Nat} (h : size ≤ 8) : (number size).Yields fun _ => True := by
  rw [number, if_neg (Nat.not_lt.2 h)]
  exact (yields_bytes size).bind fun bs _ => yields_pure trivial

end Elementary

end Reader

end X86Decoder
