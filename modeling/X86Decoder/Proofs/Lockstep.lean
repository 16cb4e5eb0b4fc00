import X86Decoder.Proofs.Operands
import X86Decoder.Proofs.Reader

/-!
# Readers in lockstep

Two readers are in lockstep if from related states both succeed, with related results in related
states, or both fail. Readers of the same instruction are so whatever R, X and B say, since these
bits only choose between registers that all exist: they never decide how many bytes are read.

* `Reader.Lockstep P m n Q`: from states related by `P` the readers stay related by `Q`.
* `Reader.Alongside m n R`: both read the same bytes, and what they yield is related by `R`.
* `PrefixState.Renamed`: prefixes that differ in R, X and B only.
* `Reader.alongside_memory`, `Reader.alongside_operands`: what is read under such prefixes.
-/

namespace X86Decoder

/-- The readers have the same bytes behind and before them. -/
structure ReadState.Abreast (s t : ReadState) : Prop where
  rest : s.rest = t.rest
  consumed : s.consumed = t.consumed

namespace Reader

variable {α β γ δ : Type}

/-- Two runs that both succeed, with results and states in the given relation, or both fail. -/
inductive Paired (Q : α → β → ReadState → ReadState → Prop) :
    Except DecodeFault α × ReadState → Except DecodeFault β × ReadState → Prop
  | ok {a : α} {b : β} {s t : ReadState} (h : Q a b s t) : Paired Q (.ok a, s) (.ok b, t)
  | error {fault fault' : DecodeFault} {s t : ReadState} :
    Paired Q (.error fault, s) (.error fault', t)

theorem Paired.refl {Q : α → α → ReadState → ReadState → Prop}
    {r : Except DecodeFault α × ReadState} (h : ∀ a s, Q a a s s) : Paired Q r r := by
  rcases r with ⟨_ | a, s⟩
  · exact .error
  · exact .ok (h a s)

/-- From states in the first relation both readers succeed, with results and states in the second
relation, or both fail. -/
def Lockstep (P : ReadState → ReadState → Prop) (m : Reader α) (n : Reader β)
    (Q : α → β → ReadState → ReadState → Prop) : Prop :=
  ∀ s t, P s t → Paired Q (m.runOn s) (n.runOn t)

/-- Both readers read the same bytes, and what they yield is related. -/
structure Alongside (m : Reader α) (n : Reader β) (R : α → β → Prop) : Prop where
  lockstep : Lockstep ReadState.Abreast m n fun a b s t => R a b ∧ s.Abreast t

/-! ### Rules -/

section Rules

variable {m : Reader α} {n : Reader β} {f : α → Reader γ} {g : β → Reader δ}
  {P : ReadState → ReadState → Prop} {Q : α → β → ReadState → ReadState → Prop}
  {S : γ → δ → ReadState → ReadState → Prop}

theorem Lockstep.bind (hm : Lockstep P m n Q) (hf : ∀ a b, Lockstep (Q a b) (f a) (g b) S) :
    Lockstep P (m >>= f) (n >>= g) S := by
  intro s t hP
  have hrun := hm s t hP
  rw [runOn_bind, runOn_bind]
  generalize m.runOn s = r at hrun ⊢
  generalize n.runOn t = r' at hrun ⊢
  cases hrun with
  | ok hQ => exact hf _ _ _ _ hQ
  | error => exact .error

theorem lockstep_pure {a : α} {b : β} (h : ∀ s t, P s t → Q a b s t) :
    Lockstep P (pure a) (pure b) Q :=
  fun s t hP => .ok (h s t hP)

theorem lockstep_throw (fault fault' : DecodeFault) :
    Lockstep P (throw fault : Reader α) (throw fault' : Reader β) Q :=
  fun _ _ _ => .error

/-- Readers that begin by failing go no further. -/
theorem lockstep_bind_of_fails (h : ∀ s t, P s t → Paired (fun _ _ _ _ => False) (m.runOn s)
    (n.runOn t)) : Lockstep P (m >>= f) (n >>= g) S := by
  refine Lockstep.bind (Q := fun _ _ _ _ => False) h fun _ _ _ _ hfalse => hfalse.elim

theorem Lockstep.mono {P' : ReadState → ReadState → Prop}
    {Q' : α → β → ReadState → ReadState → Prop} (h : Lockstep P m n Q)
    (hP : ∀ s t, P' s t → P s t) (hQ : ∀ a b s t, Q a b s t → Q' a b s t) :
    Lockstep P' m n Q' := by
  intro s t hst
  have hrun := h s t (hP s t hst)
  generalize m.runOn s = r at hrun ⊢
  generalize n.runOn t = r' at hrun ⊢
  cases hrun with
  | ok hab => exact .ok (hQ _ _ _ _ hab)
  | error => exact .error

variable {R : α → β → Prop} {T : γ → δ → Prop}

theorem Alongside.bind (hm : Alongside m n R) (hf : ∀ a b, R a b → Alongside (f a) (g b) T) :
    Alongside (m >>= f) (n >>= g) T :=
  ⟨hm.lockstep.bind fun a b s t hab => (hf a b hab.1).lockstep s t hab.2⟩

theorem Alongside.symm (h : Alongside m n R) : Alongside n m fun b a => R a b := by
  refine ⟨fun s t hst => ?_⟩
  have hrun := h.lockstep t s ⟨hst.rest.symm, hst.consumed.symm⟩
  generalize m.runOn t = r at hrun ⊢
  generalize n.runOn s = r' at hrun ⊢
  cases hrun with
  | ok hab => exact .ok ⟨hab.1, ⟨hab.2.rest.symm, hab.2.consumed.symm⟩⟩
  | error => exact .error

theorem Alongside.trans {k : Reader γ} {R' : β → γ → Prop} (h : Alongside m n R)
    (h' : Alongside n k R') : Alongside m k fun a c => ∃ b, R a b ∧ R' b c := by
  refine ⟨fun s t hst => ?_⟩
  have hrun := h.lockstep s t hst
  have hrun' := h'.lockstep t t ⟨rfl, rfl⟩
  generalize m.runOn s = r at hrun ⊢
  generalize n.runOn t = r' at hrun hrun'
  generalize k.runOn t = r'' at hrun' ⊢
  cases hrun with
  | ok hab =>
    cases hrun' with
    | ok hbc =>
      exact .ok ⟨⟨_, hab.1, hbc.1⟩, hab.2.rest.trans hbc.2.rest,
        hab.2.consumed.trans hbc.2.consumed⟩
  | error =>
    cases hrun' with
    | error => exact .error

end Rules

/-! ### Elementary readers -/

section Elementary

theorem alongside_pure {a : α} {b : β} {R : α → β → Prop} (h : R a b) :
    Alongside (pure a) (pure b) R :=
  ⟨lockstep_pure fun _ _ hst => ⟨h, hst⟩⟩

theorem alongside_throw {R : α → β → Prop} (fault fault' : DecodeFault) :
    Alongside (throw fault : Reader α) (throw fault' : Reader β) R :=
  ⟨lockstep_throw fault fault'⟩

/-- Requests that are both within their contracts. -/
theorem alongside_request {r : Except Misuse α} {r' : Except Misuse β} (h : ∃ a, r = .ok a)
    (h' : ∃ b, r' = .ok b) : Alongside (request r) (request r') fun _ _ => True := by
  obtain ⟨a, rfl⟩ := h
  obtain ⟨b, rfl⟩ := h'
  exact alongside_pure trivial

/-- The same request twice. -/
theorem alongside_request_self (r : Except Misuse α) : Alongside (request r) (request r) Eq := by
  cases r with
  | ok a => exact alongside_pure rfl
  | error cause => exact alongside_throw _ _

theorem alongside_byte : Alongside byte byte Eq := by
  refine ⟨fun s t hst => ?_⟩
  rw [runOn_byte, runOn_byte, hst.rest, hst.consumed]
  split
  · exact .error
  · split
    · exact .error
    · exact .ok ⟨rfl, rfl, rfl⟩

theorem alongside_bytes (n : Nat) : Alongside (bytes n) (bytes n) Eq := by
  induction n with
  | zero => exact alongside_pure rfl
  | succ n ih =>
    refine alongside_byte.bind fun b b' hb => ih.bind fun bs bs' hbs => ?_
    subst hb hbs
    exact alongside_pure rfl

theorem alongside_number (size : Nat) : Alongside (number size) (number size) Eq := by
  rw [number]
  split
  · exact alongside_throw _ _
  · refine (alongside_bytes size).bind fun bs bs' hbs => ?_
    subst hbs
    exact alongside_pure rfl

theorem alongside_position : Alongside position position Eq :=
  ⟨fun _ _ hst => .ok ⟨hst.consumed, hst⟩⟩

theorem alongside_isRelative : Alongside isRelative isRelative fun _ _ => True :=
  ⟨fun _ _ hst => .ok ⟨trivial, hst⟩⟩

theorem alongside_setRelative (relative relative' : Bool) :
    Alongside (setRelative relative) (setRelative relative') fun _ _ => True :=
  ⟨fun _ _ hst => .ok ⟨trivial, hst.rest, hst.consumed⟩⟩

end Elementary

end Reader

/-! ### Prefixes that name other registers -/

/-- Both states have a REX prefix and no extended one, and they differ in the bits R, X and B of the
REX prefix at most. -/
structure PrefixState.Renamed (p q : PrefixState) : Prop where
  encoding : p.encoding = .legacy
  mandatory_mem : p.mandatory ∈ [.none, .p66, .pF2, .pF3]
  hasRex : p.hasRex
  hasRex_right : q.hasRex
  eq : q = { p with rex := q.rex, r := q.r, x := q.x, b := q.b }

namespace PrefixState.Renamed

variable {p q : PrefixState}

theorem refl (h : p.Renamed q) : p.Renamed p :=
  ⟨h.encoding, h.mandatory_mem, h.hasRex, h.hasRex, rfl⟩

theorem symm (h : p.Renamed q) : q.Renamed p where
  encoding := by
    rw [h.eq]
    exact h.encoding
  mandatory_mem := by
    rw [h.eq]
    exact h.mandatory_mem
  hasRex := h.hasRex_right
  hasRex_right := h.hasRex
  eq := by rw [h.eq]

theorem map_eq (h : p.Renamed q) : q.map = p.map := by rw [h.eq]

theorem encoding_eq (h : p.Renamed q) : q.encoding = p.encoding := by rw [h.eq]

theorem vvvv_eq (h : p.Renamed q) : q.vvvv = p.vvvv := by rw [h.eq]

theorem addressSize_eq (h : p.Renamed q) (mode : Mode) :
    q.addressSize mode = p.addressSize mode := by
  rw [h.eq]
  rfl

/-- No form limits the fields of an extended prefix that is not there. -/
theorem checkForm_eq_none (h : p.Renamed q) (f : Form) (isMemory : Bool) :
    Body.checkForm f p isMemory = none := by
  have hvvvv : Body.checkVvvv f p = none := if_pos (.inl h.encoding)
  rw [Body.checkForm, hvvvv, h.encoding]
  rfl

end PrefixState.Renamed

namespace Reader

variable {p q : PrefixState} {mode : Mode} {m : ModRM}

/-! ### Memory -/

section Memory

variable {f g : Form}

/-- The bytes of a displacement stand in one place, whatever they are multiplied by. -/
theorem alongside_displacement (size : Nat) (width width' : WordSize) :
    Alongside (displacement p f size width) (displacement q g size width')
      fun r r' => r.2 = r'.2 := by
  rw [displacement, displacement]
  split
  · exact alongside_pure rfl
  · refine alongside_position.bind fun start start' hstart =>
      (alongside_number size).bind fun _ _ _ => ?_
    subst hstart
    exact alongside_pure rfl

theorem alongside_address (width width' : WordSize) (base base' index index' : Register)
    (scale scale' : Int) (size : Nat) :
    Alongside (address p f width base index scale size)
      (address q g width' base' index' scale' size) fun r r' => r.2 = r'.2 :=
  (alongside_displacement size width width').bind fun _ _ hspan => alongside_pure hspan

theorem alongside_memory16 :
    Alongside (memory16 p f m) (memory16 q g m) fun r r' => r.2 = r'.2 := by
  refine (alongside_request_self _).bind fun pair pair' hpair => ?_
  subst hpair
  dsimp only
  -- The size of the displacement goes by the fields of the ModR/M byte, which have no extension.
  split
  · split <;> exact alongside_address ..
  · split <;> exact alongside_address ..

/-- Any extension of a base has a register. -/
theorem alongside_base (width : WordSize) (n n' : Nat) :
    Alongside (request (Register.ofBits width.bits n)) (request (Register.ofBits width.bits n'))
      fun _ _ => True :=
  alongside_request ⟨_, Register.ofBits_wordSize width n⟩ ⟨_, Register.ofBits_wordSize width n'⟩

variable (hf : f.vsib? = none) (hg : g.vsib? = none)

include hf hg

/-- The special cases of the SIB byte go by its base field without the extension, and the index is
none or has a register. -/
theorem alongside_memorySib (width : WordSize) :
    Alongside (memorySib p f m width) (memorySib q g m width) fun r r' => r.2 = r'.2 := by
  have hindex : ∀ (p : PrefixState) (s : Sib), ∃ r, indexRegister p width none s = .ok r :=
    fun p s => exists_indexRegister (fun _ h => by cases h) s
  rw [memorySib, memorySib, hf, hg]
  refine (alongside_byte.bind fun b b' hb => alongside_pure (congrArg Sib.mk hb)).bind
    fun s s' hs => ?_
  subst hs
  refine (alongside_request (hindex p s) (hindex q s)).bind fun index index' _ => ?_
  -- Without a base there is a displacement of four bytes, with one the mod field tells.
  split
  · exact alongside_address ..
  · exact (alongside_base width _ _).bind fun _ _ _ => alongside_address ..

theorem alongside_memory32 (width : WordSize) :
    Alongside (memory32 p mode f m width) (memory32 q mode g m width) fun r r' => r.2 = r'.2 := by
  rw [memory32, memory32, hf, hg]
  split
  · exact alongside_memorySib hf hg width
  · dsimp only [Option.isSome_none]
    split
    · exact alongside_throw _ _
    · split
      · split
        · refine (alongside_address ..).bind fun r r' hspan =>
            (alongside_setRelative _ _).bind fun _ _ _ => alongside_pure hspan
        · exact alongside_address ..
      · exact (alongside_base width _ _).bind fun _ _ _ => alongside_address ..

/-- A memory operand takes the same bytes under both prefixes, and its displacement stands in the
same place. -/
theorem alongside_memory (h : p.Renamed q) :
    Alongside (memory p mode f m) (memory q mode g m) fun r r' => r.2 = r'.2 := by
  rw [memory, memory, h.addressSize_eq, hf, hg]
  cases p.addressSize mode with
  | w16 => exact alongside_memory16
  | w32 => exact alongside_memory32 hf hg .w32
  | w64 => exact alongside_memory32 hf hg .w64

theorem alongside_draft (h : p.Renamed q) (isMemory : Bool) :
    Alongside (draft p mode f m isMemory) (draft q mode g m isMemory)
      fun d d' => d.constants = d'.constants ∧ d.operands = [] ∧ d'.operands = [] := by
  cases isMemory with
  | false => exact alongside_pure ⟨rfl, rfl, rfl⟩
  | true =>
    refine (alongside_memory hf hg h).bind fun r r' hspan => ?_
    refine alongside_pure ⟨?_, rfl, rfl⟩
    change ({ displacement := r.2 } : ConstantOffsets) = { displacement := r'.2 }
    rw [hspan]

end Memory

/-! ### Registers -/

/-- A numbered family has a register for each of its numbers. -/
theorem exists_member_ne_none {family : RegisterFamily} {first : Register} {count n : Nat}
    (h : family.members? = some (first, count)) (hn : n < count) :
    ∃ r, family.member n = .ok r ∧ r ≠ .none := by
  have hall : ∀ n < count, first.after n ≠ .none := by
    cases family <;> cases h <;> decide
  refine ⟨first.after n, ?_, hall n hn⟩
  have hrange : ¬((n : Int) < 0 ∨ (count : Int) ≤ n) := by omega
  rw [RegisterFamily.member, h]
  exact congrArg Except.ok (if_neg hrange)

/-- Whether there is a general purpose register goes by the width alone. -/
theorem alongside_generalRegister (bits n n' : Nat) :
    Alongside (request (generalRegister p bits n)) (request (generalRegister q bits n'))
      fun _ _ => True := by
  rw [generalRegister, generalRegister, Register.ofBits, Register.ofBits]
  split
  · exact alongside_pure trivial
  · split
    · exact alongside_pure trivial
    · exact alongside_throw _ _

/-- Two numbers of registers that exist, or the same number twice. -/
theorem alongside_register {spec : OperandSpec} {n n' : Nat}
    (h : spec.family = .general ∨ n = n' ∨
      ∃ first count, spec.family.members? = some (first, count) ∧ n < count ∧ n' < count) :
    Alongside (register p spec n) (register q spec n') fun _ _ => True := by
  rw [register, register]
  split
  · exact alongside_generalRegister spec.bits n n'
  · rename_i hgeneral
    rcases h with hfamily | rfl | ⟨first, count, hmembers, hn, hn'⟩
    · exact absurd hfamily hgeneral
    · refine (alongside_request_self _).bind fun r r' hr => ?_
      subst hr
      split
      · exact alongside_throw _ _
      · exact alongside_pure trivial
    · -- The number may be cut down to three bits, and is one of the family's all the more.
      have hlt : ∀ k < count,
          (if spec.family = .mmx ∨ spec.family = .x87 then k % 8 else k) < count := by
        intro k hk
        split
        · exact Nat.lt_of_le_of_lt (Nat.mod_le k 8) hk
        · exact hk
      obtain ⟨r, hr, hne⟩ := exists_member_ne_none hmembers (hlt n hn)
      obtain ⟨r', hr', hne'⟩ := exists_member_ne_none hmembers (hlt n' hn')
      dsimp only
      rw [hr, hr', request, request, pure_bind, pure_bind, if_neg hne, if_neg hne']
      exact alongside_pure trivial

/-- The reg field and its extensions stay among the registers of a family, unless it is that of the
opmasks. -/
theorem alongside_regRegister {spec : OperandSpec} (hspec : spec.family ≠ .opmask) :
    Alongside (regRegister p spec m) (regRegister q spec m) fun _ _ => True := by
  have hreg : ∀ high, extended high m.reg < 16 :=
    extended_lt (Bits.toNat_getRun_le _ _ _)
  have hhigh : ∀ high higher : Bool, extended high m.reg + (if higher then 16 else 0) < 32 := by
    intro high higher
    have := hreg high
    split <;> omega
  rw [regRegister, regRegister]
  -- Control and debug registers have one extension, vector registers have two.
  split <;> rename_i hfamily
  case h_1 => exact alongside_register (.inl hfamily)
  case h_2 | h_3 =>
    exact alongside_register (.inr (.inr ⟨_, _, by rw [hfamily]; rfl, hreg _, hreg _⟩))
  case h_4 => exact absurd hfamily hspec
  case h_5 | h_6 | h_7 =>
    exact alongside_register (.inr (.inr ⟨_, _, by rw [hfamily]; rfl, hhigh _ _, hhigh _ _⟩))
  case h_8 => exact alongside_register (.inr (.inl rfl))

theorem alongside_rmRegister (spec : OperandSpec) :
    Alongside (rmRegister p spec m) (rmRegister q spec m) fun _ _ => True := by
  have hhigh : ∀ high higher : Bool, extended high m.rm + (if higher then 16 else 0) < 32 := by
    intro high higher
    have := extended_lt m.rm_le high
    split <;> omega
  rw [rmRegister, rmRegister]
  split <;> rename_i hfamily
  case h_1 => exact alongside_register (.inl hfamily)
  case h_2 | h_3 | h_4 =>
    exact alongside_register (.inr (.inr ⟨_, _, by rw [hfamily]; rfl, hhigh _ _, hhigh _ _⟩))
  case h_5 => exact alongside_register (.inr (.inl rfl))

theorem alongside_vvvvRegister (h : p.Renamed q) (spec : OperandSpec) :
    Alongside (vvvvRegister p spec) (vvvvRegister q spec) fun _ _ => True := by
  rw [vvvvRegister, vvvvRegister, h.vvvv_eq]
  split
  · exact alongside_throw _ _
  · exact alongside_register (.inr (.inl rfl))

end Reader

/-! ### Operands -/

/-- Whether any extension of the operand's register number leads to a register, and none of them
rules out another. -/
def OperandSpec.isFree : OperandSpec → Bool
  | .reg .opmask | .vsib _ _ => false
  | _ => true

/-- Whether the operand is a register that the instruction implies. -/
def OperandSpec.isImplicit : OperandSpec → Bool
  | .implicit _ => true
  | _ => false

/-- Drafts that have their constants in the same places, each with one more operand than before. -/
structure Draft.Stepped (d d' e e' : Draft) : Prop where
  constants : e.constants = e'.constants
  length_left : e.operands.length = d.operands.length + 1
  length_right : e'.operands.length = d'.operands.length + 1

namespace Draft

variable {d d' e e' : Draft}

theorem Stepped.of_concat {o o' : Operand} (hconstants : e.constants = e'.constants)
    (h : e.operands = d.operands ++ [o]) (h' : e'.operands = d'.operands ++ [o']) :
    d.Stepped d' e e' := by
  refine ⟨hconstants, ?_, ?_⟩
  · rw [h, List.length_append, List.length_singleton]
  · rw [h', List.length_append, List.length_singleton]

end Draft

namespace Reader

variable {p q : PrefixState} {mode : Mode} {m : ModRM} {isMemory : Bool} {d d' : Draft}

/-- The same immediate is read, and recorded in the same place. -/
theorem alongside_immediate (hd : d.constants = d'.constants) (size : Nat) :
    Alongside (immediate d size) (immediate d' size) fun r r' =>
      r.1 = r'.1 ∧ r.2.constants = r'.2.constants ∧ r.2.operands = d.operands ∧
        r'.2.operands = d'.operands := by
  refine alongside_position.bind fun start start' hstart =>
    (alongside_number size).bind fun v v' hv => alongside_pure ⟨hv, ?_, rfl, rfl⟩
  subst hstart
  simp only [Draft.addImmediate, hd]

/-- An operand whose register may be any takes the same bytes under both prefixes. -/
theorem alongside_operand (h : p.Renamed q) (hd : d.constants = d'.constants)
    {spec : OperandSpec} (hspec : spec.isFree) :
    Alongside (operand p mode m isMemory d spec) (operand q mode m isMemory d' spec)
      (d.Stepped d') := by
  have hpush : ∀ o o', d.Stepped d' (d.push o) (d'.push o') :=
    fun _ _ => .of_concat hd rfl rfl
  cases spec with
  | reg cls =>
    have hfamily : (OperandSpec.reg cls).family ≠ .opmask := by
      cases cls with
      | opmask => cases hspec
      | _ => simp [OperandSpec.family, RegisterClass.family]
    exact (alongside_regRegister hfamily).bind fun _ _ _ => alongside_pure (hpush _ _)
  | rm _ | rmRegister _ | rmMemory =>
    cases isMemory with
    | true => exact alongside_pure (hpush _ _)
    | false => exact (alongside_rmRegister _).bind fun _ _ _ => alongside_pure (hpush _ _)
  | vvvv _ => exact (alongside_vvvvRegister h _).bind fun _ _ _ => alongside_pure (hpush _ _)
  | is4 _ =>
    refine (alongside_immediate hd 1).bind ?_
    rintro r r' ⟨hv, hconstants, hr, hr'⟩
    dsimp only
    rw [is4Register, is4Register, hv]
    refine (alongside_register (.inr (.inl rfl))).bind fun _ _ _ => ?_
    exact alongside_pure (.of_concat hconstants (congrArg (· ++ _) hr) (congrArg (· ++ _) hr'))
  | implicit _ | one => exact alongside_pure (hpush _ _)
  | immediate _ | relative _ _ =>
    refine (alongside_immediate hd _).bind ?_
    rintro r r' ⟨-, hconstants, hr, hr'⟩
    exact alongside_pure (.of_concat hconstants (congrArg (· ++ _) hr) (congrArg (· ++ _) hr'))
  | far wide =>
    refine (alongside_immediate hd _).bind ?_
    rintro r r' ⟨-, hconstants, hr, hr'⟩
    refine (alongside_immediate hconstants 2).bind ?_
    rintro u u' ⟨-, hconstants', hu, hu'⟩
    exact alongside_pure (.of_concat hconstants' (congrArg (· ++ _) (hu.trans hr))
      (congrArg (· ++ _) (hu'.trans hr')))
  | moffs _ =>
    -- The offset has the size of an address, and takes the place of a displacement.
    dsimp only [operand, memoryOffset]
    rw [h.addressSize_eq]
    refine alongside_position.bind fun start start' hstart =>
      (alongside_number _).bind fun _ _ _ => alongside_pure (.of_concat ?_ rfl rfl)
    subst hstart
    simp only [Draft.push, hd]
  | stringSource _ | maskDestination => exact alongside_pure (.of_concat hd rfl rfl)
  | stringDestination _ =>
    refine alongside_pure (.of_concat ?_ (congrArg (· ++ _) ?_) (congrArg (· ++ _) ?_))
    · dsimp only [Draft.push]
      split <;> split <;> exact hd
    · split <;> rfl
    · split <;> rfl
  | vsib _ _ => cases hspec

/-- Operands that are implied take no bytes. -/
theorem operands_implicit (p : PrefixState) (mode : Mode) (m : ModRM) (isMemory : Bool)
    {o : FormOperand} (ho : o.spec.isImplicit) (os : List FormOperand) {d : Draft}
    (hlength : d.operands.length < Instruction.maxOperands) :
    ∃ e, operands p mode m isMemory (o :: os) d = operands p mode m isMemory os e ∧
      e.constants = d.constants ∧ e.operands.length = d.operands.length + 1 := by
  rw [operands, if_neg (Nat.not_le.2 hlength)]
  cases hspec : o.spec with
  | implicit r => exact ⟨d.push { register := r }, rfl, rfl, by simp [Draft.push]⟩
  | _ =>
    rw [hspec] at ho
    cases ho

/-- The same operands take the same bytes under both prefixes. -/
theorem alongside_operands (h : p.Renamed q) {os : List FormOperand}
    (hos : ∀ o ∈ os, o.spec.isFree) (hd : d.constants = d'.constants)
    (hlength : d.operands.length = d'.operands.length) :
    Alongside (operands p mode m isMemory os d) (operands q mode m isMemory os d')
      fun e e' => e.constants = e'.constants := by
  -- Both drafts grow by one operand at a time, so one is full when the other is.
  induction os generalizing d d' with
  | nil => exact alongside_pure hd
  | cons o os ih =>
    rw [List.forall_mem_cons] at hos
    rw [operands, operands, hlength]
    split
    · exact alongside_throw _ _
    · refine (alongside_operand h hd hos.1).bind fun e e' he => ?_
      exact ih hos.2 he.constants (by rw [he.length_left, he.length_right, hlength])

/-- Operands take the same bytes as those among them that are not implied. -/
theorem alongside_operands_filter (h : p.Renamed p) {os : List FormOperand}
    (hos : ∀ o ∈ os, o.spec.isFree) (hd : d.constants = d'.constants)
    (hle : d'.operands.length ≤ d.operands.length)
    (hlength : d.operands.length + os.length ≤ Instruction.maxOperands) :
    Alongside (operands p mode m isMemory os d)
      (operands p mode m isMemory (os.filter fun o => !o.spec.isImplicit) d')
      fun e e' => e.constants = e'.constants := by
  -- The draft on the right may fall behind, so there is room in it as long as there is on the left.
  induction os generalizing d d' with
  | nil => exact alongside_pure hd
  | cons o os ih =>
    rw [List.forall_mem_cons] at hos
    rw [List.length_cons] at hlength
    by_cases ho : o.spec.isImplicit
    · obtain ⟨e, hrun, hconstants, hoperands⟩ :=
        operands_implicit p mode m isMemory ho os (d := d) (by omega)
      rw [hrun, List.filter_cons_of_neg (by simp [ho])]
      exact ih hos.2 (hconstants.trans hd) (by omega) (by omega)
    · rw [List.filter_cons_of_pos (by simp [ho]), operands, operands, if_neg (by omega),
        if_neg (by omega)]
      refine (alongside_operand h hd hos.1).bind fun e e' he => ?_
      have hleft := he.length_left
      have hright := he.length_right
      exact ih hos.2 he.constants (by omega) (by omega)

end Reader

/-! ### Forms -/

namespace Form

/-- The form has places for its operands, and any extension of their register numbers will do. -/
structure Free (f : Form) : Prop where
  isFree : ∀ o ∈ f.operands, o.spec.isFree
  length_operands : f.operands.length ≤ Instruction.maxOperands

/-- The forms name memory under the same ModR/M bytes, and have the same operands but for those that
are implied. -/
structure Alike (f g : Form) : Prop where
  namesMemory : ∀ m, f.namesMemory m = g.namesMemory m
  operands : (f.operands.filter fun o => !o.spec.isImplicit) =
    g.operands.filter fun o => !o.spec.isImplicit

theorem Alike.refl (f : Form) : f.Alike f :=
  ⟨fun _ => rfl, rfl⟩

theorem Free.vsib?_eq_none {f : Form} (hf : f.Free) : f.vsib? = none := by
  rw [vsib?, List.findSome?_eq_none_iff]
  intro o ho
  have hfree := hf.isFree o ho
  split
  · rename_i hspec
    rw [hspec] at hfree
    cases hfree
  · rfl

end Form

namespace Reader

variable {p q : PrefixState} {mode : Mode} {m : ModRM} {f g : Form}

/-- The rest of an instruction takes the same bytes under both prefixes, and its constants stand in
the same places. -/
theorem alongside_formBody (h : p.Renamed q) (hf : f.Free) (hg : g.Free) (halike : f.Alike g) :
    Alongside (formBody p mode m f) (formBody q mode m g) fun body body' =>
      body.length = body'.length ∧ body.draft.constants = body'.draft.constants := by
  rw [formBody, formBody, h.checkForm_eq_none, h.symm.checkForm_eq_none, ← halike.namesMemory]
  refine (alongside_pure trivial).bind fun _ _ (_ : True) => ?_
  refine (alongside_draft hf.vsib?_eq_none hg.vsib?_eq_none h _).bind ?_
  rintro d d' ⟨hd, hnil, hnil'⟩
  -- Implied operands are left out on both sides, and what remains is the same.
  have hlength : d.operands.length + f.operands.length ≤ Instruction.maxOperands := by
    rw [hnil, List.length_nil, Nat.zero_add]
    exact hf.length_operands
  have hlength' : d'.operands.length + g.operands.length ≤ Instruction.maxOperands := by
    rw [hnil', List.length_nil, Nat.zero_add]
    exact hg.length_operands
  have hleft : Alongside (operands p mode m (f.namesMemory m) f.operands d)
      (operands p mode m (f.namesMemory m) (f.operands.filter fun o => !o.spec.isImplicit) d)
      fun e e' => e.constants = e'.constants :=
    alongside_operands_filter h.refl hf.isFree rfl (Nat.le_refl _) hlength
  have hright : Alongside (operands q mode m (f.namesMemory m) g.operands d')
      (operands q mode m (f.namesMemory m) (g.operands.filter fun o => !o.spec.isImplicit) d')
      fun e e' => e.constants = e'.constants :=
    alongside_operands_filter h.symm.refl hg.isFree rfl (Nat.le_refl _) hlength'
  have hmiddle : Alongside
      (operands p mode m (f.namesMemory m) (f.operands.filter fun o => !o.spec.isImplicit) d)
      (operands q mode m (f.namesMemory m) (f.operands.filter fun o => !o.spec.isImplicit) d')
      fun e e' => e.constants = e'.constants :=
    alongside_operands h (fun o ho => hf.isFree o (List.mem_filter.1 ho).1) hd (by rw [hnil, hnil'])
  rw [halike.operands] at hleft hmiddle
  refine ((hleft.trans hmiddle).trans hright.symm).bind ?_
  rintro e e' ⟨_, ⟨_, hconstants, hconstants'⟩, hconstants''⟩
  refine alongside_isRelative.bind fun _ _ _ => alongside_position.bind fun _ _ hposition => ?_
  exact alongside_pure ⟨hposition, (hconstants.trans hconstants').trans hconstants''.symm⟩

end Reader

end X86Decoder
