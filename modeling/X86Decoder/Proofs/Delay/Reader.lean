import X86Decoder.Proofs.Constants.Tiling

/-!
# Readers that start one byte later

A reader does not look at how many bytes came before it, except where it records its place and where
an instruction becomes too long. So the same reader with one byte more behind it does the same and
ends one byte later; and if there was no room for another byte, it finds the instruction too long.

* `ReadState.later`: the state with one byte more behind it.
* `Reader.Trails`: how a run that starts one byte later goes with the first.
* `Reader.Delays m n φ`: `n` one byte later yields what `φ` makes of the result of `m`.
* `Reader.delays_body`: reading an instruction one byte later.
-/

namespace X86Decoder

/-- The state with one byte more behind it. -/
def ReadState.later (s : ReadState) : ReadState :=
  { s with consumed := s.consumed + 1 }

namespace Reader

variable {α β γ δ : Type}

/-- The second run goes with the first. If the first succeeds and there is room for one byte more,
the second succeeds one byte later; if there is no room, the instruction is too long. If the first
fails, so does the second. -/
inductive Trails (φ : α → β) :
    Except DecodeFault α × ReadState → Except DecodeFault β × ReadState → Prop
  | ok {a : α} {t : ReadState} (h : t.consumed < maxLength) :
    Trails φ (.ok a, t) (.ok (φ a), t.later)
  | full {a : α} {t u : ReadState} (ht : t.consumed = maxLength) (hu : u.consumed = maxLength) :
    Trails φ (.ok a, t) (.error .tooLong, u)
  | error {fault fault' : DecodeFault} {t u : ReadState} :
    Trails φ (.error fault, t) (.error fault', u)

/-- The second reader, started one byte later, goes with the first one. -/
def DelaysAt (m : Reader α) (n : Reader β) (φ : α → β) (s : ReadState) : Prop :=
  s.consumed < maxLength → Trails φ (m.runOn s) (n.runOn s.later)

/-- The second reader goes with the first one wherever they start. -/
structure Delays (m : Reader α) (n : Reader β) (φ : α → β) : Prop where
  counts : m.Counts
  delaysAt : ∀ s, DelaysAt m n φ s

/-- The reader does the same one byte later. -/
def Steady (m : Reader α) : Prop :=
  Delays m m id

/-! ### Rules -/

section Rules

variable {m : Reader α} {n : Reader β} {f : α → Reader γ} {g : β → Reader δ} {φ : α → β}
  {ψ : γ → δ}

/-- What follows two runs that go together need do so only in the states that they lead to. -/
theorem Trails.bind {s s' : ReadState} (hm : Trails φ (m.runOn s) (n.runOn s'))
    (hcounts : ∀ a, (f a).Counts)
    (hf : ∀ a t, m.runOn s = (.ok a, t) → DelaysAt (f a) (g (φ a)) ψ t) :
    Trails ψ ((m >>= f).runOn s) ((n >>= g).runOn s') := by
  rw [runOn_bind, runOn_bind]
  generalize m.runOn s = r at hm hf ⊢
  generalize n.runOn s' = r' at hm ⊢
  cases hm with
  | ok h => exact hf _ _ rfl h
  | error => exact .error
  | @full a t u ht hu =>
    -- The first may go on without reading, the second has stopped.
    obtain ⟨taken, -, hconsumed, hmax⟩ := hcounts a t
    dsimp only
    rcases hrest : (f a).runOn t with ⟨fault | b, v⟩ <;> rw [hrest] at hconsumed hmax
    · exact .error
    · have hle := hmax (Nat.le_of_eq ht)
      dsimp only at hconsumed hle
      exact .full (by omega) hu

theorem DelaysAt.bind {s : ReadState} (hm : DelaysAt m n φ s) (hcounts : ∀ a, (f a).Counts)
    (hf : ∀ a t, m.runOn s = (.ok a, t) → DelaysAt (f a) (g (φ a)) ψ t) :
    DelaysAt (m >>= f) (n >>= g) ψ s :=
  fun hs => (hm hs).bind hcounts hf

theorem Delays.bind (hm : Delays m n φ) (hf : ∀ a, Delays (f a) (g (φ a)) ψ) :
    Delays (m >>= f) (n >>= g) ψ where
  counts := hm.counts.bind fun a => (hf a).counts
  delaysAt s := (hm.delaysAt s).bind (fun a => (hf a).counts) fun a t _ => (hf a).delaysAt t

theorem Steady.bind {g : α → Reader δ} (hm : m.Steady) (hf : ∀ a, Delays (f a) (g a) ψ) :
    Delays (m >>= f) (m >>= g) ψ :=
  Delays.bind hm hf

theorem Steady.bind_steady (hm : m.Steady) (hf : ∀ a, (f a).Steady) : (m >>= f).Steady :=
  hm.bind hf

end Rules

/-! ### Elementary readers -/

theorem delays_pure {a : α} {b : β} {φ : α → β} (h : b = φ a) : Delays (pure a) (pure b) φ where
  counts := (selfDelimiting_pure a).counts
  delaysAt s hs := by
    subst h
    exact .ok hs

theorem steady_pure (a : α) : (pure a : Reader α).Steady := delays_pure rfl

theorem delays_throw (fault : DecodeFault) (φ : α → β) :
    Delays (throw fault : Reader α) (throw fault : Reader β) φ where
  counts s := .refl s
  delaysAt _ _ := .error

theorem steady_request (r : Except Misuse α) : (request r).Steady := by
  cases r with
  | ok a => exact steady_pure a
  | error cause => exact delays_throw _ _

theorem delays_position : Delays position position (· + 1) where
  counts := selfDelimiting_position.counts
  delaysAt _ hs := .ok hs

theorem steady_prefixes : prefixes.Steady where
  counts := selfDelimiting_prefixes.counts
  delaysAt _ hs := .ok hs

theorem steady_modifyPrefixes (f : PrefixState → PrefixState) : (modifyPrefixes f).Steady where
  counts := (selfDelimiting_modifyPrefixes f).counts
  delaysAt s hs := by
    have h : { s with prefixes := f s.prefixes }.consumed < maxLength := hs
    exact .ok h

theorem steady_isRelative : isRelative.Steady where
  counts := selfDelimiting_isRelative.counts
  delaysAt _ hs := .ok hs

theorem steady_setRelative (relative : Bool) : (setRelative relative).Steady where
  counts := (selfDelimiting_setRelative relative).counts
  delaysAt s hs := by
    have h : { s with relative := relative }.consumed < maxLength := hs
    exact .ok h

theorem steady_checkPrefixes (fault? : Option PrefixFault) : (checkPrefixes fault?).Steady := by
  cases fault? with
  | none => exact steady_pure ()
  | some fault => exact delays_throw _ _

theorem runOn_byte_full {s : ReadState} (h : maxLength ≤ s.consumed) :
    byte.runOn s = (.error .tooLong, s) := by
  rw [runOn_byte, if_pos h]

/-- The last byte that an instruction may have is one too many one byte later. -/
theorem steady_byte : byte.Steady where
  counts := selfDelimiting_byte.counts
  delaysAt s hs := by
    cases hrest : s.rest with
    | nil =>
      have hrun : ∀ t : ReadState, t.rest = [] → ∃ fault, byte.runOn t = (.error fault, t) := by
        intro t ht
        rw [runOn_byte, ht]
        split
        · exact ⟨_, rfl⟩
        · exact ⟨_, rfl⟩
      obtain ⟨fault, hfault⟩ := hrun s hrest
      obtain ⟨fault', hfault'⟩ := hrun s.later hrest
      rw [hfault, hfault']
      exact .error
    | cons b rest =>
      rw [runOn_byte_cons hrest hs]
      by_cases hmax : maxLength ≤ s.later.consumed
      · have hfull : s.later.consumed = maxLength := Nat.le_antisymm hs hmax
        rw [runOn_byte_full hmax]
        exact .full hfull hfull
      · rw [runOn_byte_cons (s := s.later) hrest (Nat.lt_of_not_le hmax)]
        exact .ok (t := { s with rest := rest, consumed := s.consumed + 1 }) (Nat.lt_of_not_le hmax)

theorem Steady.map {m : Reader α} (hm : m.Steady) (f : α → β) : (f <$> m).Steady := by
  rw [map_eq_pure_bind]
  exact hm.bind_steady fun a => steady_pure (f a)

theorem steady_bytes (n : Nat) : (bytes n).Steady := by
  induction n with
  | zero => exact steady_pure []
  | succ n ih =>
    exact steady_byte.bind_steady fun b => ih.bind_steady fun rest => steady_pure (b :: rest)

theorem steady_number (size : Nat) : (number size).Steady := by
  rw [number]
  split
  · exact delays_throw _ _
  · exact (steady_bytes size).bind_steady fun bs => steady_pure _

/-- A reader that takes no bytes takes none one byte later. -/
theorem Silent.steady {m : Reader α} (hm : m.Silent) (hcounts : m.Counts) : m.Steady where
  counts := hcounts
  delaysAt s hs := by
    have hiff := hm.takes.runOn_iff
    rcases hrun : m.runOn s with ⟨fault | a, t⟩
    · rcases hlater : m.runOn s.later with ⟨fault' | a, u⟩
      · exact .error
      · -- What it yields does not depend on the state, so it would have succeeded before.
        obtain ⟨-, hvalue, -⟩ := (hiff _ _ _).1 hlater
        rw [(hiff s a s).2 ⟨s.room_zero, hvalue, rfl⟩] at hrun
        cases hrun
    · obtain ⟨-, hvalue, rfl⟩ := (hiff _ _ _).1 hrun
      rw [(hiff s.later a s.later).2 ⟨s.later.room_zero, hvalue, rfl⟩]
      exact .ok hs

/-! ### Prefixes and opcodes -/

section Prefixes

variable {mode : Mode} {b : UInt8} {s : ReadState} (rest : List UInt8)

theorem scanPrefixes_cons_some (hs : s.consumed < maxLength) {p : PrefixState}
    (hp : s.prefixes.add? mode b = some p) :
    scanPrefixes mode (b :: rest) s =
      scanPrefixes mode rest { s with consumed := s.consumed + 1, prefixes := p } := by
  rw [scanPrefixes, if_neg (Nat.not_le.2 hs), hp]

theorem scanPrefixes_cons_none (hs : s.consumed < maxLength)
    (hp : s.prefixes.add? mode b = none) :
    scanPrefixes mode (b :: rest) s =
      (.ok b, { s with rest := rest, consumed := s.consumed + 1 }) := by
  rw [scanPrefixes, if_neg (Nat.not_le.2 hs), hp]

end Prefixes

theorem trails_scanPrefixes (mode : Mode) (bs : List UInt8) {s : ReadState}
    (hs : s.consumed < maxLength) :
    Trails id (scanPrefixes mode bs s) (scanPrefixes mode bs s.later) := by
  induction bs generalizing s with
  | nil => exact .error
  | cons b rest ih =>
    by_cases hlater : s.later.consumed < maxLength
    · cases hp : s.prefixes.add? mode b with
      | some p =>
        rw [scanPrefixes_cons_some rest hs hp, scanPrefixes_cons_some (s := s.later) rest hlater hp]
        exact ih (s := { s with consumed := s.consumed + 1, prefixes := p }) hlater
      | none =>
        rw [scanPrefixes_cons_none rest hs hp, scanPrefixes_cons_none (s := s.later) rest hlater hp]
        exact .ok (t := { s with rest := rest, consumed := s.consumed + 1 }) hlater
    · -- The byte is the last one that there is room for; a prefix cannot be.
      have hfull : s.consumed + 1 = maxLength := Nat.le_antisymm hs (Nat.le_of_not_lt hlater)
      rw [scanPrefixes_of_maxLength_le mode _ (Nat.le_of_not_lt hlater)]
      cases hp : s.prefixes.add? mode b with
      | some p =>
        rw [scanPrefixes_cons_some rest hs hp,
          scanPrefixes_of_maxLength_le mode rest (Nat.le_of_eq hfull.symm)]
        exact .error
      | none =>
        rw [scanPrefixes_cons_none rest hs hp]
        exact .full hfull hfull

theorem steady_legacyPrefixes (mode : Mode) : (legacyPrefixes mode).Steady where
  counts := (selfDelimiting_legacyPrefixes mode).counts
  delaysAt s hs := trails_scanPrefixes mode s.rest hs

theorem steady_checkBefore (encoding : EncodingKind) : (checkBefore encoding).Steady :=
  steady_prefixes.bind_steady fun _ => steady_checkPrefixes _

theorem steady_selectMap (encoding : EncodingKind) (n : UInt8) (map? : Option OpcodeMap) :
    (selectMap encoding n map?).Steady := by
  refine (steady_modifyPrefixes _).bind_steady fun _ => ?_
  cases map? with
  | none => exact delays_throw _ _
  | some map => exact steady_modifyPrefixes _

theorem steady_vexPayload (short : Bool) : (vexPayload short).Steady := by
  cases short with
  | true => exact steady_byte.map _
  | false =>
    exact steady_byte.bind_steady fun _ => steady_byte.bind_steady fun _ => steady_pure _

theorem steady_evexPayload : evexPayload.Steady :=
  steady_byte.bind_steady fun _ => steady_byte.bind_steady fun _ =>
    steady_byte.bind_steady fun _ => steady_pure _

theorem steady_vexLikePrefix (encoding : EncodingKind) (map? : UInt8 → Option OpcodeMap)
    (mode : Mode) (short : Bool) : (vexLikePrefix encoding map? mode short).Steady :=
  (steady_checkBefore _).bind_steady fun _ => (steady_vexPayload short).bind_steady fun _ =>
    (steady_selectMap _ _ _).bind_steady fun _ => steady_modifyPrefixes _

theorem steady_evexPrefix (mode : Mode) : (evexPrefix mode).Steady :=
  (steady_checkBefore _).bind_steady fun _ => steady_evexPayload.bind_steady fun _ =>
    (steady_checkPrefixes _).bind_steady fun _ => (steady_selectMap _ _ _).bind_steady fun _ =>
      (steady_modifyPrefixes _).bind_steady fun _ => steady_checkPrefixes _

theorem steady_escapedOpcode : escapedOpcode.Steady := by
  refine steady_byte.bind_steady fun b => ?_
  split
  · exact (steady_modifyPrefixes _).bind_steady fun _ => steady_byte
  split
  · exact (steady_modifyPrefixes _).bind_steady fun _ => steady_byte
  · exact (steady_modifyPrefixes _).bind_steady fun _ => steady_pure b

theorem steady_modrm (p : PrefixState) (op : UInt8) : (modrm p op).Steady := by
  rw [modrm]
  split
  · exact delays_throw _ _
  split
  · exact steady_byte.map _
  · exact steady_pure _

theorem steady_withModRM (op : UInt8) : (withModRM op).Steady :=
  steady_prefixes.bind_steady fun _ => (steady_modrm _ op).bind_steady fun _ => steady_pure _

section ExtendedOpcode

variable {b : UInt8} {rest : Reader Unit}

theorem steady_restOrOpcode (hrest : rest.Steady) (extended : Bool) :
    (if extended then do rest; byte else pure b : Reader UInt8).Steady := by
  cases extended with
  | true => exact hrest.bind_steady fun _ => steady_byte
  | false => exact steady_pure b

/-- An opcode that may start an extended prefix goes with its ModR/M byte. Where the limit hides the
next byte from the later run, the opcode is taken, and its ModR/M byte is one too many. -/
theorem delaysAt_extendedOpcode {test : UInt8 → Bool} (hrest : rest.Steady)
    (hdelimits : rest.SelfDelimiting) {s : ReadState}
    (hcovers : Table.covers s.prefixes.encoding s.prefixes.map)
    (hmodrm : Table.hasModRM s.prefixes.encoding s.prefixes.map b) :
    DelaysAt (extendedOpcode b (nextIs test) rest >>= withModRM)
      (extendedOpcode b (nextIs test) rest >>= withModRM) id s := by
  intro hs
  by_cases hlater : s.later.consumed < maxLength
  · -- Both runs see the same next byte.
    have hnext : DelaysAt (nextIs test) (nextIs test) id s := by
      intro _
      rw [runOn_nextIs, runOn_nextIs, if_neg (Nat.not_le.2 hs), if_neg (Nat.not_le.2 hlater)]
      exact .ok hs
    have hop : DelaysAt (extendedOpcode b (nextIs test) rest) (extendedOpcode b (nextIs test) rest)
        id s :=
      hnext.bind (fun extended => (steady_restOrOpcode hrest extended).counts)
        fun extended t _ => (steady_restOrOpcode hrest extended).delaysAt t
    exact hop.bind (fun op => (steady_withModRM op).counts)
      (fun op t _ => (steady_withModRM op).delaysAt t) hs
  · have hfull : s.later.consumed = maxLength := Nat.le_antisymm hs (Nat.le_of_not_lt hlater)
    have hop : (extendedOpcode b (nextIs test) rest).runOn s.later = (.ok b, s.later) := by
      rw [extendedOpcode, runOn_bind_of_ok (runOn_nextIs test s.later),
        if_pos (Nat.le_of_eq hfull.symm)]
      rfl
    have hsecond : (extendedOpcode b (nextIs test) rest >>= withModRM).runOn s.later =
        (.error .tooLong, s.later) := by
      rw [runOn_bind_of_ok hop, runOn_withModRM (s := s.later) hcovers hmodrm]
      exact runOn_bind_of_error (runOn_byte_full (Nat.le_of_eq hfull.symm))
    rw [hsecond]
    rcases hrun : (extendedOpcode b (nextIs test) rest >>= withModRM).runOn s with
      ⟨fault | selected, t⟩
    · exact .error
    · -- The first run took at least one byte more, and that was the last.
      have hstarts : ((nextIs test).runOn s).2 = s := by rw [runOn_nextIs]
      obtain ⟨hlt, hle⟩ := consumed_lt_of_extendedOpcode (counts_nextIs test) hdelimits
        (Nat.le_of_lt hs) hstarts hcovers hmodrm hrun
      have hconsumed : s.later.consumed = s.consumed + 1 := rfl
      exact .full (by omega) hfull

theorem delaysAt_startsExtended {mode : Mode} (hrest : rest.Steady)
    (hdelimits : rest.SelfDelimiting) {s : ReadState}
    (hcovers : Table.covers s.prefixes.encoding s.prefixes.map)
    (hmodrm : Table.hasModRM s.prefixes.encoding s.prefixes.map b) :
    DelaysAt (extendedOpcode b (startsExtended mode) rest >>= withModRM)
      (extendedOpcode b (startsExtended mode) rest >>= withModRM) id s := by
  rw [startsExtended]
  split
  · -- In 64-bit mode the byte always starts a prefix.
    exact (((steady_pure true).bind_steady (steady_restOrOpcode hrest)).bind_steady
      steady_withModRM).delaysAt s
  · exact delaysAt_extendedOpcode hrest hdelimits hcovers hmodrm

end ExtendedOpcode

theorem delaysAt_opcodeFrom (mode : Mode) (b : UInt8) {s : ReadState}
    (hencoding : s.prefixes.encoding = .legacy) (hmap : s.prefixes.map = .primary) :
    DelaysAt (opcodeFrom mode b >>= withModRM) (opcodeFrom mode b >>= withModRM) id s := by
  have hcovers : Table.covers s.prefixes.encoding s.prefixes.map := by
    rw [hencoding, hmap]
    decide
  have hmodrm : b ∈ [0xc4, 0xc5, 0x62, 0x8f] →
      Table.hasModRM s.prefixes.encoding s.prefixes.map b := by
    rw [hencoding, hmap]
    exact Table.hasModRM_of_mem
  rw [opcodeFrom]
  split
  · rename_i hb
    exact delaysAt_startsExtended (steady_vexLikePrefix ..) (selfDelimiting_vexLikePrefix ..)
      hcovers (hmodrm (by rcases hb with rfl | rfl <;> decide))
  split
  · rename_i hb
    exact delaysAt_startsExtended (steady_evexPrefix mode) (selfDelimiting_evexPrefix mode) hcovers
      (hmodrm (by subst hb; decide))
  split
  · rename_i hb
    exact delaysAt_extendedOpcode (steady_vexLikePrefix ..) (selfDelimiting_vexLikePrefix ..)
      hcovers (hmodrm (by subst hb; decide))
  split
  · exact (steady_escapedOpcode.bind_steady steady_withModRM).delaysAt s
  · exact ((steady_pure b).bind_steady steady_withModRM).delaysAt s

theorem steady_selector (mode : Mode) : (selector mode).Steady := by
  rw [selector, opcode, bind_assoc]
  have hcounts : ∀ b, (opcodeFrom mode b >>= withModRM).Counts := fun b =>
    (counts_opcodeFrom mode b).bind fun op => (selfDelimiting_withModRM op).counts
  refine (steady_legacyPrefixes mode).bind_steady fun b => ?_
  rw [bind_assoc]
  refine ⟨(steady_modifyPrefixes _).counts.bind fun _ => hcounts b, fun s => ?_⟩
  refine ((steady_modifyPrefixes _).delaysAt s).bind (fun _ => hcounts b) fun _ t ht => ?_
  rw [runOn_modifyPrefixes] at ht
  cases ht
  exact delaysAt_opcodeFrom mode b rfl rfl

end Reader

/-! ### Places one byte later -/

/-- The place one byte later; bytes that are not there stay nowhere. -/
def Span.later (span : Span) : Span :=
  if span.size = 0 then span else ⟨span.offset + 1, span.size⟩

theorem Span.later_mk {start size : Nat} (h : size ≠ 0) :
    Span.later ⟨start, size⟩ = ⟨start + 1, size⟩ :=
  if_neg h

@[simp]
theorem Span.size_later (span : Span) : span.later.size = span.size := by
  rw [later]
  split <;> rfl

/-- The places of the constants one byte later. -/
def ConstantOffsets.later (constants : ConstantOffsets) : ConstantOffsets where
  displacement := constants.displacement.later
  first := constants.first.later
  second := constants.second.later

namespace Draft

/-- The draft with the constants one byte later. -/
def later (draft : Draft) : Draft :=
  { draft with constants := draft.constants.later }

theorem later_push (draft : Draft) (operand : Operand) :
    (draft.push operand).later = draft.later.push operand := rfl

theorem later_addImmediate (draft : Draft) {start size : Nat} (h : size ≠ 0) :
    (draft.addImmediate ⟨start, size⟩).later = draft.later.addImmediate ⟨start + 1, size⟩ := by
  rw [← Span.later_mk h]
  simp only [addImmediate, later, ConstantOffsets.later, Span.size_later]
  split <;> rfl

end Draft

/-- The body with everything one byte later. -/
def Body.later (body : Body) : Body :=
  { body with draft := body.draft.later, length := body.length + 1 }

namespace Reader

/-! ### Memory -/

section Memory

variable (p : PrefixState) (mode : Mode) (f : Form) (m : ModRM)

theorem delays_displacement (size : Nat) (width : WordSize) :
    Delays (displacement p f size width) (displacement p f size width)
      fun result => (result.1, result.2.later) := by
  rw [displacement]
  split
  · exact delays_pure rfl
  · rename_i hsize
    refine delays_position.bind fun start => (steady_number size).bind fun raw => delays_pure ?_
    rw [Span.later_mk hsize]

theorem delays_address (width : WordSize) (base index : Register) (scale : Int) (size : Nat) :
    Delays (address p f width base index scale size) (address p f width base index scale size)
      fun result => (result.1, result.2.later) :=
  (delays_displacement p f size width).bind fun _ => delays_pure rfl

theorem delays_memory16 :
    Delays (memory16 p f m) (memory16 p f m) fun result => (result.1, result.2.later) := by
  refine (steady_request _).bind fun pair => ?_
  dsimp only
  split
  · split <;> exact delays_address ..
  · split <;> exact delays_address ..

theorem delays_memorySib (width : WordSize) :
    Delays (memorySib p f m width) (memorySib p f m width)
      fun result => (result.1, result.2.later) := by
  refine (steady_byte.map _).bind fun s => (steady_request _).bind fun index => ?_
  split
  · exact delays_address ..
  · exact (steady_request _).bind fun base => delays_address ..

theorem delays_memoryRelative (width : WordSize) :
    Delays (memoryRelative p f width) (memoryRelative p f width)
      fun result => (result.1, result.2.later) :=
  (delays_address ..).bind fun _ => (steady_setRelative true).bind fun _ => delays_pure rfl

theorem delays_memory32 (width : WordSize) :
    Delays (memory32 p mode f m width) (memory32 p mode f m width)
      fun result => (result.1, result.2.later) := by
  rw [memory32]
  split
  · exact delays_memorySib ..
  split
  · exact delays_throw _ _
  split
  · split
    · exact delays_memoryRelative ..
    · exact delays_address ..
  · exact (steady_request _).bind fun base => delays_address ..

theorem delays_memory :
    Delays (memory p mode f m) (memory p mode f m) fun result => (result.1, result.2.later) := by
  rw [memory]
  split
  · split
    · exact delays_throw _ _
    · exact delays_memory16 ..
  · exact delays_memory32 ..
  · exact delays_memory32 ..

theorem delays_draft (isMemory : Bool) :
    Delays (draft p mode f m isMemory) (draft p mode f m isMemory) Draft.later := by
  cases isMemory with
  | true => exact (delays_memory p mode f m).bind fun _ => delays_pure rfl
  | false => exact delays_pure rfl

end Memory

/-! ### Operands -/

theorem delays_immediate (d : Draft) {size : Nat} (h : size ≠ 0) :
    Delays (immediate d size) (immediate d.later size)
      fun result => (result.1, result.2.later) := by
  refine delays_position.bind fun start => (steady_number size).bind fun v => delays_pure ?_
  rw [d.later_addImmediate h]

section Operands

variable (p : PrefixState) (mode : Mode) (m : ModRM) (isMemory : Bool) (d : Draft)

theorem delays_memoryOffset :
    Delays (memoryOffset p mode d) (memoryOffset p mode d.later) Draft.later := by
  refine delays_position.bind fun start => (steady_number _).bind fun v => delays_pure ?_
  simp only [Draft.later, Draft.push, ConstantOffsets.later,
    Span.later_mk (p.addressSize mode).bytes_ne_zero]

/-- An operand is the same one byte later, and what it records is recorded one byte later. -/
theorem delays_operand (spec : OperandSpec) :
    Delays (operand p mode m isMemory d spec) (operand p mode m isMemory d.later spec)
      Draft.later := by
  cases spec with
  | reg cls =>
    exact ((silent_regRegister ..).steady (selfDelimiting_regRegister ..).counts).bind
      fun _ => delays_pure rfl
  | rm _ | rmRegister _ | rmMemory =>
    cases isMemory with
    | true => exact delays_pure rfl
    | false =>
      exact ((silent_rmRegister ..).steady (selfDelimiting_rmRegister ..).counts).bind
        fun _ => delays_pure rfl
  | vvvv cls =>
    exact ((silent_vvvvRegister ..).steady (selfDelimiting_vvvvRegister ..).counts).bind
      fun _ => delays_pure rfl
  | is4 cls =>
    exact (delays_immediate d (by decide)).bind fun _ =>
      ((silent_register ..).steady (selfDelimiting_register ..).counts).bind
        fun _ => delays_pure rfl
  | immediate value =>
    exact (delays_immediate d value.width.bytes_ne_zero).bind fun _ => delays_pure rfl
  | relative offset target =>
    exact (delays_immediate d offset.bytes_ne_zero).bind fun _ => delays_pure rfl
  | far wide =>
    exact (delays_immediate d (WordSize.bytes_ne_zero _)).bind fun result =>
      (delays_immediate result.2 (by decide)).bind fun _ => delays_pure rfl
  | moffs element => exact delays_memoryOffset ..
  | stringDestination element =>
    refine delays_pure ?_
    rw [Draft.later_push, apply_ite Draft.later]
    rfl
  | vsib index element =>
    rw [operand, operand]
    change Delays _ (if repeatsIndex d then _ else _) _
    split
    · exact delays_throw _ _
    · exact delays_pure rfl
  | implicit _ | one | stringSource _ | maskDestination => exact delays_pure rfl

theorem delays_operands (os : List FormOperand) :
    Delays (operands p mode m isMemory os d) (operands p mode m isMemory os d.later)
      Draft.later := by
  induction os generalizing d with
  | nil => exact delays_pure rfl
  | cons o os ih =>
    rw [operands, operands]
    change Delays _ (if Instruction.maxOperands ≤ d.operands.length then _ else _) _
    split
    · exact delays_throw _ _
    · exact (delays_operand ..).bind fun next => ih next

end Operands

/-! ### Instructions -/

theorem steady_form (p : PrefixState) (mode : Mode) (op : UInt8) (m : ModRM) :
    (form p mode op m).Steady := by
  refine (steady_request _).bind_steady fun found => ?_
  cases found with
  | ok f => exact steady_pure f
  | error failure =>
    dsimp only
    split <;> exact delays_throw _ _

theorem delays_formBody (p : PrefixState) (mode : Mode) (m : ModRM) (f : Form) :
    Delays (formBody p mode m f) (formBody p mode m f) Body.later :=
  (steady_checkPrefixes _).bind fun _ => (delays_draft ..).bind fun start =>
    (delays_operands _ _ _ _ start _).bind fun _ => steady_isRelative.bind fun _ =>
      delays_position.bind fun _ => delays_pure rfl

/-- What has been selected is read one byte later with everything one byte later. -/
theorem delays_selected (mode : Mode) (p : PrefixState) (op : UInt8) (m : ModRM) :
    Delays (form p mode op m >>= formBody p mode m) (form p mode op m >>= formBody p mode m)
      Body.later :=
  (steady_form ..).bind fun _ => delays_formBody ..

/-- An instruction that is read one byte later has everything one byte later. -/
theorem delays_body (mode : Mode) : Delays (body mode) (body mode) Body.later :=
  (steady_selector mode).bind fun _ => delays_selected ..

end Reader

end X86Decoder
