import X86Decoder.Proofs.ExtendedPrefix

/-!
# Plain prefixes

The prefixes that say as little as can be said: runs with at most one prefix of each kind, and
extended prefixes in which the numbers of registers are zero. What they say can be written down, and
the opcode behind them is read as it stands.

* `ShortRun`: the runs, with `ShortRun.ofRun_bytes` for what they say.
* `Reader.runOn_opcode_escape`: the opcode behind a run and an escape.
* `Vex.plain`, `Evex.plain`: the extended prefixes, with `ExtendedPrefix.vexState_plain` and
  `ExtendedPrefix.evexState_plain` for what they say.
* `Reader.runOn_opcode_behind`: the opcode behind an extended prefix.
-/

namespace X86Decoder

/-! ### Runs of prefixes -/

/-- The byte of a repeat prefix. -/
def Repetition.byte : Repetition → UInt8
  | repe => 0xf3
  | repne => 0xf2

/-- A run with at most one prefix of each kind: a repeat prefix, 66, 67, and a REX prefix with the
given W and B bits. -/
structure ShortRun where
  repetition : Option Repetition
  operandSize : Bool
  addressSize : Bool
  rex : Option (Bool × Bool)

namespace ShortRun

/-- The REX prefix with the given W and B bits. -/
def rexByte (w b : Bool) : UInt8 :=
  0x40 ||| (if w then 0b1000 else 0) ||| (if b then 0b1 else 0)

/-- The bytes of the run. -/
def bytes (run : ShortRun) : List UInt8 :=
  run.repetition.toList.map Repetition.byte ++ (if run.operandSize then [0x66] else [])
    ++ (if run.addressSize then [0x67] else [])
    ++ run.rex.toList.map fun (w, b) => rexByte w b

/-- What the run says. -/
def state (run : ShortRun) : PrefixState :=
  { repetition := run.repetition
    operandSizeOverride := run.operandSize
    addressSizeOverride := run.addressSize
    mandatory :=
      match run.repetition with
      | some .repe => .pF3
      | some .repne => .pF2
      | none => if run.operandSize then .p66 else .none
    rex := run.rex.map fun (w, b) => ⟨rexByte w b⟩
    w := run.rex.any Prod.fst
    b := run.rex.any Prod.snd }

theorem rexByte_isRex (w b : Bool) : Rex.isRex (rexByte w b) := by
  cases w <;> cases b <;> decide

/-- The REX prefix comes last. -/
theorem bytes_eq (run : ShortRun) :
    run.bytes = { run with rex := none }.bytes ++ run.rex.toList.map fun (w, b) => rexByte w b := by
  simp [bytes]

theorem ofRun_bytes (mode : Mode) (run : ShortRun) : .ofRun mode run.bytes = run.state := by
  rw [bytes_eq]
  obtain ⟨repetition, operandSize, addressSize, rex⟩ := run
  -- The legacy prefixes are a few cases; the REX prefix is added to them as in any run.
  have hlegacy : .ofRun mode (bytes ⟨repetition, operandSize, addressSize, none⟩) =
      state ⟨repetition, operandSize, addressSize, none⟩ := by
    rcases repetition with _ | _ | _ <;> cases operandSize <;> cases addressSize <;>
      cases mode <;> rfl
  cases rex with
  | none => simpa using hlegacy
  | some bits =>
    obtain ⟨w, b⟩ := bits
    refine (PrefixState.ofRun_concat_rex mode _ (rexByte_isRex w b)).trans ?_
    rw [hlegacy]
    cases w <;> cases b <;> rfl

/-- The bytes are prefixes; REX prefixes exist in 64-bit mode only. -/
theorem all_isPrefixByte {mode : Mode} {run : ShortRun} (h : run.rex = none ∨ mode = .bits64) :
    run.bytes.all (isPrefixByte mode) := by
  rw [bytes_eq]
  obtain ⟨repetition, operandSize, addressSize, rex⟩ := run
  have hlegacy : (bytes ⟨repetition, operandSize, addressSize, none⟩).all (isPrefixByte mode) := by
    rcases repetition with _ | _ | _ <;> cases operandSize <;> cases addressSize <;>
      cases mode <;> rfl
  rw [List.all_append, Bool.and_eq_true]
  refine ⟨hlegacy, ?_⟩
  rcases h with hnone | rfl
  · rw [hnone]
    rfl
  · rcases rex with _ | ⟨_ | _, _ | _⟩ <;> rfl

theorem length_bytes_le (run : ShortRun) : run.bytes.length ≤ 4 := by
  obtain ⟨repetition, operandSize, addressSize, rex⟩ := run
  cases repetition <;> cases operandSize <;> cases addressSize <;> cases rex <;> simp [bytes]

end ShortRun

/-! ### Opcodes without an extended prefix -/

/-- The bytes that lead to an opcode map from the primary one. -/
def OpcodeMap.escape : OpcodeMap → List UInt8
  | map0F => [0x0f]
  | map0F38 => [0x0f, 0x38]
  | map0F3A => [0x0f, 0x3a]
  | _ => []

/-- Whether a byte is an opcode of the primary map where the given bytes follow: it is no prefix, no
escape, and does not start an extended prefix. -/
def opensPrimary (mode : Mode) (op : UInt8) (rest : List UInt8) : Bool :=
  !isPrefixByte mode op && op != 0x0f
    && (!(op == 0xc4 || op == 0xc5 || op == 0x62)
      || (mode != .bits64 && !rest.head?.any fun b => (ModRM.mk b).isRegister))
    && (op != 0x8f || !rest.head?.any fun b => decide (8 ≤ (b &&& 0x1f).toNat))

/-- Whether a byte is the opcode in a map that has been escaped to, or needs no escape. -/
def opens (mode : Mode) (map : OpcodeMap) (op : UInt8) (rest : List UInt8) : Bool :=
  match map with
  | .primary => opensPrimary mode op rest
  | .map0F => op != 0x38 && op != 0x3a
  | .map0F38 | .map0F3A => true
  | _ => false

namespace Reader

theorem runOn_opcodeFrom_primary {mode : Mode} {op : UInt8} {s : ReadState}
    (h : opensPrimary mode op s.rest) (hread : s.consumed < maxLength) :
    (opcodeFrom mode op).runOn s = (.ok op, s) := by
  simp only [opensPrimary, Bool.and_eq_true, Bool.or_eq_true, Bool.not_eq_true', bne_iff_ne,
    ne_eq] at h
  obtain ⟨⟨⟨-, hescape⟩, hextended⟩, hxop⟩ := h
  have hno : ∀ {starts : Reader Bool} (rest : Reader Unit), starts.runOn s = (.ok false, s) →
      (extendedOpcode op starts rest).runOn s = (.ok op, s) := by
    intro starts rest hstarts
    rw [extendedOpcode, runOn_bind_of_ok hstarts]
    rfl
  have hstarts : (op == 0xc4 || op == 0xc5 || op == 0x62) = true →
      (startsExtended mode).runOn s = (.ok false, s) := by
    intro hop
    rcases hextended with hnot | ⟨hmode, hregister⟩
    · rw [hop] at hnot
      cases hnot
    · rw [startsExtended, if_neg hmode, runOn_nextIs, if_neg (Nat.not_le.2 hread), hregister]
  rw [opcodeFrom, if_neg hescape]
  split
  · rename_i hop
    exact hno _ (hstarts (by rcases hop with rfl | rfl <;> rfl))
  split
  · rename_i hop
    exact hno _ (hstarts (by rw [hop]; rfl))
  split
  · rename_i hop
    refine hno _ ?_
    rw [startsXop, runOn_nextIs, if_neg (Nat.not_le.2 hread), hxop.resolve_left (not_not_intro hop)]
  · rfl

theorem runOn_opcodeFrom_map0F {mode : Mode} {op : UInt8} {s : ReadState} {rest : List UInt8}
    (hrest : s.rest = op :: rest) (hread : s.consumed < maxLength) (h38 : op ≠ 0x38)
    (h3a : op ≠ 0x3a) :
    (opcodeFrom mode 0x0f).runOn s =
      (.ok op,
        { s with
          rest := rest
          consumed := s.consumed + 1
          prefixes := { s.prefixes with map := .map0F } }) := by
  change escapedOpcode.runOn s = _
  rw [escapedOpcode, runOn_bind_of_ok (runOn_byte_cons hrest hread), if_neg h38, if_neg h3a]
  rfl

/-- The two escapes of two bytes lead to an opcode, whatever it is. -/
theorem runOn_opcodeFrom_escaped {mode : Mode} {map : OpcodeMap} {second op : UInt8}
    (hmap : (map, second) = (.map0F38, 0x38) ∨ (map, second) = (.map0F3A, 0x3a)) {s : ReadState}
    {rest : List UInt8} (hrest : s.rest = second :: op :: rest)
    (hread : s.consumed + 1 < maxLength) :
    (opcodeFrom mode 0x0f).runOn s =
      (.ok op,
        { s with
          rest := rest
          consumed := s.consumed + 2
          prefixes := { s.prefixes with map := map } }) := by
  have hfirst := runOn_byte_cons hrest (Nat.lt_of_succ_lt hread)
  change escapedOpcode.runOn s = _
  rw [escapedOpcode, runOn_bind_of_ok hfirst]
  rcases hmap with h | h <;> cases h
  · exact runOn_byte_cons rfl hread
  · exact runOn_byte_cons rfl hread

/-- Behind a short run and an escape there is an opcode of the map. -/
theorem runOn_opcode_escape {mode : Mode} {run : ShortRun} {map : OpcodeMap} {op : UInt8}
    {rest : List UInt8} (hrun : run.rex = none ∨ mode = .bits64) (hopens : opens mode map op rest) :
    (opcode mode).runOn { rest := run.bytes ++ map.escape ++ op :: rest } =
      (.ok op,
        { rest := rest
          consumed := (run.bytes ++ map.escape).length + 1
          prefixes := { run.state with map := map } }) := by
  have hall := ShortRun.all_isPrefixByte hrun
  have hlength : run.bytes.length + 2 < maxLength :=
    Nat.lt_of_le_of_lt (Nat.add_le_add_right run.length_bytes_le 2) (by decide)
  have hescape : isPrefixByte mode 0x0f = false := by cases mode <;> rfl
  -- The first byte that is no prefix ends the run, be it the opcode or an escape.
  have hstart : ∀ (b : UInt8) (rest : List UInt8), isPrefixByte mode b = false →
      (opcode mode).runOn { rest := run.bytes ++ b :: rest } =
        (opcodeFrom mode b).runOn
          { rest := rest, consumed := run.bytes.length + 1, prefixes := run.state } := by
    intro b rest hb
    rw [runOn_opcode_run hall (by omega) hb, ShortRun.ofRun_bytes]
  cases map with
  | primary =>
    have hopcode : isPrefixByte mode op = false := by
      simp only [opens, opensPrimary, Bool.and_eq_true, Bool.not_eq_true'] at hopens
      exact hopens.1.1.1
    simp only [OpcodeMap.escape, List.append_nil]
    exact (hstart op rest hopcode).trans (runOn_opcodeFrom_primary hopens (by simp; omega))
  | map0F =>
    obtain ⟨h38, h3a⟩ : op ≠ 0x38 ∧ op ≠ 0x3a := by simpa [opens] using hopens
    simp only [OpcodeMap.escape, List.append_assoc, List.singleton_append, List.length_append]
    exact (hstart 0x0f _ hescape).trans (runOn_opcodeFrom_map0F rfl (by simp; omega) h38 h3a)
  | map0F38 =>
    simp only [OpcodeMap.escape, List.append_assoc, List.cons_append, List.nil_append,
      List.length_append]
    exact (hstart 0x0f _ hescape).trans
      (runOn_opcodeFrom_escaped (.inl rfl) rfl (by simp; omega))
  | map0F3A =>
    simp only [OpcodeMap.escape, List.append_assoc, List.cons_append, List.nil_append,
      List.length_append]
    exact (hstart 0x0f _ hescape).trans
      (runOn_opcodeFrom_escaped (.inr rfl) rfl (by simp; omega))
  | xop8 | xop9 | xopA | other _ => cases hopens

end Reader

/-! ### Extended prefixes -/

/-- The number by which an extended prefix selects an opcode map. -/
def OpcodeMap.selector : OpcodeMap → UInt8
  | map0F => 1
  | map0F38 => 2
  | map0F3A => 3
  | xop8 => 8
  | xop9 => 9
  | xopA => 10
  | _ => 0

/-- Whether VEX and EVEX prefixes can select an opcode map. -/
def OpcodeMap.isVex : OpcodeMap → Bool
  | map0F | map0F38 | map0F3A => true
  | _ => false

/-- Whether XOP prefixes can select an opcode map. -/
def OpcodeMap.isXop : OpcodeMap → Bool
  | xop8 | xop9 | xopA => true
  | _ => false

theorem OpcodeMap.vexMap?_selector {map : OpcodeMap} (h : map.isVex) :
    map.selector ≤ 3 ∧ Reader.vexMap? map.selector = some map := by
  cases map <;> first | decide | cases h

theorem OpcodeMap.xopMap?_selector {map : OpcodeMap} (h : map.isXop) :
    Reader.xopMap? map.selector = some map := by
  cases map <;> first | decide | cases h

/-- Whether a mandatory prefix exists. -/
def Mandatory.exists? : Mandatory → Bool
  | other _ => false
  | _ => true

namespace ExtendedConstraint

/-- The low bit of the vector length field that a form needs. -/
def low (c : ExtendedConstraint) : Bool :=
  match c.length with
  | some .v256 => true
  | _ => false

/-- The high bit of the vector length field that a form needs. -/
def high (c : ExtendedConstraint) : Bool :=
  match c.length with
  | some .v512 => true
  | _ => false

end ExtendedConstraint

/-- The VEX prefix with the given fields, and zero for the numbers of registers. -/
def Vex.plain (map : OpcodeMap) (mandatory : Mandatory) (w l : Bool) : Vex :=
  ⟨0b11100000 ||| map.selector,
    (if w then 0b10000000 else 0) ||| 0b01111000 ||| (if l then 0b100 else 0)
      ||| .ofNat mandatory.number⟩

/-- The EVEX prefix with the given fields, and zero for the numbers of registers. Its opmask is k1
or none. -/
def Evex.plain (map : OpcodeMap) (mandatory : Mandatory) (w low high masked : Bool) : Evex :=
  ⟨0b11110000 ||| map.selector,
    (if w then 0b10000000 else 0) ||| 0b01111100 ||| .ofNat mandatory.number,
    (if high then 0b1000000 else 0) ||| (if low then 0b100000 else 0) ||| 0b1000
      ||| (if masked then 0b1 else 0)⟩

section Plain

variable (map : OpcodeMap) (mandatory : Mandatory) (w l low high masked : Bool)

theorem OpcodeMap.selector_mem : map.selector ∈ [(0 : UInt8), 1, 2, 3, 8, 9, 10] := by
  cases map <;> simp [selector]

theorem Vex.p0_plain :
    let v := plain map mandatory w l
    v.r ∧ v.x ∧ v.b ∧ v.mmmmm = map.selector := by
  have hall : [(0 : UInt8), 1, 2, 3, 8, 9, 10].all fun n =>
      let v : Vex := ⟨0b11100000 ||| n, 0⟩
      v.r && (v.x && (v.b && v.mmmmm == n)) := by decide
  have hself := List.all_eq_true.1 hall _ map.selector_mem
  simp only [Bool.and_eq_true, beq_iff_eq] at hself
  exact hself

theorem Vex.p1_plain (h : mandatory.exists?) :
    let v := plain map mandatory w l
    v.w = w ∧ v.vvvv = 15 ∧ v.l = l ∧ .ofNumber v.pp = mandatory := by
  have hclosed : let v := plain .primary mandatory w l
      v.w = w ∧ v.vvvv = 15 ∧ v.l = l ∧ .ofNumber v.pp = mandatory := by
    cases mandatory <;> cases w <;> cases l <;> first | decide | cases h
  exact hclosed

theorem Evex.p0_plain (hmap : map.isVex) :
    let e := plain map mandatory w low high masked
    e.r ∧ e.x ∧ e.b ∧ e.rHigh ∧ e.mm = map.selector ∧ e.reserved = 0 := by
  have hall : [(1 : UInt8), 2, 3].all fun n =>
      let e : Evex := ⟨0b11110000 ||| n, 0, 0⟩
      e.r && (e.x && (e.b && (e.rHigh && (e.mm == n && e.reserved == 0)))) := by decide
  have hmem : map.selector ∈ [(1 : UInt8), 2, 3] := by
    cases map <;> first | decide | cases hmap
  have hself := List.all_eq_true.1 hall _ hmem
  simp only [Bool.and_eq_true, beq_iff_eq] at hself
  exact hself

theorem Evex.p1_plain (h : mandatory.exists?) :
    let e := plain map mandatory w low high masked
    e.w = w ∧ e.vvvv = 15 ∧ e.on ∧ .ofNumber e.pp = mandatory := by
  have hclosed : let e := plain .primary mandatory w false false false
      e.w = w ∧ e.vvvv = 15 ∧ e.on ∧ .ofNumber e.pp = mandatory := by
    cases mandatory <;> cases w <;> first | decide | cases h
  exact hclosed

theorem Evex.p2_plain :
    let e := plain map mandatory w low high masked
    e.z = false ∧ e.lHigh = high ∧ e.l = low ∧ e.broadcast = false ∧ e.vHigh ∧
      e.aaa = if masked then 1 else 0 := by
  have hclosed : let e := plain .primary .none false low high masked
      e.z = false ∧ e.lHigh = high ∧ e.l = low ∧ e.broadcast = false ∧ e.vHigh ∧
        e.aaa = if masked then 1 else 0 := by
    cases low <;> cases high <;> cases masked <;> decide
  exact hclosed

namespace ExtendedPrefix

/-- What a plain VEX or XOP prefix says. -/
theorem vexState_plain (h : mandatory.exists?) (encoding : EncodingKind) (mode : Mode) :
    vexState encoding map mode (.plain map mandatory w l) =
      { encoding := encoding, map := map, mandatory := mandatory, w := w
        l := if l then 1 else 0 } := by
  obtain ⟨hr, hx, hb, -⟩ := Vex.p0_plain map mandatory w l
  obtain ⟨hw, hvvvv, hl, hpp⟩ := Vex.p1_plain map mandatory w l h
  rw [vexState, hr, hx, hb, hw, hvvvv, hl, hpp]
  cases mode <;> rfl

/-- A plain VEX prefix is recognised in every mode. -/
theorem vex_plain (hmap : map.isVex) (h : mandatory.exists?) (mode : Mode) :
    (vex (.plain map mandatory w l)).map? = some map ∧
      (vex (.plain map mandatory w l)).Recognised mode := by
  obtain ⟨hr, hx, -, hselector⟩ := Vex.p0_plain map mandatory w l
  obtain ⟨-, hvvvv, -⟩ := Vex.p1_plain map mandatory w l h
  refine ⟨?_, .inr ⟨hr, hx, fun _ => ?_⟩⟩
  · rw [map?, hselector]
    exact (OpcodeMap.vexMap?_selector hmap).2
  · rw [hvvvv]
    decide

theorem xop_plain (hmap : map.isXop) : (xop (.plain map mandatory w l)).map? = some map := by
  obtain ⟨-, -, -, hselector⟩ := Vex.p0_plain map mandatory w l
  rw [map?, hselector]
  exact OpcodeMap.xopMap?_selector hmap

/-- What a plain EVEX prefix says. -/
theorem evexState_plain (hmap : map.isVex) (h : mandatory.exists?) (mode : Mode) :
    evexState map mode (.plain map mandatory w low high masked) =
      { encoding := .evex, map := map, mandatory := mandatory, w := w
        l := (if high then 2 else 0) + (if low then 1 else 0)
        ll := (if high then 2 else 0) + (if low then 1 else 0)
        opmask := if masked then 1 else 0 } := by
  obtain ⟨hr, hx, hb, hrHigh, -⟩ := Evex.p0_plain map mandatory w low high masked hmap
  obtain ⟨hw, hvvvv, -, hpp⟩ := Evex.p1_plain map mandatory w low high masked h
  obtain ⟨hz, hlHigh, hl, hbroadcast, hvHigh, haaa⟩ :=
    Evex.p2_plain map mandatory w low high masked
  rw [evexState, hr, hx, hb, hrHigh, hw, hvvvv, hpp, hz, hlHigh, hl, hbroadcast, hvHigh, haaa]
  cases mode <;> rfl

/-- A plain EVEX prefix is valid and recognised in every mode. -/
theorem evex_plain (hmap : map.isVex) (h : mandatory.exists?) (mode : Mode) :
    (evex (.plain map mandatory w low high masked)).map? = some map ∧
      (evex (.plain map mandatory w low high masked)).FieldsValid ∧
      (evex (.plain map mandatory w low high masked)).Recognised mode := by
  obtain ⟨hr, hx, -, -, hselector, hreserved⟩ :=
    Evex.p0_plain map mandatory w low high masked hmap
  obtain ⟨-, -, hon, -⟩ := Evex.p1_plain map mandatory w low high masked h
  obtain ⟨hz, -⟩ := Evex.p2_plain map mandatory w low high masked
  refine ⟨?_, ⟨hreserved, hon, fun ⟨hz', _⟩ => ?_⟩, .inr ⟨hr, hx⟩⟩
  · rw [map?, hselector]
    exact (OpcodeMap.vexMap?_selector hmap).2
  · rw [hz] at hz'
    cases hz'

end ExtendedPrefix

end Plain

theorem ExtendedPrefix.length_bytes_le (ext : ExtendedPrefix) : ext.bytes.length ≤ 4 := by
  cases ext with
  | vex v =>
    rw [bytes]
    split <;> simp [Vex.short, Vex.long]
  | xop v => simp [bytes]
  | evex e => simp [bytes, Evex.bytes]

namespace Reader

/-- An opcode behind an extended prefix. -/
theorem runOn_opcode_behind {mode : Mode} {ext : ExtendedPrefix} {map : OpcodeMap}
    (hmap : ext.map? = some map) (hvalid : ext.FieldsValid) (hrecognised : ext.Recognised mode)
    (op : UInt8) (rest : List UInt8) :
    (opcode mode).runOn { rest := ext.bytes ++ op :: rest } =
      (.ok op,
        { rest := rest
          consumed := ext.bytes.length + 1
          prefixes := ext.state map mode }) := by
  have hlength : ext.bytes.length < maxLength :=
    Nat.lt_of_le_of_lt ext.length_bytes_le (by decide)
  rw [runOn_opcode_extended hmap hvalid hrecognised, runOn_byte_cons rfl hlength]

end Reader

end X86Decoder
