import Mathlib.Data.List.Basic
import Mathlib.Data.List.Forall2
import X86Decoder.Form.Spelling
import X86Decoder.Form.Writing
import X86Decoder.Proofs.Bits
import X86Decoder.Proofs.Words

/-!
# Spelled encodings

The encoding column is read by the look of its tokens alone: `66` may be a mandatory prefix or an
opcode, an escape is known by the length of its token, and three kinds of tokens share the place
after the opcode. `Spelling.Writes` says which texts tell an encoding. Its demands are `Demand`s
before the opcode, or `HeaderField`s of an extended prefix, each with the texts that make it, in any
order.

* `ModRMPattern.parse_tokens`: what is demanded of the ModR/M byte is read as it is written.
* `splitMap_opcodeToken`, `LegacyConstraint.demand?_eq_none`: an opcode is read as one.
* `foldl_eq_of_perm`: demands of different kinds commute, so their order does not matter.
* `Spelling.parse_inverts_writes`: reading inverts writing, so no demand is lost, and every order of
  the demands can be written.
-/

namespace X86Decoder

/-! ### Bytes -/

/-- Whether a character is a digit as bytes are written with. -/
def isUpperDigit (c : Char) : Bool :=
  (decide ('0' ≤ c) && decide (c ≤ '9')) || (decide ('A' ≤ c) && decide (c ≤ 'F'))

theorem ne_of_isUpperDigit {c d : Char} (hc : isUpperDigit c = true)
    (hd : isUpperDigit d = false) : c ≠ d := by
  rintro rfl
  rw [hc] at hd
  cases hd

/-- A byte is written as two digits that are read as this byte. -/
theorem exists_byteText (b : UInt8) : ∃ high low, byteText b = String.ofList [high, low] ∧
    isUpperDigit high = true ∧ isUpperDigit low = true ∧ hexByte? [high, low] = some b := by
  have hall := Bits.of_all_bytes (fun b =>
    let digits := (Text.padLeft 2 '0' (Nat.toDigits 16 b.toNat)).map Char.toUpper
    digits.length == 2 && digits.all isUpperDigit && hexByte? digits == some b) (by decide) b
  simp only [Bool.and_eq_true, beq_iff_eq, List.all_eq_true] at hall
  obtain ⟨⟨hlength, hdigits⟩, hbyte⟩ := hall
  obtain ⟨high, low, heq⟩ := List.length_eq_two.1 hlength
  rw [byteText, heq]
  rw [heq] at hdigits hbyte
  simp only [List.mem_cons, List.not_mem_nil, or_false, forall_eq_or_imp, forall_eq] at hdigits
  exact ⟨high, low, rfl, hdigits.1, hdigits.2, hbyte⟩

theorem parseOpcode_byteText (b : UInt8) : parseOpcode (byteText b) = .ok b := by
  obtain ⟨high, low, htext, -, -, hbyte⟩ := exists_byteText b
  rw [parseOpcode, htext, String.toList_ofList, hbyte]

/-! ### The ModR/M byte -/

namespace ModRMPattern

/-- A pattern that can be written: the reg field has three bits. -/
def Writable : ModRMPattern → Prop
  | reg n | registers n => n < 8
  | _ => True

theorem mem_range_of_lt {n : UInt8} (h : n < 8) : n ∈ [0, 1, 2, 3, 4, 5, 6, 7] := by
  have hall := Bits.of_all_bytes (fun n => !decide (n < 8) || decide (n ∈ [0, 1, 2, 3, 4, 5, 6, 7]))
    (by decide) n
  simpa [h] using hall

/-- Two digits tell a byte. -/
theorem parseToken_digits {high low : Char} (hhigh : isUpperDigit high = true) {b : UInt8}
    (hbyte : hexByte? [high, low] = some b) :
    parseToken (String.ofList [high, low]) = .ok (.byte b) := by
  have hsuffix : "+i".toList.isSuffixOf [high, low] = false := by
    have hplus : ('+' == high) = false := beq_false_of_ne (ne_of_isUpperDigit hhigh rfl).symm
    change (('i' == low) && (('+' == high) && true)) = false
    rw [hplus, Bool.false_and, Bool.and_false]
  rw [parseToken, String.toList_ofList]
  split
  · rename_i heq
    exact absurd (List.cons.inj heq).1 (ne_of_isUpperDigit hhigh rfl)
  · rename_i heq
    exact absurd (List.cons.inj heq).1 (ne_of_isUpperDigit hhigh rfl)
  · simp only [hsuffix, Bool.false_eq_true, if_false, hbyte]

/-- Two digits and a mark tell a reg field with registers, from the first register on. -/
theorem parseToken_registers {high low : Char} (hhigh : isUpperDigit high = true) {b : UInt8}
    (hbyte : hexByte? [high, low] = some b)
    (hfirst : (ModRM.mk b).isRegister = true ∧ (ModRM.mk b).rm = 0) :
    parseToken (String.ofList [high, low, '+', 'i']) = .ok (.registers (ModRM.mk b).reg) := by
  have hsuffix : "+i".toList.isSuffixOf [high, low, '+', 'i'] = true := rfl
  have hdigits : [high, low, '+', 'i'].dropLast.dropLast = [high, low] := rfl
  rw [parseToken, String.toList_ofList]
  split
  · rename_i heq
    exact absurd (List.cons.inj heq).1 (ne_of_isUpperDigit hhigh rfl)
  · rename_i heq
    exact absurd (List.cons.inj heq).1 (ne_of_isUpperDigit hhigh rfl)
  · simp only [hsuffix, if_true, hdigits, hbyte, if_pos hfirst]

/-- What is demanded of the ModR/M byte is read as it is written. -/
theorem parse_tokens {p : ModRMPattern} (hp : p.Writable) : parse p.tokens = .ok p := by
  cases p with
  | absent => rfl
  | any => rfl
  | reg n =>
    have hn := mem_range_of_lt hp
    simp only [List.mem_cons, List.not_mem_nil, or_false] at hn
    rcases hn with rfl | rfl | rfl | rfl | rfl | rfl | rfl | rfl <;> rfl
  | byte b =>
    obtain ⟨high, low, htext, hhigh, -, hbyte⟩ := exists_byteText b
    rw [tokens, htext]
    exact parseToken_digits hhigh hbyte
  | registers n =>
    obtain ⟨high, low, htext, hhigh, -, hbyte⟩ := exists_byteText (0xc0 + 8 * n)
    have hall : [0, 1, 2, 3, 4, 5, 6, 7].all (fun n => (ModRM.mk (0xc0 + 8 * n)).isRegister
        && (ModRM.mk (0xc0 + 8 * n)).rm == 0 && (ModRM.mk (0xc0 + 8 * n)).reg == n) = true := by
      decide
    have hfields := List.all_eq_true.1 hall n (mem_range_of_lt hp)
    simp only [Bool.and_eq_true, beq_iff_eq] at hfields
    obtain ⟨hfirst, hreg⟩ := hfields
    have hparse := parseToken_registers hhigh hbyte hfirst
    rw [hreg] at hparse
    rw [tokens, htext, show String.ofList [high, low] ++ "+i" = String.ofList [high, low, '+', 'i']
      from String.ofList_append.symm]
    exact hparse

end ModRMPattern

/-! ### Demands on the prefixes -/

/-- What a token before the opcode demands. -/
inductive Demand where
  | addressSize (size : WordSize)
  | operandSize (size : WordSize)
  | noMandatory
  | mandatory (m : Mandatory)
  | rex (r : Requirement)
  | rexB (r : Requirement)
deriving DecidableEq

namespace Demand

/-- The tokens that make a demand. -/
def texts : Demand → List String
  | addressSize .w16 => ["a16"]
  | addressSize .w32 => ["a32"]
  | operandSize .w16 => ["o16"]
  | operandSize .w32 => ["o32"]
  | operandSize .w64 => ["o64"]
  | noMandatory => ["NP"]
  | mandatory .p66 => ["66"]
  | mandatory .pF3 => ["F3"]
  | mandatory .pF2 => ["F2"]
  | rex .set => ["REX"]
  | rex .clear => ["noREX"]
  | rexB .set => ["REX.B"]
  | rexB .clear => ["noREX.B"]
  | _ => []

/-- The constraint with a demand added. -/
def impose (c : LegacyConstraint) : Demand → LegacyConstraint
  | addressSize size => { c with addressSize := some size }
  | operandSize size => { c with operandSize := some size }
  | noMandatory => { c with noMandatory := true }
  | mandatory m => { c with mandatory := m }
  | rex r => { c with rex := r }
  | rexB r => { c with rexB := r }

theorem demand?_of_mem_texts {d : Demand} {text : String} (h : text ∈ d.texts)
    (c : LegacyConstraint) : c.demand? text = some (impose c d) := by
  rw [texts.eq_def] at h
  split at h
  case h_14 => cases h
  all_goals
    rw [List.mem_singleton.1 h]
    rfl

theorem impose_comm {d e : Demand} (h : d.ctorIdx ≠ e.ctorIdx) (c : LegacyConstraint) :
    impose (impose c d) e = impose (impose c e) d := by
  cases d <;> cases e <;> simp_all [impose, Demand.ctorIdx]

end Demand

namespace LegacyConstraint

/-- The demands that a constraint makes. -/
def demands (c : LegacyConstraint) : List Demand :=
  c.addressSize.toList.map .addressSize ++ c.operandSize.toList.map .operandSize
    ++ (if c.noMandatory then [.noMandatory] else [])
    ++ (if c.mandatory = .none then [] else [.mandatory c.mandatory])
    ++ (if c.rex = .any then [] else [.rex c.rex])
    ++ (if c.rexB = .any then [] else [.rexB c.rexB])

theorem foldl_impose_demands (c : LegacyConstraint) : c.demands.foldl Demand.impose {} = c := by
  obtain ⟨a, o, m, n, r, b⟩ := c
  have haddress : (a.toList.map .addressSize).foldl Demand.impose {} = { addressSize := a } := by
    cases a <;> rfl
  have hoperand : (o.toList.map .operandSize).foldl Demand.impose { addressSize := a }
      = { addressSize := a, operandSize := o } := by
    cases o <;> rfl
  simp only [demands, List.foldl_append, haddress, hoperand]
  -- the sizes are left as they are: only the finite fields are split
  cases n <;> cases m <;> cases r <;> cases b <;> rfl

/-- A demand is one that the constraint makes. -/
def Makes (c : LegacyConstraint) : Demand → Prop
  | .addressSize size => c.addressSize = some size
  | .operandSize size => c.operandSize = some size
  | .noMandatory => c.noMandatory = true
  | .mandatory m => c.mandatory = m ∧ m ≠ .none
  | .rex r => c.rex = r ∧ r ≠ .any
  | .rexB r => c.rexB = r ∧ r ≠ .any

theorem makes_of_mem_demands {c : LegacyConstraint} {d : Demand} (h : d ∈ c.demands) :
    c.Makes d := by
  cases d <;> simp_all [demands, Makes]

/-- A constraint makes at most one demand of each kind. -/
theorem eq_of_mem_demands {c : LegacyConstraint} {d e : Demand} (hd : d ∈ c.demands)
    (he : e ∈ c.demands) (h : d.ctorIdx = e.ctorIdx) : d = e := by
  have hd := makes_of_mem_demands hd
  have he := makes_of_mem_demands he
  cases d <;> cases e <;> simp_all [Makes, Demand.ctorIdx]

/-- A constraint whose demands can all be written. -/
def Writable (c : LegacyConstraint) : Prop :=
  c.addressSize ≠ some .w64 ∧ c.mandatory ∈ [.none, .p66, .pF3, .pF2]

theorem Writable.texts_ne_nil {c : LegacyConstraint} (hc : c.Writable) {d : Demand}
    (h : d ∈ c.demands) : d.texts ≠ [] := by
  have hmakes := makes_of_mem_demands h
  obtain ⟨haddress, hmandatory⟩ := hc
  cases d with
  | addressSize size => cases size <;> simp_all [Makes, Demand.texts]
  | operandSize size => cases size <;> simp [Demand.texts]
  | noMandatory => simp [Demand.texts]
  | mandatory m => cases m <;> simp_all [Makes, Demand.texts]
  | rex r => cases r <;> simp_all [Makes, Demand.texts]
  | rexB r => cases r <;> simp_all [Makes, Demand.texts]

end LegacyConstraint

/-! ### Tokens -/

/-- Text that is one word. -/
def IsToken (token : String) : Prop :=
  token ≠ "" ∧ token.toList.all (fun c => !Text.isBlank c) = true

instance (token : String) : Decidable (IsToken token) :=
  inferInstanceAs (Decidable (_ ∧ _))

theorem IsToken.append {s t : String} (hs : IsToken s) (ht : IsToken t) : IsToken (s ++ t) := by
  refine ⟨fun h => hs.1 (String.append_eq_empty_iff.1 h).1, ?_⟩
  rw [String.toList_append, List.all_append, hs.2, ht.2]
  rfl

theorem words_intercalate_of_isToken {tokens : List String}
    (h : ∀ token ∈ tokens, IsToken token) : Text.words (" ".intercalate tokens) = tokens :=
  Text.words_intercalate fun token htoken => ⟨(h token htoken).1, by
    simpa only [List.all_eq_true, Bool.not_eq_true'] using (h token htoken).2⟩

theorem isBlank_of_isUpperDigit {c : Char} (h : isUpperDigit c = true) :
    Text.isBlank c = false := by
  simp only [isUpperDigit, Bool.or_eq_true, Bool.and_eq_true, decide_eq_true_eq, Char.le_def,
    UInt32.le_iff_toNat_le] at h
  change 0x30 ≤ c.toNat ∧ c.toNat ≤ 0x39 ∨ 0x41 ≤ c.toNat ∧ c.toNat ≤ 0x46 at h
  simp only [Text.isBlank, Bool.or_eq_false_iff, Bool.and_eq_false_iff, decide_eq_false_iff_not,
    beq_eq_false_iff_ne]
  omega

/-- Text of digits. -/
def IsDigits (token : String) : Prop :=
  token.toList.all isUpperDigit = true

instance (token : String) : Decidable (IsDigits token) :=
  inferInstanceAs (Decidable (_ = _))

theorem IsDigits.isToken {token : String} (h : IsDigits token) (hne : token ≠ "") :
    IsToken token := by
  rw [IsDigits, List.all_eq_true] at h
  refine ⟨hne, List.all_eq_true.2 fun c hc => ?_⟩
  rw [isBlank_of_isUpperDigit (h c hc)]
  rfl

/-! ### The opcode token -/

/-- What an opcode token starts with to tell the opcode map. -/
def OpcodeMap.escapeText (map : OpcodeMap) : String :=
  if map = .primary then "" else map.name

/-- The token of an opcode without an extended prefix. -/
def opcodeToken (map : OpcodeMap) (opcode : UInt8) : String :=
  map.escapeText ++ byteText opcode

/-- The opcode maps that an opcode token can tell. -/
def legacyMaps : List OpcodeMap :=
  [.primary, .map0F, .map0F38, .map0F3A]

theorem isDigits_byteText (b : UInt8) : IsDigits (byteText b) := by
  obtain ⟨high, low, htext, hhigh, hlow, -⟩ := exists_byteText b
  rw [IsDigits, htext, String.toList_ofList, List.all_cons, List.all_cons, hhigh, hlow]
  rfl

theorem isDigits_opcodeToken {map : OpcodeMap} (hmap : map ∈ legacyMaps) (opcode : UInt8) :
    IsDigits (opcodeToken map opcode) := by
  have hescapes : ∀ map ∈ legacyMaps, IsDigits map.escapeText := by decide
  rw [IsDigits, opcodeToken, String.toList_append, List.all_append, hescapes map hmap,
    isDigits_byteText opcode]
  rfl

theorem utf8ByteSize_byteText (b : UInt8) : (byteText b).utf8ByteSize = 2 := by
  have hsize : ∀ {c : Char}, isUpperDigit c = true → c.utf8Size = 1 := by
    intro c hc
    rw [Char.utf8Size_eq_one_iff]
    simp only [isUpperDigit, Bool.or_eq_true, Bool.and_eq_true, decide_eq_true_eq] at hc
    rcases hc with ⟨-, hc⟩ | ⟨-, hc⟩
    · exact UInt32.le_trans hc (by decide)
    · exact UInt32.le_trans hc (by decide)
  obtain ⟨high, low, htext, hhigh, hlow, -⟩ := exists_byteText b
  rw [htext, String.ofList_cons, String.utf8ByteSize_append, String.utf8ByteSize_singleton,
    ← String.singleton_eq_ofList, String.utf8ByteSize_singleton, hsize hhigh, hsize hlow]

theorem byteText_ne_empty (b : UInt8) : byteText b ≠ "" := by
  intro h
  have hsize := utf8ByteSize_byteText b
  rw [h] at hsize
  cases hsize

theorem isToken_byteText (b : UInt8) : IsToken (byteText b) :=
  (isDigits_byteText b).isToken (byteText_ne_empty b)

theorem isToken_opcodeToken {map : OpcodeMap} (hmap : map ∈ legacyMaps) (opcode : UInt8) :
    IsToken (opcodeToken map opcode) :=
  (isDigits_opcodeToken hmap opcode).isToken fun h =>
    byteText_ne_empty opcode (String.append_eq_empty_iff.1 h).2

theorem ModRMPattern.isToken_of_mem_tokens {p : ModRMPattern} (hp : p.Writable) {token : String}
    (h : token ∈ p.tokens) : IsToken token := by
  cases p with
  | absent => cases h
  | any =>
    rw [List.mem_singleton.1 h]
    decide
  | reg n =>
    have hn := mem_range_of_lt hp
    simp only [List.mem_cons, List.not_mem_nil, or_false] at hn
    rw [List.mem_singleton.1 h]
    rcases hn with rfl | rfl | rfl | rfl | rfl | rfl | rfl | rfl <;> decide
  | byte b =>
    rw [List.mem_singleton.1 h]
    exact isToken_byteText b
  | registers n =>
    rw [List.mem_singleton.1 h]
    exact (isToken_byteText _).append (by decide)

theorem utf8ByteSize_opcodeToken (map : OpcodeMap) (opcode : UInt8) :
    (opcodeToken map opcode).utf8ByteSize = map.escapeText.utf8ByteSize + 2 := by
  rw [opcodeToken, String.utf8ByteSize_append, utf8ByteSize_byteText]

theorem startsWith_opcodeToken (map : OpcodeMap) (opcode : UInt8) (start : String) :
    (opcodeToken map opcode).startsWith start = true ↔
      start.toList <+: map.escapeText.toList ++ (byteText opcode).toList := by
  rw [String.startsWith_string_iff, opcodeToken, String.toList_append]

theorem drop_opcodeToken (map : OpcodeMap) (opcode : UInt8) :
    String.ofList ((opcodeToken map opcode).toList.drop map.escapeText.toList.length)
      = byteText opcode := by
  rw [opcodeToken, String.toList_append, List.drop_left, String.ofList_toList]

/-- The map is told by how the token starts and how long it is. -/
theorem splitMap_opcodeToken {map : OpcodeMap} (hmap : map ∈ legacyMaps) (opcode : UInt8) :
    splitMap (opcodeToken map opcode) = (map, byteText opcode) := by
  have hsize := utf8ByteSize_opcodeToken map opcode
  have hstart := startsWith_opcodeToken map opcode
  have hrest := drop_opcodeToken map opcode
  simp only [legacyMaps, List.mem_cons, List.not_mem_nil, or_false] at hmap
  rw [splitMap]
  rcases hmap with rfl | rfl | rfl | rfl
  · change _ = 2 at hsize
    simp only [hsize, Nat.reduceBEq, Bool.and_false, Bool.false_eq_true, if_false]
    exact congrArg (Prod.mk _) String.empty_append
  · change _ = 4 at hsize
    simp only [hsize, (hstart "0F").2 (List.prefix_append _ _), Nat.reduceBEq, Bool.and_false,
      Bool.and_true, Bool.false_eq_true, if_false, if_true]
    exact congrArg (Prod.mk _) hrest
  · change _ = 6 at hsize
    simp only [hsize, (hstart "0F38").2 (List.prefix_append _ _), BEq.rfl, Bool.and_true, if_true]
    exact congrArg (Prod.mk _) hrest
  · change _ = 6 at hsize
    -- the two long escapes differ in their last digit, and the other one is tried first
    have hother : ¬(opcodeToken .map0F3A opcode).startsWith "0F38" = true := by
      rw [hstart]
      simp [OpcodeMap.escapeText, OpcodeMap.name]
    simp only [hsize, hother, (hstart "0F3A").2 (List.prefix_append _ _), BEq.rfl, Bool.and_true,
      Bool.false_eq_true, if_false, if_true]
    exact congrArg (Prod.mk _) hrest

/-- An opcode is no mandatory prefix. -/
theorem opcodeToken_not_mem {map : OpcodeMap} (hmap : map ∈ legacyMaps) {opcode : UInt8}
    (hopcode : map = .primary → opcode ∉ [0x66, 0xf3, 0xf2]) :
    opcodeToken map opcode ∉ ["66", "F3", "F2"] := by
  intro hmem
  have hbytes : ∀ token ∈ ["66", "F3", "F2"], token.utf8ByteSize = 2 ∧
      [0x66, 0xf3, 0xf2].any (fun b => parseOpcode token = .ok b) = true := by decide
  obtain ⟨hsize, hany⟩ := hbytes _ hmem
  obtain ⟨b, hb, hparse⟩ := List.any_eq_true.1 hany
  -- two digits leave no room for an escape
  have hescapes : ∀ map ∈ legacyMaps, map.escapeText.utf8ByteSize + 2 = 2 → map = .primary := by
    decide
  rw [utf8ByteSize_opcodeToken] at hsize
  obtain rfl := hescapes map hmap hsize
  rw [decide_eq_true_eq, opcodeToken, OpcodeMap.escapeText, if_pos rfl, String.empty_append,
    parseOpcode_byteText, Except.ok.injEq] at hparse
  exact hopcode rfl (hparse ▸ hb)

namespace LegacyConstraint

/-- Digits are a demand only where they are those of a mandatory prefix. -/
theorem demand?_eq_none {token : String} (hdigits : IsDigits token)
    (hne : token ∉ ["66", "F3", "F2"]) (c : LegacyConstraint) : c.demand? token = none := by
  unfold demand?
  split
  case h_14 => rfl
  -- any other demand has a character that is no digit
  all_goals
    exfalso
    revert hdigits hne
    decide

/-- The demands before the opcode are all read. -/
theorem parse_append {texts : List String} {demands : List Demand}
    (h : List.Forall₂ (fun text d => text ∈ d.texts) texts demands) (c : LegacyConstraint)
    {token : String} (htoken : ∀ c : LegacyConstraint, c.demand? token = none)
    (rest : List String) :
    parse c (texts ++ token :: rest) = (demands.foldl Demand.impose c, token :: rest) := by
  induction h generalizing c with
  | nil =>
    rw [List.nil_append, parse, htoken]
    rfl
  | cons hmem _ ih =>
    rw [List.cons_append, parse, Demand.demand?_of_mem_texts hmem]
    exact ih _

end LegacyConstraint

/-! ### The token of an extended prefix -/

/-- What a part of the token of an extended prefix tells. -/
inductive HeaderField where
  /-- How the operands are combined. -/
  | combination
  | length (length : Option VectorLength)
  | mandatory (m : Mandatory)
  | map (map : OpcodeMap)
  | w (r : Requirement)
deriving DecidableEq

namespace HeaderField

/-- The parts that tell it. -/
def texts : HeaderField → List String
  | combination => ["NDS", "NDD", "DDS"]
  | length (some .v128) => ["128", "L0", "LZ"]
  | length (some .v256) => ["256", "L1"]
  | length (some .v512) => ["512"]
  | length none => ["LIG"]
  | mandatory .p66 => ["66"]
  | mandatory .pF3 => ["F3"]
  | mandatory .pF2 => ["F2"]
  | map .map0F => ["0F"]
  | map .map0F38 => ["0F38"]
  | map .map0F3A => ["0F3A"]
  | map .xop8 => ["X8"]
  | map .xop9 => ["X9"]
  | map .xopA => ["XA"]
  | w .clear => ["W0"]
  | w .set => ["W1"]
  | w .any => ["WIG"]
  | _ => []

/-- The header with a field set. -/
def impose (h : ExtendedHeader) : HeaderField → ExtendedHeader
  | combination => h
  | length l => { h with constraint := { h.constraint with length := l } }
  | mandatory m => { h with constraint := { h.constraint with mandatory := m } }
  | map m => { h with map := some m }
  | w r => { h with constraint := { h.constraint with w := r } }

theorem part?_of_mem_texts {field : HeaderField} {text : String} (hmem : text ∈ field.texts)
    (h : ExtendedHeader) : h.part? text = some (impose h field) := by
  rw [texts.eq_def] at hmem
  split at hmem
  case h_18 => cases hmem
  all_goals
    simp only [List.mem_cons, List.not_mem_nil, or_false] at hmem
    rcases hmem with rfl | rfl | rfl <;> rfl

theorem impose_comm {a b : HeaderField} (hne : a.ctorIdx ≠ b.ctorIdx) (h : ExtendedHeader) :
    impose (impose h a) b = impose (impose h b) a := by
  cases a <;> cases b <;> simp_all [impose, HeaderField.ctorIdx]

theorem isToken_of_mem_texts {field : HeaderField} {text : String} (h : text ∈ field.texts) :
    IsToken text ∧ '.' ∉ text.toList := by
  revert text
  rw [texts.eq_def]
  split <;> decide

/-- The opcode maps that an extended prefix can tell. -/
def extendedMaps : List OpcodeMap :=
  [.map0F, .map0F38, .map0F3A, .xop8, .xop9, .xopA]

/-- The parts of a header with a map field and at most one field each for the length, the mandatory
prefix and the W bit. -/
def all (combinations : Nat) (length : Option (Option VectorLength)) (mandatory : Option Mandatory)
    (map : OpcodeMap) (w : Option Requirement) : List HeaderField :=
  List.replicate combinations .combination ++ length.toList.map .length
    ++ mandatory.toList.map .mandatory ++ [.map map] ++ w.toList.map .w

theorem foldl_impose_all (combinations : Nat) (length : Option (Option VectorLength))
    (mandatory : Option Mandatory) (map : OpcodeMap) (w : Option Requirement) :
    (all combinations length mandatory map w).foldl impose {}
      = ⟨⟨mandatory.getD .none, w.getD .any, length.join⟩, some map⟩ := by
  have hcombinations : (List.replicate combinations combination).foldl impose {} = {} := by
    induction combinations with
    | zero => rfl
    | succ n ih => exact ih
  simp only [all, List.foldl_append, hcombinations]
  cases length <;> cases mandatory <;> cases w <;> rfl

theorem eq_of_mem_all {combinations : Nat} {length : Option (Option VectorLength)}
    {mandatory : Option Mandatory} {map : OpcodeMap} {w : Option Requirement} {a b : HeaderField}
    (ha : a ∈ all combinations length mandatory map w)
    (hb : b ∈ all combinations length mandatory map w) (h : a.ctorIdx = b.ctorIdx) : a = b := by
  cases a <;> cases b <;> simp_all [all, HeaderField.ctorIdx]

theorem texts_ne_nil {combinations : Nat} {length : Option (Option VectorLength)}
    {mandatory : Option Mandatory} {map : OpcodeMap} {w : Option Requirement}
    (hmandatory : ∀ m ∈ mandatory, m ∈ [.p66, .pF3, .pF2]) (hmap : map ∈ extendedMaps)
    {field : HeaderField} (h : field ∈ all combinations length mandatory map w) :
    field.texts ≠ [] := by
  cases field with
  | combination => simp [texts]
  | length l =>
    cases l with
    | none => simp [texts]
    | some l => cases l <;> simp [texts]
  | mandatory m => cases m <;> simp_all [all, texts]
  | map m =>
    obtain rfl : m = map := by simpa [all] using h
    cases m <;> simp_all [extendedMaps, texts]
  | w r => cases r <;> simp [texts]

end HeaderField

/-- The parts of a header are all read. -/
theorem ExtendedHeader.parse_of_forall₂ {parts : List String} {fields : List HeaderField}
    (h : List.Forall₂ (fun part field => part ∈ field.texts) parts fields) (kind : String)
    (header : ExtendedHeader) :
    parse kind header parts = .ok (fields.foldl HeaderField.impose header) := by
  induction h generalizing header with
  | nil => rfl
  | cons hmem _ ih =>
    rw [parse, HeaderField.part?_of_mem_texts hmem]
    exact ih _

/-! ### Spelled encodings -/

/-- Where steps commute unless they are of one kind, and the list has one step of each kind, the
order of the list does not matter. -/
theorem foldl_eq_of_perm {σ ι : Type} {f : σ → ι → σ} {kind : ι → Nat}
    (hcomm : ∀ {x y}, kind x ≠ kind y → ∀ s, f (f s x) y = f (f s y) x) {l l' : List ι}
    (hkind : ∀ {x y}, x ∈ l' → y ∈ l' → kind x = kind y → x = y) (h : l.Perm l') (s : σ) :
    l.foldl f s = l'.foldl f s := by
  refine h.foldl_eq' (fun x hx y hy s => ?_) s
  by_cases hxy : kind x = kind y
  · -- two steps of one kind are the same step
    rw [hkind (h.subset hx) (h.subset hy) hxy]
  · exact hcomm hxy s

/-- The token of an extended prefix. -/
def headerToken (kind : String) (parts : List String) : String :=
  ".".intercalate (kind :: parts)

theorem isToken_headerToken {kind : String} (hkind : IsToken kind) {parts : List String}
    (hparts : ∀ part ∈ parts, IsToken part) : IsToken (headerToken kind parts) := by
  induction parts generalizing kind with
  | nil => exact hkind
  | cons part parts ih =>
    rw [List.forall_mem_cons] at hparts
    rw [headerToken, String.intercalate_cons_cons]
    exact (hkind.append (by decide)).append (ih hparts.1 hparts.2)

namespace Spelling

/-- The kinds of extended prefixes by name. -/
def extendedKinds : List (String × (ExtendedConstraint → Constraint)) :=
  [("VEX", .vex), ("EVEX", .evex), ("XOP", .xop)]

/-- The text tells what is demanded: in tokens before the opcode or as parts of a header, in any
order. -/
inductive Writes : String → Spelling → Prop where
  | legacy {c : LegacyConstraint} {map : OpcodeMap} {opcode : UInt8} {modrm : ModRMPattern}
      {demands : List Demand} {texts : List String} (horder : demands.Perm c.demands)
      (htexts : List.Forall₂ (fun text d => text ∈ d.texts) texts demands)
      (hmap : map ∈ legacyMaps) (hopcode : map = .primary → opcode ∉ [0x66, 0xf3, 0xf2])
      (hmodrm : modrm.Writable) :
      Writes (" ".intercalate (texts ++ opcodeToken map opcode :: modrm.tokens))
        ⟨.legacy c, map, opcode, modrm⟩
  | extended {kind : String} {make : ExtendedConstraint → Constraint} {combinations : Nat}
      {length : Option (Option VectorLength)} {mandatory : Option Mandatory} {map : OpcodeMap}
      {w : Option Requirement} {opcode : UInt8} {modrm : ModRMPattern} {fields : List HeaderField}
      {parts : List String} (hkind : (kind, make) ∈ extendedKinds)
      (horder : fields.Perm (HeaderField.all combinations length mandatory map w))
      (hparts : List.Forall₂ (fun part field => part ∈ field.texts) parts fields)
      (hmodrm : modrm.Writable) :
      Writes (" ".intercalate (headerToken kind parts :: byteText opcode :: modrm.tokens))
        ⟨make ⟨mandatory.getD .none, w.getD .any, length.join⟩, map, opcode, modrm⟩

/-- A first token that names no extended prefix. -/
def StartsLegacy (token : String) : Prop :=
  (Text.split '.' token).head? ∉ [some "VEX", some "EVEX", some "XOP"]

instance (token : String) : Decidable (StartsLegacy token) :=
  inferInstanceAs (Decidable (¬_))

theorem parse_eq_parseLegacy {text first : String} {rest : List String}
    (hwords : Text.words text = first :: rest) (hfirst : StartsLegacy first) :
    parse text = parseLegacy (first :: rest) := by
  rw [StartsLegacy] at hfirst
  rw [parse, hwords]
  dsimp only
  split
  case h_4 => rfl
  all_goals
    rename_i heq
    rw [heq] at hfirst
    exact absurd hfirst (by decide)

theorem startsLegacy_of_mem_texts {d : Demand} {text : String} (h : text ∈ d.texts) :
    IsToken text ∧ StartsLegacy text := by
  revert text
  rw [Demand.texts.eq_def]
  split <;> decide

theorem startsLegacy_of_isDigits {token : String} (h : IsDigits token) : StartsLegacy token := by
  rw [IsDigits, List.all_eq_true] at h
  have hdot : ∀ part ∈ [token], '.' ∉ part.toList := by
    intro part hpart hmem
    rw [List.mem_singleton.1 hpart] at hmem
    exact absurd (h '.' hmem) (by decide)
  have hsplit := Text.split_intercalate (List.cons_ne_nil _ _) hdot
  rw [String.intercalate_singleton] at hsplit
  rw [StartsLegacy, hsplit, List.head?_cons]
  intro hmem
  simp only [List.mem_cons, List.not_mem_nil, or_false, Option.some.injEq] at hmem
  -- each of the names has an X, which is no digit
  rcases hmem with rfl | rfl | rfl <;> exact absurd (h 'X' (by decide)) (by decide)

theorem parse_legacy {c : LegacyConstraint} {map : OpcodeMap} {opcode : UInt8}
    {modrm : ModRMPattern} {demands : List Demand} {texts : List String}
    (horder : demands.Perm c.demands)
    (htexts : List.Forall₂ (fun text d => text ∈ d.texts) texts demands)
    (hmap : map ∈ legacyMaps) (hopcode : map = .primary → opcode ∉ [0x66, 0xf3, 0xf2])
    (hmodrm : modrm.Writable) :
    parseLegacy (texts ++ opcodeToken map opcode :: modrm.tokens)
      = .ok ⟨.legacy c, map, opcode, modrm⟩ := by
  have hfold : demands.foldl Demand.impose {} = c :=
    (foldl_eq_of_perm Demand.impose_comm LegacyConstraint.eq_of_mem_demands horder {}).trans
      c.foldl_impose_demands
  have hparse := LegacyConstraint.parse_append htexts {} (LegacyConstraint.demand?_eq_none
    (isDigits_opcodeToken hmap opcode) (opcodeToken_not_mem hmap hopcode)) modrm.tokens
  rw [hfold] at hparse
  rw [parseLegacy, hparse]
  dsimp only
  rw [splitMap_opcodeToken hmap]
  dsimp only
  rw [parseOpcode_byteText, ModRMPattern.parse_tokens hmodrm]
  rfl

theorem parse_eq_parseExtended {text kind : String} {make : ExtendedConstraint → Constraint}
    (hkind : (kind, make) ∈ extendedKinds) {parts rest : List String}
    (hparts : ∀ part ∈ parts, '.' ∉ part.toList)
    (hwords : Text.words text = headerToken kind parts :: rest) :
    Text.split '.' (headerToken kind parts) = kind :: parts ∧
      parse text = parseExtended kind make (headerToken kind parts) rest := by
  simp only [extendedKinds, List.mem_cons, List.not_mem_nil, or_false, Prod.mk.injEq] at hkind
  have hsplit : Text.split '.' (headerToken kind parts) = kind :: parts := by
    refine Text.split_intercalate (List.cons_ne_nil _ _) (List.forall_mem_cons.2 ⟨?_, hparts⟩)
    rcases hkind with ⟨rfl, -⟩ | ⟨rfl, -⟩ | ⟨rfl, -⟩ <;> decide
  refine ⟨hsplit, ?_⟩
  rw [parse, hwords]
  dsimp only
  rw [hsplit, List.head?_cons]
  rcases hkind with ⟨rfl, rfl⟩ | ⟨rfl, rfl⟩ | ⟨rfl, rfl⟩ <;> rfl

theorem parse_extended {kind : String} {make : ExtendedConstraint → Constraint}
    {combinations : Nat} {length : Option (Option VectorLength)} {mandatory : Option Mandatory}
    {map : OpcodeMap} {w : Option Requirement} {opcode : UInt8} {modrm : ModRMPattern}
    {fields : List HeaderField} {parts : List String}
    (horder : fields.Perm (HeaderField.all combinations length mandatory map w))
    (hparts : List.Forall₂ (fun part field => part ∈ field.texts) parts fields)
    (hmodrm : modrm.Writable)
    (hsplit : Text.split '.' (headerToken kind parts) = kind :: parts) :
    parseExtended kind make (headerToken kind parts) (byteText opcode :: modrm.tokens)
      = .ok ⟨make ⟨mandatory.getD .none, w.getD .any, length.join⟩, map, opcode, modrm⟩ := by
  have hfold := (foldl_eq_of_perm HeaderField.impose_comm HeaderField.eq_of_mem_all horder
    {}).trans (HeaderField.foldl_impose_all combinations length mandatory map w)
  have hheader := ExtendedHeader.parse_of_forall₂ hparts kind {}
  rw [hfold] at hheader
  rw [parseExtended, hsplit, List.drop_succ_cons, List.drop_zero, hheader]
  simp only [bind, Except.bind, parseOpcode_byteText, ModRMPattern.parse_tokens hmodrm]
  rfl

theorem forall_mem_of_forall₂ {ι : Type} {texts : ι → List String} {p : String → Prop}
    (hp : ∀ {item text}, text ∈ texts item → p text) {l : List String} {items : List ι}
    (h : List.Forall₂ (fun text item => text ∈ texts item) l items) : ∀ text ∈ l, p text :=
  ((List.forall₂_and_left l items).1 (h.imp fun _ _ hmem => ⟨hp hmem, hmem⟩)).1

/-- What is written is read. -/
theorem parse_of_writes {text : String} {s : Spelling} (h : Writes text s) :
    parse text = .ok s := by
  cases h with
  | @legacy c map opcode modrm demands texts horder htexts hmap hopcode hmodrm =>
    have hstart := forall_mem_of_forall₂ startsLegacy_of_mem_texts htexts
    have hwords := words_intercalate_of_isToken (List.forall_mem_append.2
      ⟨fun text htext => (hstart text htext).1, List.forall_mem_cons.2
        ⟨isToken_opcodeToken hmap opcode, fun _ => ModRMPattern.isToken_of_mem_tokens hmodrm⟩⟩)
    rw [← parse_legacy horder htexts hmap hopcode hmodrm]
    -- the first token is a demand, or the opcode if there is none
    cases texts with
    | nil =>
      exact parse_eq_parseLegacy hwords
        (startsLegacy_of_isDigits (isDigits_opcodeToken hmap opcode))
    | cons first texts => exact parse_eq_parseLegacy hwords (hstart first List.mem_cons_self).2
  | @extended kind make combinations length mandatory map w opcode modrm fields parts hkind horder
      hparts hmodrm =>
    have htokens := forall_mem_of_forall₂ HeaderField.isToken_of_mem_texts hparts
    have hname : ∀ entry ∈ extendedKinds, IsToken entry.1 := by
      rw [extendedKinds]
      simp only [List.forall_mem_cons]
      decide
    have hheader := isToken_headerToken (hname _ hkind) fun part hpart => (htokens part hpart).1
    have hwords := words_intercalate_of_isToken (List.forall_mem_cons.2
      ⟨hheader, List.forall_mem_cons.2
        ⟨isToken_byteText opcode, fun _ => ModRMPattern.isToken_of_mem_tokens hmodrm⟩⟩)
    obtain ⟨hsplit, hparse⟩ := parse_eq_parseExtended hkind
      (fun part hpart => (htokens part hpart).2) hwords
    rw [hparse]
    exact parse_extended horder hparts hmodrm hsplit

theorem exists_forall₂ {ι : Type} {texts : ι → List String} {items : List ι}
    (h : ∀ item ∈ items, texts item ≠ []) :
    ∃ l, List.Forall₂ (fun text item => text ∈ texts item) l items := by
  induction items with
  | nil => exact ⟨[], .nil⟩
  | cons item items ih =>
    rw [List.forall_mem_cons] at h
    obtain ⟨text, htext⟩ := List.exists_mem_of_ne_nil _ h.1
    obtain ⟨l, hl⟩ := ih h.2
    exact ⟨text :: l, .cons htext hl⟩

/-- The encoding column loses no demand and does not depend on the order of its tokens. -/
theorem parse_inverts_writes :
    (∀ {text s}, Writes text s → parse text = .ok s) ∧
    (∀ {text text' s s'}, Writes text s → Writes text' s' → parse text = parse text' → s = s') ∧
    (∀ {c : LegacyConstraint}, c.Writable → ∀ {demands}, demands.Perm c.demands →
      ∃ texts, List.Forall₂ (fun text d => text ∈ d.texts) texts demands) ∧
    (∀ {combinations length mandatory map w},
      (∀ m ∈ (mandatory : Option Mandatory), m ∈ [.p66, .pF3, .pF2]) →
      map ∈ HeaderField.extendedMaps → ∀ {fields},
      fields.Perm (HeaderField.all combinations length mandatory map w) →
      ∃ parts, List.Forall₂ (fun part field => part ∈ field.texts) parts fields) := by
  refine ⟨parse_of_writes, ?_, ?_, ?_⟩
  · intro text text' s s' h h' heq
    rw [parse_of_writes h, parse_of_writes h', Except.ok.injEq] at heq
    exact heq
  · intro c hc demands horder
    exact exists_forall₂ fun d hd => hc.texts_ne_nil (horder.subset hd)
  · intro combinations length mandatory map w hmandatory hmap fields horder
    exact exists_forall₂ fun field hfield =>
      HeaderField.texts_ne_nil hmandatory hmap (horder.subset hfield)

/-- Two texts that list their demands in another order than the rows of the table. -/
theorem parse_inverts_writes_reordered :
    parse "REX.B o16 0F66 C8+i"
      = .ok ⟨.legacy { operandSize := some .w16, rexB := .set }, .map0F, 0x66, .registers 1⟩ ∧
    parse "EVEX.W1.NDS.0F38.66.512 F3 /2"
      = .ok ⟨.evex ⟨.p66, .set, some .v512⟩, .map0F38, 0xf3, .reg 2⟩ := by
  have hdemands : [Demand.rexB .set, .operandSize .w16].Perm
      (LegacyConstraint.demands { operandSize := some .w16, rexB := .set }) := by decide
  have hfields : [HeaderField.w .set, .combination, .map .map0F38, .mandatory .p66,
      .length (some .v512)].Perm
      (HeaderField.all 1 (some (some .v512)) (some .p66) .map0F38 (some .set)) := by decide
  have hlegacy : Writes (" ".intercalate (["REX.B", "o16"] ++ opcodeToken .map0F 0x66 ::
      (ModRMPattern.registers 1).tokens)) _ :=
    .legacy hdemands (by decide) (by decide) (by decide) (show (1 : UInt8) < 8 by decide)
  have hextended : Writes (" ".intercalate (headerToken "EVEX" ["W1", "NDS", "0F38", "66", "512"] ::
      byteText 0xf3 :: (ModRMPattern.reg 2).tokens)) _ :=
    .extended (List.mem_cons_of_mem _ List.mem_cons_self) hfields (by decide)
      (show (2 : UInt8) < 8 by decide)
  exact ⟨parse_inverts_writes.1 hlegacy, parse_inverts_writes.1 hextended⟩

end Spelling

end X86Decoder
