import X86Decoder.Proofs.Ensures

/-!
# Memory operands

The address that a ModR/M byte names is well formed: its scale is one that exists, there is a
displacement only where bytes were read for it, and the base is no wider than an address. Every
request for a register on the way is within its contract, since the fields of the bytes are narrow
enough.

* `MemoryReference.Addressed`: the address is well formed.
* `Reader.ensures_memory`: reading a memory operand ensures that it is.
-/

namespace X86Decoder

/-! ### Registers -/

/-- Widths of addresses are widths of registers. -/
theorem Register.ofBits_wordSize (width : WordSize) (n : Int) :
    Register.ofBits width.bits n = .ok (Register.general (.ofWordSize width) n) := by
  cases width <;> rfl

theorem Register.bits_none_le : Register.none.bits ≤ 64 := by decide

theorem Register.bits_general_le (width : DataWidth) {n : Nat} (hn : n < 16) :
    (Register.general width n).bits ≤ 64 := by
  have hall : ∀ width ∈ [DataWidth.w8, .w16, .w32, .w64], ∀ n < 16,
      (Register.general width (n : Nat)).bits ≤ 64 := by decide
  exact hall width (by cases width <;> decide) n hn

/-- The vector registers are numbered. -/
theorem RegisterFamily.exists_member_of_isVector {family : RegisterFamily} (h : family.isVector)
    (n : Int) : ∃ r, family.member n = .ok r := by
  cases family <;> first | exact ⟨_, rfl⟩ | cases h

theorem extended_lt {n : UInt8} (hn : n.toNat ≤ 7) (high : Bool) : extended high n < 16 := by
  cases high <;> simp only [extended, ↓reduceIte, Bool.false_eq_true] <;> omega

theorem ModRM.rm_le (m : ModRM) : m.rm.toNat ≤ 7 := Bits.toNat_getRun_le _ _ _

theorem Sib.scale_le (s : Sib) : s.scale.toNat ≤ 3 := Bits.toNat_getRun_le _ _ _

theorem Sib.factor_mem (s : Sib) (index : Register) : s.factor index ∈ [1, 2, 4, 8] := by
  have hall : ∀ n ≤ 3, ((1 <<< n : Nat) : Int) ∈ [(1 : Int), 2, 4, 8] := by decide
  rw [Sib.factor]
  split
  · decide
  · exact hall _ s.scale_le

theorem Sib.factor_none (s : Sib) {index : Register} (h : index = .none) : s.factor index = 1 :=
  if_pos h

theorem Sib.base_le (s : Sib) : s.base.toNat ≤ 7 := Bits.toNat_getRun_le _ _ _

/-- Every rm field has a pair of registers. -/
theorem exists_addressPair16 {rm : UInt8} (hrm : rm.toNat ≤ 7) :
    ∃ pair, addressPair16 rm = .ok pair ∧ pair.1.bits ≤ 64 := by
  have hall : ∀ pair ∈ addressPairs16, pair.1.bits ≤ 64 := by decide
  have hlength : rm.toNat < addressPairs16.length := Nat.lt_succ_of_le hrm
  refine ⟨addressPairs16[rm.toNat], ?_, hall _ (List.getElem_mem hlength)⟩
  rw [addressPair16, List.getElem?_eq_getElem hlength]

/-! ### Addresses -/

/-- The address is well formed. -/
structure MemoryReference.Addressed (memory : MemoryReference) : Prop where
  /-- The scale is a power of two that two bits can select. -/
  scale_mem : memory.scale ∈ [1, 2, 4, 8]
  /-- Without an index there is nothing to scale. -/
  scale_eq_one : memory.index = .none → memory.scale = 1
  /-- The displacement is of a size that exists. -/
  displacementSize_mem : memory.displacementSize ∈ [0, 1, 2, 4, 8]
  /-- A displacement takes bytes. -/
  displacement_eq_zero : memory.displacementSize = 0 → memory.displacement = 0
  /-- The base is no wider than an address. -/
  bits_base_le : memory.base.bits ≤ 64

namespace Reader

theorem yields_displacement {p : PrefixState} {f : Form} {size : Nat} {width : WordSize}
    (hsize : size ≤ 8) :
    (displacement p f size width).Yields fun result => size = 0 → result.1 = 0 := by
  rw [displacement]
  split
  · exact yields_pure fun _ => rfl
  · rename_i hne
    exact yields_position.bind fun _ _ => (yields_number hsize).bind fun _ _ =>
      yields_pure fun h => absurd h hne

theorem yields_address {p : PrefixState} {f : Form} {width : WordSize} {base index : Register}
    {scale : Int} {size : Nat} (hbase : base.bits ≤ 64) (hscale : scale ∈ [1, 2, 4, 8])
    (hindex : index = .none → scale = 1) (hsize : size ∈ [0, 1, 2, 4]) :
    (address p f width base index scale size).Yields fun result =>
      result.1.Addressed ∧ result.1.displacementSize = size := by
  have hsizes : ∀ size ∈ [(0 : Nat), 1, 2, 4],
      size ≤ 8 ∧ (size : Int) ∈ [(0 : Int), 1, 2, 4, 8] := by decide
  obtain ⟨hle, hmem⟩ := hsizes size hsize
  refine (yields_displacement hle).bind fun (value, span) hvalue => yields_pure ⟨?_, rfl⟩
  exact ⟨hscale, hindex, hmem, fun h => hvalue (Int.ofNat_eq_zero.1 h), hbase⟩

/-- A request for a base or index register by a field of three bits and one more. -/
theorem yields_generalRegister (width : WordSize) {n : UInt8} (hn : n.toNat ≤ 7) (high : Bool) :
    (request (Register.ofBits width.bits (extended high n))).Yields fun r => r.bits ≤ 64 :=
  yields_request ⟨_, Register.ofBits_wordSize width _,
    Register.bits_general_le _ (extended_lt hn high)⟩

theorem displacementSize_mem (m : ModRM) : displacementSize m ∈ [0, 1, 2, 4] := by
  rw [displacementSize]
  split
  · decide
  · split <;> decide

theorem yields_memory16 (p : PrefixState) (f : Form) (m : ModRM) :
    (memory16 p f m).Yields fun result => result.1.Addressed := by
  have haddress : ∀ {base index size}, base.bits ≤ 64 → size ∈ [0, 1, 2] →
      (address p f .w16 base index 1 size).Yields fun result => result.1.Addressed := by
    intro base index size hbase hsize
    refine (yields_address hbase (by decide) (fun _ => rfl) ?_).mono fun _ h => h.1
    revert size
    decide
  refine (yields_request (exists_addressPair16 m.rm_le)).bind fun (base, index) hbase => ?_
  dsimp only
  split
  · split
    · exact haddress Register.bits_none_le (by decide)
    · exact haddress hbase (by decide)
  · split <;> exact haddress hbase (by decide)

/-- The index register of a SIB byte, which for a vector of indices is a vector register. -/
theorem exists_indexRegister {p : PrefixState} {width : WordSize} {vsib : Option RegisterClass}
    (hvsib : ∀ cls ∈ vsib, cls.family.isVector) (s : Sib) :
    ∃ r, indexRegister p width vsib s = .ok r := by
  cases vsib with
  | some cls => exact RegisterFamily.exists_member_of_isVector (hvsib cls rfl) _
  | none =>
    dsimp only [indexRegister]
    split
    · exact ⟨_, rfl⟩
    · exact ⟨_, Register.ofBits_wordSize width _⟩

theorem yields_memorySib {p : PrefixState} {f : Form} {m : ModRM} {width : WordSize}
    (hvsib : ∀ cls ∈ f.vsib?, cls.family.isVector) :
    (memorySib p f m width).Yields fun result => result.1.Addressed := by
  refine (yields_byte.map fun _ _ => trivial).bind fun s (_ : True) => ?_
  obtain ⟨index, hindex⟩ := exists_indexRegister hvsib s
  refine (yields_request ⟨index, hindex, rfl⟩).bind fun _ heq => ?_
  subst heq
  split
  · exact (yields_address Register.bits_none_le (s.factor_mem index) s.factor_none
      (by decide)).mono fun _ h => h.1
  · refine (yields_generalRegister width s.base_le p.b).bind fun base hbase => ?_
    exact (yields_address hbase (s.factor_mem index) s.factor_none
      (displacementSize_mem m)).mono fun _ h => h.1

/-- An address relative to the instruction pointer is marked, and it always has a displacement. -/
theorem ensures_memoryRelative (p : PrefixState) (f : Form) (width : WordSize) (s : ReadState) :
    (memoryRelative p f width).Ensures s fun result _ =>
      result.1.Addressed ∧ result.1.displacementSize ≠ 0 := by
  have hbase : (if width = .w32 then Register.eip else .rip).bits ≤ 64 := by
    cases width <;> decide
  refine (yields_address hbase (by decide) (fun _ => rfl) (by decide) s).bind
    fun result t ⟨_, haddressed, hsize⟩ => ?_
  refine ensures_setRelative.bind fun _ u _ => ensures_pure ⟨haddressed, ?_⟩
  rw [hsize]
  decide

/-- Where a memory operand becomes relative, it has a displacement. -/
theorem ensures_memory32 {p : PrefixState} {mode : Mode} {f : Form} {m : ModRM}
    {width : WordSize} (hvsib : ∀ cls ∈ f.vsib?, cls.family.isVector) (s : ReadState) :
    (memory32 p mode f m width).Ensures s fun result t =>
      result.1.Addressed ∧ (t.relative → s.relative ∨ result.1.displacementSize ≠ 0) := by
  -- All but one of the branches leave the mark alone.
  have hquiet : ∀ {reader : Reader (MemoryReference × Span)},
      (reader.Yields fun result => result.1.Addressed) →
      reader.Ensures s fun result t =>
        result.1.Addressed ∧ (t.relative → s.relative ∨ result.1.displacementSize ≠ 0) := by
    intro reader h
    refine (h s).mono fun result t ⟨hst, haddressed⟩ => ⟨haddressed, fun ht => .inl ?_⟩
    rwa [← hst.relative]
  rw [memory32]
  split
  · exact hquiet (yields_memorySib hvsib)
  split
  · exact hquiet yields_refuseModRM
  split
  · split
    · exact (ensures_memoryRelative p f width s).mono fun result t h => ⟨h.1, fun _ => .inr h.2⟩
    · exact hquiet ((yields_address Register.bits_none_le (by decide) (fun _ => rfl)
        (by decide)).mono fun _ h => h.1)
  · refine hquiet ((yields_generalRegister width m.rm_le p.b).bind fun base hbase => ?_)
    exact (yields_address hbase (by decide) (fun _ => rfl) (displacementSize_mem m)).mono
      fun _ h => h.1

theorem ensures_memory {p : PrefixState} {mode : Mode} {f : Form} {m : ModRM}
    (hvsib : ∀ cls ∈ f.vsib?, cls.family.isVector) (s : ReadState) :
    (memory p mode f m).Ensures s fun result t =>
      result.1.Addressed ∧ (t.relative → s.relative ∨ result.1.displacementSize ≠ 0) := by
  rw [memory]
  split
  · split
    · exact ensures_throw rfl
    · refine (yields_memory16 p f m s).mono fun result t ⟨hst, haddressed⟩ => ?_
      exact ⟨haddressed, fun ht => .inl (hst.relative ▸ ht)⟩
  · exact ensures_memory32 hvsib s
  · exact ensures_memory32 hvsib s

end Reader

end X86Decoder
