import X86Decoder.Proofs.Opcode
import X86Decoder.Proofs.Operands

/-!
# Well-formed bodies

Whatever the bytes, reading an instruction either fails with a fault that has a class or yields a
body that is well formed. What holds of the prefixes, of the form and of the memory is collected
here from the readers that decide it.

* `Body.WellFormed`: the properties of a body.
* `Reader.ensures_body`: every body that is read has them.
-/

namespace X86Decoder

/-- What holds of every body that can be read. -/
structure Body.WellFormed (body : Body) : Prop where
  /-- The form is one of the table. -/
  mem_forms : body.form ∈ Table.forms
  /-- The prefixes have the encoding of the form. -/
  encoding : body.form.encoding = body.prefixes.encoding
  valid : body.prefixes.Valid
  /-- An operand that has to be memory is. -/
  isMemory_of_memoryOnly : ∀ o ∈ body.form.operands, o.spec.memoryOnly → body.isMemory
  /-- The ModR/M byte names memory only for a form that can have it. -/
  acceptsMemory : body.isMemory → body.form.acceptsMemory
  /-- The form permits the fields of the prefixes. -/
  checkForm : Body.checkForm body.form body.prefixes body.isMemory = none
  coherent : body.draft.Coherent body.isMemory
  /-- The operands of the form that are in memory are those of the body. -/
  isMemory_operands : body.draft.operands.map (fun o => o.kind.isMemory) =
    body.form.operands.map fun o => o.spec.inMemory body.isMemory
  /-- A relative address has a displacement. -/
  displacementSize_ne_zero : body.relative → body.draft.memory.displacementSize ≠ 0

/-- The class of the vector of indices is that of an operand. -/
theorem Form.Sound.isVector_of_vsib? {f : Form} (hf : f.Sound) {cls : RegisterClass}
    (h : cls ∈ f.vsib?) : cls.family.isVector := by
  obtain ⟨o, ho, hspec⟩ := List.exists_of_findSome?_eq_some h
  split at hspec
  · rename_i index element heq
    cases hspec
    have hvector := hf.isVector o ho (by rw [heq]; rfl)
    rwa [heq] at hvector
  · cases hspec

namespace Reader

theorem yields_form {p : PrefixState} {mode : Mode} {op : UInt8} {m : ModRM}
    (hcovers : Table.covers p.encoding p.map) :
    (form p mode op m).Yields fun f => Table.lookup p (.known mode) op m = .ok f := by
  rw [form, Table.lookupChecked, if_pos hcovers]
  refine (yields_request ⟨_, rfl, rfl⟩).bind fun found hfound => ?_
  cases found with
  | ok f => exact yields_pure hfound
  | error failure =>
    dsimp only
    split
    · exact yields_refuseModRM
    · exact yields_throw rfl

theorem ensures_draft {p : PrefixState} {mode : Mode} {f : Form} {m : ModRM} {isMemory : Bool}
    (hf : f.Sound) {s : ReadState} (hs : s.relative = false) :
    (draft p mode f m isMemory).Ensures s fun start t => start.Coherent isMemory ∧
      start.operands = [] ∧ (t.relative → start.memory.displacementSize ≠ 0) := by
  cases isMemory with
  | true =>
    -- The mark was not set before, so it is set only by an address that has a displacement.
    refine (ensures_memory (fun _ => hf.isVector_of_vsib?) s).bind
      fun (reference, span) t ⟨haddressed, hrelative⟩ => ensures_pure ⟨?_, rfl, fun ht => ?_⟩
    · exact ⟨fun _ => haddressed, .inl haddressed, nofun⟩
    · rcases hrelative ht with h | h
      · rw [hs] at h
        cases h
      · exact h
  | false =>
    refine ensures_pure ⟨⟨?_, .inr rfl, fun _ _ => rfl⟩, rfl, fun h => ?_⟩
    · rintro (h | ⟨o, ho, -⟩)
      · cases h
      · cases ho
    · rw [hs] at h
      cases h

/-- A form that the ModR/M byte matches leads to a well-formed body, if the prefixes are valid and
have its encoding. Whatever the prefixes, it fails only with a fault that has a class. -/
theorem ensures_formBody {p : PrefixState} {mode : Mode} {m : ModRM} {f : Form}
    (hmem : f ∈ Table.forms) (hmatch : f.modrmMismatch m = none) {s : ReadState}
    (hs : s.relative = false) :
    (formBody p mode m f).Ensures s fun body _ =>
      f.encoding = p.encoding → p.Valid → body.WellFormed := by
  have hsound := Table.sound hmem
  have hmemoryOnly : ∀ o ∈ f.operands, o.spec.memoryOnly → f.namesMemory m :=
    fun o ho hspec => hsound.namesMemory hmatch ho hspec
  refine ensures_checkPrefixes.bind fun _ t ⟨hcheck, ht⟩ => ?_
  subst ht
  refine (ensures_draft hsound hs).bind fun start u ⟨hstart, hempty, hrelative⟩ => ?_
  have hlength : start.operands.length + f.operands.length ≤ Instruction.maxOperands := by
    rw [hempty, List.length_nil, Nat.zero_add]
    exact hsound.length_operands
  -- The operands leave the mark for a relative address as reading the memory left it.
  refine (yields_operands p mode m hstart hmemoryOnly hlength u).bind
    fun final v ⟨huv, hfinal⟩ hencoding hvalid => ?_
  exact {
    mem_forms := hmem
    encoding := hencoding
    valid := hvalid
    isMemory_of_memoryOnly := hmemoryOnly
    acceptsMemory := Form.acceptsMemory_of_namesMemory hmatch
    checkForm := hcheck
    coherent := hfinal.coherent
    isMemory_operands := by
      have h := hfinal.isMemory_operands
      rwa [hempty, List.map_nil, List.nil_append, List.map_map] at h
    displacementSize_ne_zero := by
      intro h
      have hrelative' : v.relative = true := h
      rw [huv.relative] at hrelative'
      exact hfinal.displacementSize_ne_zero (hrelative hrelative') }

/-- Reading an instruction fails with a fault that has a class or yields a well-formed body. -/
theorem ensures_body (mode : Mode) {s : ReadState} (hs : s.relative = false) :
    (body mode).Ensures s fun body _ => body.WellFormed := by
  refine (ensures_selector mode s).bind fun (p, op, m) t ⟨hst, hvalid⟩ => ?_
  refine (yields_form hvalid.covers t).bind fun f u ⟨htu, hlookup⟩ => ?_
  obtain ⟨hmem, hencoding, -, -, hmismatch⟩ := Table.lookup_ok hlookup
  have hu : u.relative = false := by rw [htu.relative, hst, hs]
  refine (ensures_formBody hmem (Form.modrmMismatch_of_mismatch hmismatch) hu).mono ?_
  exact fun body _ hbody => hbody hencoding hvalid

end Reader

end X86Decoder
