import X86Decoder.Proofs.Constants.Settle

/-!
# The order of constants

Few operands of a form have constants. There is at most one of them, or there are two immediates;
and an absolute offset never stands beside a displacement. So the bytes of an instruction that are
left after its frame belong to the displacement, to the one operand and then to the other.

* `Table.constantOperands_cases`: which operands of a form have constants.
* `Frame.kind_of_value`: which operands become registers and near branches.
* `Frame.exists_of_settleAll_split`: one operand among those that are settled.
* `Draft.Kept`: what is recorded of the constants stays so.
* `Frame.kept_of_settled_one`, `Frame.kept_of_settled_two`: what is recorded in the end.
-/

namespace X86Decoder

/-! ### Forms -/

namespace OperandSpec

/-- Whether an operand takes bytes of its own. -/
def isConstant : OperandSpec → Bool
  | is4 _ | immediate _ | relative _ _ | far _ | moffs _ => true
  | _ => false

/-- Whether an operand is a register in an immediate byte. -/
def isIs4 : OperandSpec → Bool
  | is4 _ => true
  | _ => false

/-- Whether an operand is an immediate value. -/
def isImmediate : OperandSpec → Bool
  | immediate _ => true
  | _ => false

/-- Whether an operand can be a register. -/
def isRegister : OperandSpec → Bool
  | reg _ | rm _ | rmRegister _ | rmMemory | vvvv _ | is4 _ | implicit _ => true
  | _ => false

theorem isImmediate_iff {spec : OperandSpec} :
    spec.isImmediate ↔ ∃ value, spec = .immediate value := by
  cases spec <;> simp [isImmediate]

theorem bytesRead_of_not_isMoffs {spec : OperandSpec} (h : spec.isMoffs = false)
    (width : WordSize) : spec.bytesRead width = spec.size := by
  cases spec <;> first | rfl | cases h

theorem bytesRead_of_not_isConstant {spec : OperandSpec} (h : spec.isConstant = false)
    (width : WordSize) : spec.bytesRead width = 0 := by
  cases spec <;> first | rfl | cases h

end OperandSpec

namespace Form

/-- The operands that take bytes of their own. -/
def constantOperands (f : Form) : List FormOperand :=
  f.operands.filter fun o => o.spec.isConstant

/-- Whether the form has at most one constant besides the displacement, or two immediates. An
absolute offset replaces the displacement, an immediate that selects a register selects a vector
register, and a vector of indices leaves no place for constants. -/
def ordersConstants (f : Form) : Bool :=
  match f.constantOperands with
  | [] => true
  | [o] =>
    !(o.spec.isMoffs && f.modrm.present) && (!o.spec.isIs4 || o.spec.family.isVector)
      && f.operands.all fun o => !o.spec.isVsib
  | [o, o'] =>
    o.spec.isImmediate && o'.spec.isImmediate && f.operands.all fun o => !o.spec.isVsib
  | _ => false

end Form

/-- None of the operands takes bytes of its own. -/
def FreeOfConstants (os : List FormOperand) : Prop :=
  ∀ o ∈ os, o.spec.isConstant = false

theorem filter_isConstant_eq_nil_iff {os : List FormOperand} :
    (os.filter fun o => o.spec.isConstant) = [] ↔ FreeOfConstants os := by
  simp [FreeOfConstants, List.filter_eq_nil_iff]

/-- Which operands of a form have constants. -/
theorem Table.constantOperands_cases {f : Form} (hf : f ∈ forms) :
    FreeOfConstants f.operands ∨
    (∀ o ∈ f.operands, o.spec.isVsib = false) ∧
      ((∃ before o after, f.operands = before ++ o :: after ∧ FreeOfConstants before ∧
        FreeOfConstants after ∧ o.spec.isConstant ∧
        (o.spec.isMoffs → f.modrm.present = false) ∧ (o.spec.isIs4 → o.spec.family.isVector)) ∨
      ∃ before o between o' after, f.operands = before ++ o :: (between ++ o' :: after) ∧
        FreeOfConstants before ∧ FreeOfConstants between ∧ FreeOfConstants after ∧
        o.spec.isImmediate ∧ o'.spec.isImmediate) := by
  have hall : forms.all Form.ordersConstants := by
    rw [forms_eq]
    decide +kernel
  have htest := List.all_eq_true.1 hall f hf
  rw [Form.ordersConstants] at htest
  -- By the operands with constants: none, one, two, or more than there can be.
  split at htest
  · rename_i hnone
    exact .inl (filter_isConstant_eq_nil_iff.1 hnone)
  · rename_i o hone
    rw [Bool.and_eq_true, Bool.and_eq_true, List.all_eq_true] at htest
    obtain ⟨⟨hmoffs, his4⟩, hvsib⟩ := htest
    refine .inr ⟨fun o ho => by simpa using hvsib o ho, .inl ?_⟩
    obtain ⟨before, after, heq, hbefore, ho, hafter⟩ := List.filter_eq_cons_iff.1 hone
    refine ⟨before, o, after, heq, by simpa [FreeOfConstants] using hbefore,
      filter_isConstant_eq_nil_iff.1 hafter, ho, fun h => ?_, fun h => ?_⟩
    · simpa [h] using hmoffs
    · simpa [h] using his4
  · rename_i o o' htwo
    rw [Bool.and_eq_true, Bool.and_eq_true, List.all_eq_true] at htest
    obtain ⟨⟨ho, ho'⟩, hvsib⟩ := htest
    refine .inr ⟨fun o ho => by simpa using hvsib o ho, .inr ?_⟩
    obtain ⟨before, rest, heq, hbefore, -, hrest⟩ := List.filter_eq_cons_iff.1 htwo
    obtain ⟨between, after, rfl, hbetween, -, hafter⟩ := List.filter_eq_cons_iff.1 hrest
    exact ⟨before, o, between, o', after, heq, by simpa [FreeOfConstants] using hbefore,
      by simpa [FreeOfConstants] using hbetween, filter_isConstant_eq_nil_iff.1 hafter, ho, ho'⟩
  · cases htest

theorem FreeOfConstants.not_mem {os : List FormOperand} (h : FreeOfConstants os) {o : FormOperand}
    (ho : o.spec.isConstant) : o ∉ os := by
  intro hmem
  rw [h o hmem] at ho
  cases ho

namespace Table

variable {f : Form} (hf : f ∈ forms) {o : FormOperand}

include hf

/-- An operand other than an immediate is the only one with constants, if it has any. -/
theorem exists_only_constant (ho : o ∈ f.operands) (hconstant : o.spec.isConstant)
    (himmediate : o.spec.isImmediate = false) :
    ∃ before after, f.operands = before ++ o :: after ∧ FreeOfConstants before ∧
      FreeOfConstants after ∧ (o.spec.isMoffs → f.modrm.present = false) := by
  rcases constantOperands_cases hf with hfree | ⟨-, hone | htwo⟩
  · exact absurd ho (hfree.not_mem hconstant)
  · obtain ⟨before, o', after, heq, hbefore, hafter, -, hpresent, -⟩ := hone
    rw [heq, List.mem_append, List.mem_cons] at ho
    rcases ho with hmem | rfl | hmem
    · exact absurd hmem (hbefore.not_mem hconstant)
    · exact ⟨before, after, heq, hbefore, hafter, hpresent⟩
    · exact absurd hmem (hafter.not_mem hconstant)
  · -- Both constants are immediates, and this operand would be one of them.
    obtain ⟨before, x, between, y, after, heq, hbefore, hbetween, hafter, hx, hy⟩ := htwo
    rw [heq] at ho
    simp only [List.mem_append, List.mem_cons] at ho
    rcases ho with hmem | rfl | hmem | rfl | hmem
    · exact absurd hmem (hbefore.not_mem hconstant)
    · rw [hx] at himmediate
      cases himmediate
    · exact absurd hmem (hbetween.not_mem hconstant)
    · rw [hy] at himmediate
      cases himmediate
    · exact absurd hmem (hafter.not_mem hconstant)

/-- Wherever such an operand stands, the others have no constants. -/
theorem freeOfConstants_of_split {os os' : List FormOperand} (heq : f.operands = os ++ o :: os')
    (ho : o.spec.isConstant) (himmediate : o.spec.isImmediate = false) :
    FreeOfConstants os ∧ FreeOfConstants os' := by
  have hmem : o ∈ f.operands := heq ▸ List.mem_append_right os List.mem_cons_self
  obtain ⟨before, after, heq', hbefore, hafter, -⟩ := exists_only_constant hf hmem ho himmediate
  have hfilter := congrArg (List.filter fun o => o.spec.isConstant) (heq'.symm.trans heq)
  simp only [List.filter_append, List.filter_cons, ho, if_true, List.nil_append,
    filter_isConstant_eq_nil_iff.2 hbefore, filter_isConstant_eq_nil_iff.2 hafter] at hfilter
  obtain ⟨hos, hrest⟩ | ⟨-, hrest⟩ := List.append_eq_singleton_iff.1 hfilter.symm
  · exact ⟨filter_isConstant_eq_nil_iff.1 hos,
      filter_isConstant_eq_nil_iff.1 (List.cons.inj hrest).2⟩
  · cases hrest

/-- A form with an absolute offset has no ModR/M byte. -/
theorem present_eq_false_of_isMoffs (ho : o ∈ f.operands) (hmoffs : o.spec.isMoffs) :
    f.modrm.present = false := by
  obtain ⟨element, hspec⟩ := OperandSpec.isMoffs_iff.1 hmoffs
  obtain ⟨-, -, -, -, -, hpresent⟩ :=
    exists_only_constant hf ho (by rw [hspec]; rfl) (by rw [hspec]; rfl)
  exact hpresent hmoffs

end Table

theorem bytesRead_append (width : WordSize) (os os' : List FormOperand) :
    bytesRead width (os ++ os') = bytesRead width os + bytesRead width os' := by
  induction os with
  | nil => rw [List.nil_append, bytesRead, Nat.zero_add]
  | cons o os ih => rw [List.cons_append, bytesRead, bytesRead, ih, Nat.add_assoc]

theorem FreeOfConstants.bytesRead_eq {os : List FormOperand} (h : FreeOfConstants os)
    (width : WordSize) : bytesRead width os = 0 := by
  induction os with
  | nil => rfl
  | cons o os ih =>
    obtain ⟨ho, hos⟩ := List.forall_mem_cons.1 h
    rw [bytesRead, OperandSpec.bytesRead_of_not_isConstant ho, ih hos]

/-! ### One operand among the others -/

namespace Frame

variable {c : Frame} {draft next : Draft} {spec : OperandSpec} {start : Nat} {bs : List UInt8}

/-- What it takes to settle an operand. -/
theorem exists_value_of_settle (h : c.settle draft spec start bs = some next) :
    ∃ v, c.value spec bs = some v ∧ next = (draft.advance c spec start bs).push v := by
  rw [settle] at h
  split at h
  · cases h
  · obtain ⟨v, hv, rfl⟩ := Option.map_eq_some_iff.1 h
    exact ⟨v, hv, rfl⟩

/-- Only some operands can be registers, and only a distance is a near branch. -/
theorem kind_of_value {v : Operand} (h : c.value spec bs = some v) :
    (v.kind = .register → spec.isRegister) ∧
      (v.kind.isNearBranch → ∃ offset target, spec = .relative offset target) := by
  have hregister : ∀ {r : Option Register},
      r.map (fun r => ({ register := r } : Operand)) = some v → ¬v.kind.isNearBranch := by
    intro r hr
    obtain ⟨r, -, rfl⟩ := Option.map_eq_some_iff.1 hr
    exact Bool.false_ne_true
  -- The first part only needs work for the operands that are no registers, and the second only for
  -- those that are no distances.
  cases spec with
  | reg _ | vvvv _ | is4 _ => exact ⟨fun _ => rfl, fun hbranch => absurd hbranch (hregister h)⟩
  | implicit r => exact ⟨fun _ => rfl, fun hbranch => absurd hbranch (@hregister (some r) h)⟩
  | rm _ | rmRegister _ | rmMemory =>
    refine ⟨fun _ => rfl, fun hbranch => ?_⟩
    rw [value] at h
    split at h
    · cases h
      cases hbranch
    · exact absurd hbranch (hregister h)
  | relative offset target =>
    refine ⟨fun hkind => ?_, fun _ => ⟨offset, target, rfl⟩⟩
    cases h
    cases target <;> cases hkind
  | immediate value =>
    cases h
    refine ⟨fun hkind => ?_, fun hbranch => ?_⟩
    · rcases value with _ | _ | _ | _ | _ | ⟨_ | _ | _ | _⟩ | _ <;> cases hkind
    · rcases value with _ | _ | _ | _ | _ | ⟨_ | _ | _ | _⟩ | _ <;> cases hbranch
  | far wide =>
    cases h
    refine ⟨fun hkind => ?_, fun hbranch => ?_⟩
    · cases wide <;> cases hkind
    · cases wide <;> cases hbranch
  | moffs _ | stringSource _ | stringDestination _ | maskDestination =>
    rw [value] at h
    refine ⟨fun hkind => ?_, fun hbranch => ?_⟩
    · cases hwidth : c.width <;> rw [hwidth] at h <;> cases h <;> cases hkind
    · cases hwidth : c.width <;> rw [hwidth] at h <;> cases h <;> cases hbranch
  | one | vsib _ _ =>
    cases h
    refine ⟨fun hkind => ?_, fun hbranch => ?_⟩
    · cases hkind
    · cases hbranch

theorem settleAll_append (os os' : List FormOperand) :
    c.settleAll (os ++ os') draft start bs =
      (c.settleAll os draft start bs).bind fun next =>
        c.settleAll os' next (start + bytesRead c.width os) (bs.drop (bytesRead c.width os)) := by
  induction os generalizing draft start bs with
  | nil => rfl
  | cons o os ih =>
    rw [List.cons_append, settleAll, settleAll]
    split
    · rfl
    · simp only [ih, Option.bind_assoc, bytesRead, List.drop_drop, Nat.add_assoc]

end Frame

theorem Draft.operands_advance (c : Frame) (draft : Draft) (spec : OperandSpec) (start : Nat)
    (bs : List UInt8) : (draft.advance c spec start bs).operands = draft.operands := by
  cases spec <;> first | rfl | (rw [advance]; split <;> rfl)

/-- No operand changes the base or the index of an address. -/
theorem Draft.registers_advance (c : Frame) (draft : Draft) (spec : OperandSpec) (start : Nat)
    (bs : List UInt8) :
    (draft.advance c spec start bs).memory.base = draft.memory.base ∧
      (draft.advance c spec start bs).memory.index = draft.memory.index := by
  cases spec <;> first | exact ⟨rfl, rfl⟩ | (rw [advance]; split <;> exact ⟨rfl, rfl⟩)

namespace Frame

variable {c : Frame} {draft final : Draft} {start : Nat} {bs : List UInt8}

theorem registers_settleAll {os : List FormOperand}
    (h : c.settleAll os draft start bs = some final) :
    final.memory.base = draft.memory.base ∧ final.memory.index = draft.memory.index := by
  induction os generalizing draft start bs with
  | nil =>
    cases h
    exact ⟨rfl, rfl⟩
  | cons o os ih =>
    rw [settleAll] at h
    split at h
    · cases h
    · obtain ⟨next, hnext, hrest⟩ := Option.bind_eq_some_iff.1 h
      obtain ⟨v, -, rfl⟩ := exists_value_of_settle hnext
      obtain ⟨hbase, hindex⟩ := Draft.registers_advance c draft o.spec start
        (bs.take (o.spec.bytesRead c.width))
      obtain ⟨hbase', hindex'⟩ := ih hrest
      exact ⟨hbase'.trans hbase, hindex'.trans hindex⟩

/-- Operands are added behind those that are there. -/
theorem exists_operands_of_settleAll {os : List FormOperand}
    (h : c.settleAll os draft start bs = some final) :
    ∃ vs, vs.length = os.length ∧ final.operands = draft.operands ++ vs := by
  induction os generalizing draft start bs with
  | nil =>
    cases h
    exact ⟨[], rfl, (List.append_nil _).symm⟩
  | cons o os ih =>
    rw [settleAll] at h
    split at h
    · cases h
    · obtain ⟨next, hnext, hrest⟩ := Option.bind_eq_some_iff.1 h
      obtain ⟨v, -, rfl⟩ := exists_value_of_settle hnext
      obtain ⟨vs, hlength, hvs⟩ := ih hrest
      refine ⟨v :: vs, by rw [List.length_cons, List.length_cons, hlength], ?_⟩
      rw [hvs, Draft.push, Draft.operands_advance, List.append_assoc, List.singleton_append]

/-- One operand among those that are settled has the bytes behind those of the operands before it.
-/
theorem exists_of_settleAll_split {os os' : List FormOperand} {o : FormOperand}
    (h : c.settleAll (os ++ o :: os') draft start bs = some final) :
    ∃ before v, c.settleAll os draft start bs = some before ∧
      c.value o.spec ((bs.drop (bytesRead c.width os)).take (o.spec.bytesRead c.width)) = some v ∧
      c.settleAll os' ((before.advance c o.spec (start + bytesRead c.width os)
          ((bs.drop (bytesRead c.width os)).take (o.spec.bytesRead c.width))).push v)
        (start + bytesRead c.width os + o.spec.bytesRead c.width)
        ((bs.drop (bytesRead c.width os)).drop (o.spec.bytesRead c.width)) = some final ∧
      final.operands[draft.operands.length + os.length]? = some v := by
  rw [settleAll_append] at h
  obtain ⟨before, hbefore, hrest⟩ := Option.bind_eq_some_iff.1 h
  rw [settleAll] at hrest
  split at hrest
  · cases hrest
  · obtain ⟨next, hnext, hafter⟩ := Option.bind_eq_some_iff.1 hrest
    obtain ⟨v, hv, rfl⟩ := exists_value_of_settle hnext
    refine ⟨before, v, hbefore, hv, hafter, ?_⟩
    -- It stands behind the operands before it, and those after it are added behind.
    obtain ⟨vs, hlength, hvs⟩ := exists_operands_of_settleAll hbefore
    obtain ⟨vs', -, hvs'⟩ := exists_operands_of_settleAll hafter
    rw [hvs', Draft.push, Draft.operands_advance, hvs, ← hlength, ← List.length_append,
      List.append_assoc, List.getElem?_append_right (Nat.le_refl _), Nat.sub_self]
    rfl

end Frame

/-! ### What is recorded -/

/-- What is recorded of the constants is the same in both drafts, though operands and the segment
may differ. -/
structure Draft.Kept (draft next : Draft) : Prop where
  constants : next.constants = draft.constants
  farSelector : next.farSelector = draft.farSelector
  memory : next.memory.unsegmented = draft.memory.unsegmented

namespace Draft.Kept

variable {draft next final : Draft}

theorem refl (draft : Draft) : draft.Kept draft := ⟨rfl, rfl, rfl⟩

theorem trans (h : draft.Kept next) (h' : next.Kept final) : draft.Kept final :=
  ⟨h'.constants.trans h.constants, h'.farSelector.trans h.farSelector, h'.memory.trans h.memory⟩

theorem displacementSize (h : draft.Kept next) :
    next.memory.displacementSize = draft.memory.displacementSize := by
  change next.memory.unsegmented.displacementSize = draft.memory.unsegmented.displacementSize
  rw [h.memory]

theorem push (h : draft.Kept next) (o : Operand) : draft.Kept (next.push o) :=
  ⟨h.constants, h.farSelector, h.memory⟩

theorem addImmediate (h : draft.Kept next) (span : Span) :
    (draft.addImmediate span).Kept (next.addImmediate span) where
  constants := by rw [Draft.addImmediate, Draft.addImmediate, h.constants]
  farSelector := h.farSelector
  memory := h.memory

theorem setOffset (h : draft.Kept next) (segment : Register) (offset : UInt64) (span : Span) :
    (draft.setOffset segment offset span).Kept (next.setOffset segment offset span) where
  constants := by rw [Draft.setOffset, Draft.setOffset, h.constants]
  farSelector := h.farSelector
  memory := by
    have hmemory := h.memory
    simp only [MemoryReference.unsegmented, MemoryReference.mk.injEq] at hmemory
    simp [MemoryReference.unsegmented, Draft.setOffset, hmemory]

/-- An operand without constants only sets the segment, if anything. -/
theorem advance_of_not_isConstant {spec : OperandSpec} (h : spec.isConstant = false) (c : Frame)
    (draft : Draft) (start : Nat) (bs : List UInt8) :
    draft.Kept (draft.advance c spec start bs) := by
  cases spec with
  | stringDestination element =>
    rw [Draft.advance]
    split <;> exact ⟨rfl, rfl, rfl⟩
  | is4 _ | immediate _ | relative _ _ | far _ | moffs _ => cases h
  | reg _ | rm _ | rmRegister _ | rmMemory | vvvv _ | implicit _ | one | stringSource _
  | maskDestination | vsib _ _ => exact ⟨rfl, rfl, rfl⟩

/-- What an operand adds does not depend on anything else. -/
theorem advance (h : draft.Kept next) (c : Frame) (spec : OperandSpec) (start : Nat)
    (bs : List UInt8) : (draft.advance c spec start bs).Kept (next.advance c spec start bs) := by
  cases hspec : spec.isConstant with
  | false =>
    -- Neither draft changes in what is recorded.
    have hback := advance_of_not_isConstant hspec c draft start bs
    refine Kept.trans ⟨hback.constants.symm, hback.farSelector.symm, hback.memory.symm⟩ ?_
    exact h.trans (advance_of_not_isConstant hspec c next start bs)
  | true =>
    cases spec with
    | is4 cls => exact h.addImmediate _
    | immediate value => exact h.addImmediate _
    | relative offset target => exact h.addImmediate _
    | far wide =>
      have hoffset := h.addImmediate ⟨start, (OperandSpec.farOffset wide).bytes⟩
      obtain ⟨hconstants, -, hmemory⟩ :=
        hoffset.addImmediate ⟨start + (OperandSpec.farOffset wide).bytes, 2⟩
      exact ⟨hconstants, rfl, hmemory⟩
    | moffs element => exact h.setOffset _ _ _
    | reg _ | rm _ | rmRegister _ | rmMemory | vvvv _ | implicit _ | one | stringSource _
    | stringDestination _ | maskDestination | vsib _ _ => cases hspec

end Draft.Kept

namespace Frame

variable {c : Frame} {draft final : Draft} {start : Nat} {bs : List UInt8}

/-- Operands without constants leave what is recorded alone. -/
theorem kept_settleAll {os : List FormOperand} (hfree : FreeOfConstants os)
    (h : c.settleAll os draft start bs = some final) : draft.Kept final := by
  induction os generalizing draft start bs with
  | nil =>
    cases h
    exact .refl _
  | cons o os ih =>
    obtain ⟨ho, hos⟩ := List.forall_mem_cons.1 hfree
    rw [settleAll] at h
    split at h
    · cases h
    · obtain ⟨next, hnext, hrest⟩ := Option.bind_eq_some_iff.1 h
      obtain ⟨v, -, rfl⟩ := exists_value_of_settle hnext
      exact ((Draft.Kept.advance_of_not_isConstant ho c draft _ _).push v).trans (ih hos hrest)

/-! ### Whole instructions -/

section Settled

variable {os os' os'' : List FormOperand} {o o' : FormOperand}

theorem size_of_free (hfree : FreeOfConstants c.form.operands) : c.size = c.displacementSize := by
  rw [size, hfree.bytesRead_eq, Nat.add_zero]

theorem size_of_one (heq : c.form.operands = os ++ o :: os') (hos : FreeOfConstants os)
    (hos' : FreeOfConstants os') : c.size = c.displacementSize + o.spec.bytesRead c.width := by
  rw [size, heq, bytesRead_append, bytesRead, hos.bytesRead_eq, hos'.bytesRead_eq, Nat.zero_add,
    Nat.add_zero]

theorem size_of_two (heq : c.form.operands = os ++ o :: (os' ++ o' :: os''))
    (hos : FreeOfConstants os) (hos' : FreeOfConstants os') (hos'' : FreeOfConstants os'') :
    c.size = c.displacementSize + o.spec.bytesRead c.width + o'.spec.bytesRead c.width := by
  rw [size, heq, bytesRead_append, bytesRead, bytesRead_append, bytesRead, hos.bytesRead_eq,
    hos'.bytesRead_eq, hos''.bytesRead_eq]
  omega

theorem kept_of_settled_free (hfree : FreeOfConstants c.form.operands)
    (h : c.settled start bs = some final) :
    (c.opening start (bs.take c.displacementSize)).Kept final :=
  kept_settleAll hfree h

theorem operands_opening (c : Frame) (start : Nat) (bs : List UInt8) :
    (c.opening start bs).operands = [] := by
  rw [opening]
  split <;> rfl

/-- The base and the index of an address are those that the ModR/M and SIB bytes name. -/
theorem registers_of_settled (h : c.settled start bs = some final) :
    final.memory.base = c.address.elim .none AddressPlan.base ∧
      final.memory.index = c.address.elim .none AddressPlan.index := by
  obtain ⟨hbase, hindex⟩ := registers_settleAll h
  rw [hbase, hindex, opening]
  cases c.address <;> exact ⟨rfl, rfl⟩

/-- Every operand of a form is made of its own bytes. -/
theorem exists_value_of_split (heq : c.form.operands = os ++ o :: os')
    (h : c.settled start bs = some final) :
    ∃ v, c.value o.spec (((bs.drop c.displacementSize).drop (bytesRead c.width os)).take
        (o.spec.bytesRead c.width)) = some v ∧ final.operands[os.length]? = some v := by
  rw [settled, heq] at h
  obtain ⟨-, v, -, hv, -, hget⟩ := exists_of_settleAll_split h
  rw [operands_opening, List.length_nil, Nat.zero_add] at hget
  exact ⟨v, hv, hget⟩

/-- Every operand of an instruction comes from one of its form. -/
theorem exists_value_of_settled (h : c.settled start bs = some final) {v : Operand} {i : Nat}
    (hv : final.operands[i]? = some v) :
    ∃ os o os', c.form.operands = os ++ o :: os' ∧ os.length = i ∧
      c.value o.spec (((bs.drop c.displacementSize).drop (bytesRead c.width os)).take
        (o.spec.bytesRead c.width)) = some v := by
  obtain ⟨vs, hlength, hvs⟩ := exists_operands_of_settleAll h
  have hi : i < c.form.operands.length := by
    obtain ⟨hi, -⟩ := List.getElem?_eq_some_iff.1 hv
    rwa [hvs, operands_opening, List.nil_append, hlength] at hi
  have heq : c.form.operands =
      c.form.operands.take i ++ c.form.operands[i] :: c.form.operands.drop (i + 1) := by
    rw [List.getElem_cons_drop, List.take_append_drop]
  have htake : (c.form.operands.take i).length = i := List.length_take_of_le (Nat.le_of_lt hi)
  obtain ⟨v', hv', hget⟩ := exists_value_of_split heq h
  rw [htake, hv] at hget
  cases hget
  exact ⟨_, _, _, heq, htake, hv'⟩

/-- An instruction with one operand that has constants, which come after the displacement. -/
theorem kept_of_settled_one (heq : c.form.operands = os ++ o :: os') (hos : FreeOfConstants os)
    (hos' : FreeOfConstants os') (h : c.settled start bs = some final) :
    ((c.opening start (bs.take c.displacementSize)).advance c o.spec (start + c.displacementSize)
      ((bs.drop c.displacementSize).take (o.spec.bytesRead c.width))).Kept final := by
  rw [settled, heq] at h
  obtain ⟨before, v, hbefore, -, hafter, -⟩ := exists_of_settleAll_split h
  simp only [hos.bytesRead_eq, List.drop_zero, Nat.add_zero] at hafter
  have hadvance := (kept_settleAll hos hbefore).advance c o.spec (start + c.displacementSize)
    ((bs.drop c.displacementSize).take (o.spec.bytesRead c.width))
  exact (hadvance.push v).trans (kept_settleAll hos' hafter)

/-- An instruction with two operands that have constants, which come after the displacement. -/
theorem kept_of_settled_two (heq : c.form.operands = os ++ o :: (os' ++ o' :: os''))
    (hos : FreeOfConstants os) (hos' : FreeOfConstants os') (hos'' : FreeOfConstants os'')
    (h : c.settled start bs = some final) :
    let bytes := (bs.drop c.displacementSize).take (o.spec.bytesRead c.width)
    let bytes' := ((bs.drop c.displacementSize).drop (o.spec.bytesRead c.width)).take
      (o'.spec.bytesRead c.width)
    (((c.opening start (bs.take c.displacementSize)).advance c o.spec
        (start + c.displacementSize) bytes).advance c o'.spec
      (start + c.displacementSize + o.spec.bytesRead c.width) bytes').Kept final := by
  intro bytes bytes'
  rw [settled, heq] at h
  obtain ⟨before, v, hbefore, -, hafter, -⟩ := exists_of_settleAll_split h
  simp only [hos.bytesRead_eq, List.drop_zero, Nat.add_zero] at hafter
  have hfirst := (kept_settleAll hos hbefore).advance c o.spec (start + c.displacementSize) bytes
  -- The second operand comes after the first in the same way.
  obtain ⟨between, v', hbetween, -, hend, -⟩ := exists_of_settleAll_split hafter
  simp only [hos'.bytesRead_eq, List.drop_zero, Nat.add_zero] at hend
  have hsecond := ((hfirst.push v).trans (kept_settleAll hos' hbetween)).advance c o'.spec
    (start + c.displacementSize + o.spec.bytesRead c.width) bytes'
  exact (hsecond.push v').trans (kept_settleAll hos'' hend)

end Settled

end Frame

end X86Decoder
