import X86Decoder.Proofs.Constants.Value

/-!
# Edits of constants

Bytes of a constant that are replaced by others change the value of that constant and nothing else.
Operands are settled one after the other, so the argument goes along them: what has been settled
before the constant does not depend on its bytes, and what comes after it does not notice a change
of the one value.

* `Span.Patches`: bytes that differ at one place only.
* `Draft.Unnoticed`: an edit of drafts that operands to come do not notice.
* `Frame.settleAll_map`: settling operands after an edit.
* `Frame.settled_setOperand`, `Frame.settled_setSelector`, `Frame.settled_setOffset`,
  `Frame.settled_setDisplacement`: what a patch of each kind of constant changes.
-/

namespace X86Decoder

open Reader (word)

/-! ### Patches -/

/-- The second list of bytes is the first with other bytes at a place. -/
structure Span.Patches (span : Span) (bs bs' : List UInt8) : Prop where
  length_eq : bs'.length = bs.length
  take_eq : bs'.take span.offset = bs.take span.offset
  drop_eq : bs'.drop (span.offset + span.size) = bs.drop (span.offset + span.size)

namespace Span.Patches

variable {bs bs' : List UInt8} {offset size : Nat}

theorem take_before {span : Span} (h : span.Patches bs bs') {n : Nat} (hn : n ≤ span.offset) :
    bs'.take n = bs.take n := by
  rw [← Nat.min_eq_left hn, ← List.take_take, ← List.take_take, h.take_eq]

theorem drop_after {span : Span} (h : span.Patches bs bs') {n : Nat}
    (hn : span.offset + span.size ≤ n) : bs'.drop n = bs.drop n := by
  obtain ⟨k, rfl⟩ := Nat.exists_eq_add_of_le hn
  have hdrop := congrArg (List.drop k) h.drop_eq
  rwa [List.drop_drop, List.drop_drop] at hdrop

/-- Bytes before the patched place can be left away. -/
theorem drop {start : Nat} (h : Span.Patches ⟨start + offset, size⟩ bs bs') :
    Span.Patches ⟨offset, size⟩ (bs.drop start) (bs'.drop start) where
  length_eq := by rw [List.length_drop, List.length_drop, h.length_eq]
  take_eq := by
    have htake := congrArg (List.drop start) h.take_eq
    rwa [List.drop_take, List.drop_take, Nat.add_sub_cancel_left] at htake
  drop_eq := by
    rw [List.drop_drop, List.drop_drop, ← Nat.add_assoc]
    exact h.drop_eq

/-- Bytes after the patched place can be left away. -/
theorem take (h : Span.Patches ⟨offset, size⟩ bs bs') {total : Nat}
    (htotal : offset + size ≤ total) :
    Span.Patches ⟨offset, size⟩ (bs.take total) (bs'.take total) where
  length_eq := by rw [List.length_take, List.length_take, h.length_eq]
  take_eq := by
    have hle : offset ≤ total := Nat.le_trans (Nat.le_add_right _ _) htotal
    rw [List.take_take, List.take_take, Nat.min_eq_left hle]
    exact h.take_eq
  drop_eq := by
    rw [List.drop_take, List.drop_take]
    exact congrArg (List.take _) h.drop_eq

end Span.Patches

/-! ### Edits of drafts -/

namespace Draft

/-- The draft with another operand in a place. -/
def setOperand (draft : Draft) (i : Nat) (v : Operand) : Draft :=
  { draft with operands := draft.operands.set i v }

/-- The draft with another displacement. -/
def setDisplacement (draft : Draft) (v : UInt64) : Draft :=
  { draft with memory := { draft.memory with displacement := v } }

/-- Operands to come make the same of a draft, before or after the edit, if there are enough
operands in it already. -/
structure Unnoticed (c : Frame) (n : Nat) (os : List FormOperand) (edit : Draft → Draft) :
    Prop where
  length_eq : ∀ draft, (edit draft).operands.length = draft.operands.length
  push : ∀ draft, n ≤ draft.operands.length → ∀ v, edit (draft.push v) = (edit draft).push v
  advance : ∀ o ∈ os, ∀ draft start bs,
    edit (draft.advance c o.spec start bs) = (edit draft).advance c o.spec start bs
  repeatsIndex : ∀ o ∈ os, o.spec.isVsib → ∀ draft,
    Reader.repeatsIndex (edit draft) = Reader.repeatsIndex draft

variable {c : Frame} {n : Nat} {os : List FormOperand}

theorem Unnoticed.tail {o : FormOperand} {edit : Draft → Draft} (h : Unnoticed c n (o :: os) edit) :
    Unnoticed c n os edit where
  length_eq := h.length_eq
  push := h.push
  advance o ho := h.advance o (List.mem_cons_of_mem _ ho)
  repeatsIndex o ho := h.repeatsIndex o (List.mem_cons_of_mem _ ho)

/-- Only a vector of indices looks back at the operands before it. -/
theorem unnoticed_setOperand (hvsib : ∀ o ∈ os, o.spec.isVsib = false) {i : Nat} (hi : i < n)
    (v : Operand) : Unnoticed c n os (·.setOperand i v) where
  length_eq draft := List.length_set
  push draft hn v' := by
    simp only [setOperand, Draft.push]
    rw [List.set_append_left i v (Nat.lt_of_lt_of_le hi hn)]
  advance o ho draft start bs := by
    cases o.spec with
    | stringDestination element =>
      exact apply_ite (fun d : Draft => d.setOperand i v) (draft.memory.segment = .none) _ _
    | _ => rfl
  repeatsIndex o ho h := by
    rw [hvsib o ho] at h
    cases h

/-- Operands without constants have nothing to do with the selector. -/
theorem unnoticed_setSelector (hfree : FreeOfConstants os) (selector : UInt16) :
    Unnoticed c n os (·.setSelector selector) where
  length_eq draft := rfl
  push draft hn v' := rfl
  advance o ho draft start bs := by
    have hspec := hfree o ho
    revert hspec
    cases o.spec with
    | far wide => exact fun h => by cases h
    | stringDestination element =>
      exact fun _ =>
        apply_ite (fun d : Draft => d.setSelector selector) (draft.memory.segment = .none) _ _
    | _ => exact fun _ => rfl
  repeatsIndex o ho h draft := rfl

/-- Only an absolute offset takes the place of a displacement. -/
theorem unnoticed_setDisplacement (hmoffs : ∀ o ∈ os, o.spec.isMoffs = false) (v : UInt64) :
    Unnoticed c n os (·.setDisplacement v) where
  length_eq draft := rfl
  push draft hn v' := rfl
  advance o ho draft start bs := by
    have hspec := hmoffs o ho
    revert hspec
    cases o.spec with
    | moffs element => exact fun h => by cases h
    | stringDestination element =>
      exact fun _ =>
        apply_ite (fun d : Draft => d.setDisplacement v) (draft.memory.segment = .none) _ _
    | _ => exact fun _ => rfl
  repeatsIndex o ho h draft := rfl

end Draft

namespace Frame

variable {c : Frame} {draft final : Draft} {edit : Draft → Draft} {start n : Nat}
  {bs bs' : List UInt8} {os os' : List FormOperand} {o : FormOperand}

/-- Settling an operand after an edit. -/
theorem settle_map (h : Draft.Unnoticed c n (o :: os) edit) (hn : n ≤ draft.operands.length) :
    c.settle (edit draft) o.spec start bs = (c.settle draft o.spec start bs).map edit := by
  have hmem : o ∈ o :: os := List.mem_cons_self
  have hrepeats : (o.spec.isVsib && Reader.repeatsIndex (edit draft)) =
      (o.spec.isVsib && Reader.repeatsIndex draft) := by
    cases hvsib : o.spec.isVsib with
    | false => rfl
    | true => rw [h.repeatsIndex o hmem hvsib]
  rw [settle, settle, hrepeats]
  split
  · rfl
  · rw [Option.map_map, ← h.advance o hmem]
    congr 1
    funext v
    refine (h.push _ ?_ v).symm
    rwa [Draft.operands_advance]

/-- Settling operands after an edit. -/
theorem settleAll_map (h : Draft.Unnoticed c n os edit) (hn : n ≤ draft.operands.length) :
    c.settleAll os (edit draft) start bs = (c.settleAll os draft start bs).map edit := by
  induction os generalizing draft start bs with
  | nil => rfl
  | cons o os ih =>
    rw [settleAll, settleAll, h.length_eq, settle_map h hn]
    split
    · rfl
    · rw [Option.bind_map, Option.map_bind]
      refine Option.bind_congr fun next hnext => ?_
      obtain ⟨v, -, rfl⟩ := exists_value_of_settle hnext
      refine ih h.tail (Nat.le_trans hn ?_)
      rw [Draft.push, List.length_append, Draft.operands_advance]
      exact Nat.le_add_right _ _

/-- Operands depend on no bytes but theirs. -/
theorem settleAll_congr (h : bs'.take (bytesRead c.width os) = bs.take (bytesRead c.width os)) :
    c.settleAll os draft start bs' = c.settleAll os draft start bs := by
  induction os generalizing draft start bs bs' with
  | nil => rfl
  | cons o os ih =>
    rw [bytesRead] at h
    have hfirst := congrArg (List.take (o.spec.bytesRead c.width)) h
    rw [List.take_take, List.take_take, Nat.min_eq_left (Nat.le_add_right _ _)] at hfirst
    have hrest := congrArg (List.drop (o.spec.bytesRead c.width)) h
    rw [List.drop_take, List.drop_take, Nat.add_sub_cancel_left] at hrest
    simp only [settleAll, hfirst, ih hrest]

/-- The bytes of an operand, among those of all operands. -/
def slice (c : Frame) (os : List FormOperand) (o : FormOperand) (bs : List UInt8) : List UInt8 :=
  (bs.drop (bytesRead c.width os)).take (o.spec.bytesRead c.width)

/-- One operand among others gets other bytes. If what this changes is an edit that the operands
after it do not notice, it is all that changes. -/
theorem settleAll_patch (h : c.settleAll (os ++ o :: os') draft start bs = some final)
    (hvsib : o.spec.isVsib = false) {offset size : Nat}
    (hsize : offset + size ≤ o.spec.bytesRead c.width)
    (hpatch : Span.Patches ⟨bytesRead c.width os + offset, size⟩ bs bs') {v' : Operand}
    (hv' : c.value o.spec (c.slice os o bs') = some v')
    (hedit : Draft.Unnoticed c (draft.operands.length + os.length + 1) os' edit)
    (hnext : ∀ (before : Draft) place v,
      before.operands.length = draft.operands.length + os.length →
      c.value o.spec (c.slice os o bs) = some v →
      (before.advance c o.spec place (c.slice os o bs')).push v' =
        edit ((before.advance c o.spec place (c.slice os o bs)).push v)) :
    c.settleAll (os ++ o :: os') draft start bs' = some (edit final) := by
  rw [settleAll_append] at h ⊢
  rw [settleAll_congr (hpatch.take_before (Nat.le_add_right _ _))]
  obtain ⟨before, hbefore, hrest⟩ := Option.bind_eq_some_iff.1 h
  rw [hbefore, Option.bind_some]
  obtain ⟨vs, hvs, hoperands⟩ := exists_operands_of_settleAll hbefore
  have hlength : before.operands.length = draft.operands.length + os.length := by
    rw [hoperands, List.length_append, hvs]
  -- The bytes after the operand are the same again.
  have hafter : (bs'.drop (bytesRead c.width os)).drop (o.spec.bytesRead c.width) =
      (bs.drop (bytesRead c.width os)).drop (o.spec.bytesRead c.width) :=
    hpatch.drop.drop_after hsize
  rw [settleAll] at hrest ⊢
  split at hrest
  · cases hrest
  · obtain ⟨next, hsettle, hrest⟩ := Option.bind_eq_some_iff.1 hrest
    obtain ⟨v, hv, rfl⟩ := exists_value_of_settle hsettle
    have hle : draft.operands.length + os.length + 1 ≤
        ((before.advance c o.spec (start + bytesRead c.width os) (c.slice os o bs)).push
          v).operands.length := by
      rw [Draft.push, List.length_append, Draft.operands_advance, hlength]
      exact Nat.le_refl _
    have hedited := hnext before (start + bytesRead c.width os) v hlength hv
    rw [slice] at hv' hedited hle
    rw [if_neg ‹_›, settle, hvsib, Bool.false_and, if_neg Bool.false_ne_true, hv', Option.map_some,
      Option.bind_some, hafter, hedited, slice, settleAll_map hedit hle, hrest]
    rfl

/-! ### Constants of an instruction -/

section Settled

variable (heq : c.form.operands = os ++ o :: os')

include heq

/-- One operand of an instruction gets other bytes. -/
theorem settled_patch (h : c.settled start bs = some final) (hvsib : o.spec.isVsib = false)
    {offset size : Nat} (hsize : offset + size ≤ o.spec.bytesRead c.width)
    (hpatch : Span.Patches ⟨c.displacementSize + (bytesRead c.width os + offset), size⟩ bs bs')
    {v' : Operand} (hv' : c.value o.spec (c.slice os o (bs'.drop c.displacementSize)) = some v')
    (hedit : Draft.Unnoticed c (os.length + 1) os' edit)
    (hnext : ∀ (before : Draft) place v, before.operands.length = os.length →
      c.value o.spec (c.slice os o (bs.drop c.displacementSize)) = some v →
      (before.advance c o.spec place (c.slice os o (bs'.drop c.displacementSize))).push v' =
        edit ((before.advance c o.spec place (c.slice os o (bs.drop c.displacementSize))).push v)) :
    c.settled start bs' = some (edit final) := by
  have hlength : ∀ bs, (c.opening start bs).operands.length + os.length = os.length := by
    intro bs
    rw [operands_opening, List.length_nil, Nat.zero_add]
  rw [settled, heq] at h ⊢
  rw [hpatch.take_before (Nat.le_add_right _ _)]
  refine settleAll_patch h hvsib hsize hpatch.drop hv' ?_ fun before place v hbefore => ?_
  · rwa [hlength]
  · rw [hlength] at hbefore
    exact hnext before place v hbefore

/-- An operand that leaves the same behind is all that changes. -/
theorem settled_setOperand (h : c.settled start bs = some final)
    (hvsib : ∀ o ∈ c.form.operands, o.spec.isVsib = false) {offset size : Nat}
    (hsize : offset + size ≤ o.spec.bytesRead c.width)
    (hpatch : Span.Patches ⟨c.displacementSize + (bytesRead c.width os + offset), size⟩ bs bs')
    (hadvance : ∀ (before : Draft) place,
      before.advance c o.spec place (c.slice os o (bs'.drop c.displacementSize)) =
        before.advance c o.spec place (c.slice os o (bs.drop c.displacementSize)))
    {v' : Operand} (hv' : c.value o.spec (c.slice os o (bs'.drop c.displacementSize)) = some v') :
    c.settled start bs' = some (final.setOperand os.length v') := by
  rw [heq] at hvsib
  obtain ⟨-, ho, hos'⟩ := List.forall_mem_append.1 hvsib |>.imp_right List.forall_mem_cons.1
  refine settled_patch heq h ho hsize hpatch hv'
    (Draft.unnoticed_setOperand hos' (Nat.lt_succ_self _) v') fun before place v hbefore _ => ?_
  rw [hadvance, Draft.setOperand, Draft.push, Draft.push, Draft.operands_advance, ← hbefore,
    List.set_append_right _ _ (Nat.le_refl _), Nat.sub_self]
  rfl

/-- The selector of a far branch is all that changes with its bytes. -/
theorem settled_setSelector (h : c.settled start bs = some final) (hos' : FreeOfConstants os')
    {wide : Bool} (hspec : o.spec = .far wide)
    (hpatch : Span.Patches ⟨c.displacementSize +
      (bytesRead c.width os + (OperandSpec.farOffset wide).bytes), 2⟩ bs bs') :
    c.settled start bs' = some (final.setSelector
      (word ((c.slice os o (bs'.drop c.displacementSize)).drop
        (OperandSpec.farOffset wide).bytes)).toUInt16) := by
  have hsize : (OperandSpec.farOffset wide).bytes + 2 ≤ o.spec.bytesRead c.width := by
    rw [hspec]
    exact Nat.le_refl _
  have htake :
      (c.slice os o (bs'.drop c.displacementSize)).take (OperandSpec.farOffset wide).bytes =
        (c.slice os o (bs.drop c.displacementSize)).take (OperandSpec.farOffset wide).bytes :=
    (hpatch.drop.drop.take hsize).take_eq
  refine settled_patch heq h (by rw [hspec]; rfl) hsize hpatch (by rw [hspec]; rfl)
    (Draft.unnoticed_setSelector hos' _) fun before place v _ hv => ?_
  rw [hspec] at hv ⊢
  cases hv
  rw [htake]
  rfl

/-- An absolute offset is all that changes with its bytes. -/
theorem settled_setOffset (h : c.settled start bs = some final) (hos' : FreeOfConstants os')
    (hmoffs : o.spec.isMoffs)
    (hpatch : Span.Patches ⟨c.displacementSize + bytesRead c.width os, c.width.bytes⟩ bs bs') :
    c.settled start bs' =
      some (final.setDisplacement (word (c.slice os o (bs'.drop c.displacementSize)))) := by
  obtain ⟨element, hspec⟩ := OperandSpec.isMoffs_iff.1 hmoffs
  have hfree : ∀ o ∈ os', o.spec.isMoffs = false := by
    intro o ho
    have hconstant := hos' o ho
    revert hconstant
    cases o.spec <;> first | exact fun _ => rfl | exact fun h => by cases h
  have hsize : 0 + c.width.bytes ≤ o.spec.bytesRead c.width := by
    rw [hspec, Nat.zero_add]
    exact Nat.le_refl _
  refine settled_patch heq h (by rw [hspec]; rfl) hsize hpatch (by rw [hspec]; rfl)
    (Draft.unnoticed_setDisplacement hfree _) fun before place v _ hv => ?_
  rw [hspec] at hv ⊢
  cases hv
  rfl

end Settled

/-- A displacement is all that changes with its bytes. -/
theorem settled_setDisplacement (hc : c.Regular) (h : c.settled start bs = some final)
    {a : AddressPlan} (haddress : c.address = some a)
    (hpatch : Span.Patches ⟨0, c.displacementSize⟩ bs bs') :
    c.settled start bs' =
      some (final.setDisplacement (c.displacement a.size (bs'.take c.displacementSize))) := by
  have hmoffs : ∀ o ∈ c.form.operands, o.spec.isMoffs = false :=
    fun _ => isMoffs_eq_false hc haddress
  have hopening : c.opening start (bs'.take c.displacementSize) =
      (c.opening start (bs.take c.displacementSize)).setDisplacement
        (c.displacement a.size (bs'.take c.displacementSize)) := by
    simp only [opening, haddress]
    rfl
  have hdrop : bs'.drop c.displacementSize = bs.drop c.displacementSize :=
    hpatch.drop_after (Nat.le_of_eq (Nat.zero_add _))
  rw [settled] at h ⊢
  rw [hdrop, hopening, settleAll_map (Draft.unnoticed_setDisplacement hmoffs _) (Nat.zero_le _), h]
  rfl

end Frame

end X86Decoder
