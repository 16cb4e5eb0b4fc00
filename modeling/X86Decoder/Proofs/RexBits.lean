import X86Decoder.Proofs.Lockstep
import X86Decoder.Proofs.Decodable
import X86Decoder.Proofs.PrefixRun
import X86Decoder.Proofs.Quiet
import X86Decoder.Proofs.SelfDelimiting.Opcode
import X86Decoder.Proofs.Slot

/-!
# The bits of a REX prefix

The bits R, X and B of a REX prefix name registers and nothing else. Bytes are an instruction with
any of them or with none, of the same length and with the constants in the same places. The forms
that have their register in the opcode come in pairs, one for B and one without it, so that a slot
that has a form for the one has such a form for the other.

There is one exception. With B set, the opcodes from B4 to B7 would move a byte to R12L, R13L, R14L
or R15L, but these forms forbid a REX prefix, without which there is no B. So they are lost, and
nothing else takes their place.

* `Table.isBalanced`: a slot has forms that are alike with and without B.
* `Table.findsAlike_lookup`: the forms found under prefixes that differ in R, X and B only.
* `Reader.lockstep_bodyFrom`: what is read behind such prefixes.
* `decode_rex_renames`: the bits of a REX prefix never decide where an instruction ends.
-/

namespace X86Decoder

/-! ### Slots with and without B -/

namespace Form

/-- Whether B plays no part in finding the form. -/
def ignoresB (f : Form) : Bool :=
  match f.constraint with
  | .legacy c =>
    match c.rexB with
    | .any => true
    | _ => false
  | _ => true

/-- Whether the form is not found under a REX prefix with B. -/
def refusesB (f : Form) : Bool :=
  match f.constraint with
  | .legacy c => !(c.rex.allows true && c.rexB.allows true)
  | _ => false

/-- Whether nothing but the operand size, the mandatory prefix and the bits of a REX prefix plays a
part in finding the form. -/
def isBare (f : Form) : Bool :=
  match f.modrm, f.constraint with
  | .absent, .legacy c => c.addressSize.isNone
  | _, _ => false

/-- Whether the form moves an immediate to a byte register with a number from 4 to 7. -/
def movesHighByte (f : Form) : Bool :=
  match f.map with
  | .primary => decide (0xb4 ≤ f.opcode.toNat) && decide (f.opcode.toNat ≤ 0xb7)
  | _ => false

/-- Whether any register numbers will do for the operands of the form, unless it has an extended
prefix. -/
def isFree (f : Form) : Bool :=
  match f.constraint with
  | .legacy _ => f.operands.all fun o => o.spec.isFree
  | _ => true

end Form

/-- The prefixes as far as they tell bare forms apart under a REX prefix. -/
def PrefixState.bare (p : PrefixState) : PrefixState :=
  { mandatory := p.mandatory
    operandSizeOverride := p.operandSizeOverride
    w := p.w
    rex := some ⟨0x40⟩
    b := p.b }

namespace Table

/-- The prefixes that can tell bare forms apart, without B. -/
def sizes : List PrefixState :=
  [Mandatory.none, .p66, .pF2, .pF3].flatMap fun mandatory =>
    [false, true].flatMap fun operandSize => [false, true].map fun w =>
      { mandatory := mandatory, operandSizeOverride := operandSize, w := w, rex := some ⟨0x40⟩ }

/-- Whether bare forms of a slot are found with B exactly if they are found without it, and have the
same operands then but for those that are implied. -/
def pairsUnder (slot : List Form) (p : PrefixState) : Bool :=
  match firstMatch { p with b := false } (.known .bits64) ⟨0⟩ slot none,
    firstMatch { p with b := true } (.known .bits64) ⟨0⟩ slot none with
  | .ok f, .ok g =>
    decide ((f.operands.filter fun o => !o.spec.isImplicit) =
      g.operands.filter fun o => !o.spec.isImplicit)
  | .error _, .error _ => true
  | _, _ => false

/-- Whether the forms of a slot are alike with and without B. -/
def isBalanced (slot : List Form) : Bool :=
  slot.all Form.isFree &&
    if slot.any Form.movesHighByte then slot.all Form.refusesB
    else slot.all Form.ignoresB || (slot.all Form.isBare && sizes.all (pairsUnder slot))

theorem isBalanced_slot {f : Form} (hf : f ∈ forms) :
    isBalanced (slot f.encoding f.map f.opcode) :=
  of_all_slots (by decide +kernel) hf

end Table

/-! ### Looking up a form -/

namespace Form

variable {f : Form} {p q : PrefixState}

/-- Only B can tell forms apart under prefixes that differ in R, X and B. -/
theorem mismatch_eq_of_renamed (h : p.Renamed q) (hb : p.b = q.b ∨ f.ignoresB) (mode : Mode)
    (m : ModRM) : f.mismatch q (.known mode) m = f.mismatch p (.known mode) m := by
  have hrex : q.hasRex = p.hasRex := h.hasRex_right.trans h.hasRex.symm
  have hallows : ∀ c, f.constraint = .legacy c → c.rexB.allows q.b = c.rexB.allows p.b := by
    intro c hc
    rcases hb with hb | hb
    · rw [hb]
    · rw [ignoresB, hc] at hb
      dsimp only at hb
      split at hb
      · rename_i hany
        rw [hany]
        rfl
      · cases hb
  rw [mismatch, mismatch, prefixMismatch, prefixMismatch]
  cases hc : f.constraint with
  | legacy c =>
    dsimp only
    rw [legacyMismatch, legacyMismatch, hrex, hallows c hc, h.eq]
    rfl
  | vex c | evex c | xop c =>
    rw [h.eq]
    rfl

/-- Only a part of the prefixes tells bare forms apart, and no ModR/M byte does. -/
theorem mismatch_eq_of_isBare (hf : f.isBare) (hp : p.hasRex) (m : ModRM) :
    f.mismatch p (.known .bits64) m = f.mismatch p.bare (.known .bits64) ⟨0⟩ := by
  rw [isBare] at hf
  split at hf
  · rename_i c hmodrm hc
    have hsize : c.addressSize = none := Option.isNone_iff_eq_none.1 hf
    have hmodrm' : ∀ m, f.modrmMismatch m = none := by
      intro m
      rw [modrmMismatch, hmodrm]
      rfl
    rw [mismatch, mismatch, prefixMismatch, prefixMismatch, hc]
    dsimp only
    rw [hmodrm', hmodrm', legacyMismatch, legacyMismatch, hsize, hp]
    rfl
  · cases hf

end Form

namespace Table

/-- Two searches that both find a form, and forms that are alike, or that both find none. -/
inductive FindsAlike {ε ε' : Type} : Except ε Form → Except ε' Form → Prop
  | ok {f g : Form} (h : f.Alike g) : FindsAlike (.ok f) (.ok g)
  | error {e : ε} {e' : ε'} : FindsAlike (.error e) (.error e')

namespace FindsAlike

variable {ε ε' : Type} {r : Except ε Form} {r' : Except ε' Form}

theorem refl (r : Except ε Form) : FindsAlike r r := by
  cases r with
  | ok f => exact .ok (.refl f)
  | error e => exact .error

theorem symm (h : FindsAlike r r') : FindsAlike r' r := by
  cases h with
  | ok h => exact .ok ⟨fun m => (h.namesMemory m).symm, h.operands.symm⟩
  | error => exact .error

end FindsAlike

/-- Forms without a ModR/M byte never name memory. -/
theorem namesMemory_of_isBare {f : Form} (hf : f.isBare) (m : ModRM) : f.namesMemory m = false := by
  rw [Form.isBare] at hf
  split at hf
  · rename_i hmodrm _
    rw [Form.namesMemory, hmodrm]
    rfl
  · cases hf

variable {p q : PrefixState} {m : ModRM}

/-- What the test of a slot says of the forms that are found with one B and another. -/
theorem findsAlike_of_pairsUnder {fs : List Form} (hbare : ∀ f ∈ fs, f.isBare)
    (h : pairsUnder fs p) (b b' : Bool) :
    FindsAlike (firstMatch { p with b := b } (.known .bits64) ⟨0⟩ fs none)
      (firstMatch { p with b := b' } (.known .bits64) ⟨0⟩ fs none) := by
  have hpair : FindsAlike (firstMatch { p with b := false } (.known .bits64) ⟨0⟩ fs none)
      (firstMatch { p with b := true } (.known .bits64) ⟨0⟩ fs none) := by
    rw [pairsUnder] at h
    split at h
    · rename_i f g hf hg
      have hf' := hbare f (firstMatch_ok hf).1
      have hg' := hbare g (firstMatch_ok hg).1
      rw [hf, hg]
      refine .ok ⟨fun m => ?_, of_decide_eq_true h⟩
      rw [namesMemory_of_isBare hf', namesMemory_of_isBare hg']
    · rename_i hf hg
      rw [hf, hg]
      exact .error
    · cases h
  cases b <;> cases b'
  · exact .refl _
  · exact hpair
  · exact hpair.symm
  · exact .refl _

theorem bare_mem_sizes (h : p.mandatory ∈ [.none, .p66, .pF2, .pF3]) :
    { p.bare with b := false } ∈ sizes := by
  rw [PrefixState.bare]
  dsimp only
  generalize p.mandatory = mandatory at h
  cases p.operandSizeOverride <;> cases p.w <;> revert mandatory <;> decide

/-- Bare forms that pass the test are found alike under prefixes that differ in B. -/
theorem findsAlike_of_isBare {fs : List Form} (h : p.Renamed q) (hbare : ∀ f ∈ fs, f.isBare)
    (hsizes : sizes.all (pairsUnder fs)) :
    FindsAlike (firstMatch p (.known .bits64) m fs none)
      (firstMatch q (.known .bits64) m fs none) := by
  have hpairs := findsAlike_of_pairsUnder hbare
    (List.all_eq_true.1 hsizes _ (bare_mem_sizes h.mandatory_mem)) p.b q.b
  have hq : q.bare = { p.bare with b := q.b } := by
    rw [PrefixState.bare, h.eq]
    rfl
  rw [firstMatch_congr (fun f hf => Form.mismatch_eq_of_isBare (hbare f hf) h.hasRex m),
    firstMatch_congr (fun f hf => Form.mismatch_eq_of_isBare (hbare f hf) h.hasRex_right m), hq]
  exact hpairs

/-- The opcodes that move an immediate to a byte register with a number from 4 to 7. -/
def highByteMoves : List UInt8 :=
  [0xb4, 0xb5, 0xb6, 0xb7]

theorem movesHighByte_iff {f : Form} :
    f.movesHighByte ↔ f.map = .primary ∧ f.opcode ∈ highByteMoves := by
  have hopcode : ∀ b : UInt8, (decide (0xb4 ≤ b.toNat) && decide (b.toNat ≤ 0xb7)) =
      decide (b ∈ highByteMoves) := by
    intro b
    exact eq_of_beq (Bits.of_all_bytes (fun b => (decide (0xb4 ≤ b.toNat) &&
      decide (b.toNat ≤ 0xb7)) == decide (b ∈ highByteMoves)) (by decide) b)
  rw [Form.movesHighByte]
  split
  · rename_i hmap
    rw [hopcode, decide_eq_true_iff, hmap]
    simp
  · rename_i hmap
    exact ⟨fun h => (Bool.false_ne_true h).elim, fun h => (hmap h.1).elim⟩

/-- Under prefixes that differ in R, X and B only, forms are found alike, unless B is to tell
between the registers that have no form for it. -/
theorem findsAlike_lookup (h : p.Renamed q) {op : UInt8}
    (hop : p.map = .primary → op ∈ highByteMoves → p.b = q.b) :
    FindsAlike (lookup p (.known .bits64) op m) (lookup q (.known .bits64) op m) := by
  -- The slot is the same for both, so it is the search in it that counts.
  have hfirst : FindsAlike (firstMatch p (.known .bits64) m (slot p.encoding p.map op) none)
      (firstMatch q (.known .bits64) m (slot p.encoding p.map op) none) := by
    by_cases hb : p.b = q.b
    · rw [firstMatch_congr fun f _ => Form.mismatch_eq_of_renamed h (.inl hb) .bits64 m]
      exact .refl _
    · cases hslot : slot p.encoding p.map op with
      | nil => exact .error
      | cons f fs =>
        have hall : ∀ g ∈ f :: fs, g ∈ forms ∧ g.encoding = p.encoding ∧ g.map = p.map ∧
            g.opcode = op := by
          intro g hg
          rwa [← hslot, mem_slot_iff] at hg
        obtain ⟨hf, hencoding, hmap, hopcode⟩ := hall f List.mem_cons_self
        have hbalanced := isBalanced_slot hf
        rw [hencoding, hmap, hopcode, hslot, isBalanced, Bool.and_eq_true] at hbalanced
        -- The one kind of slot that is not balanced has been left out.
        have hhigh : (f :: fs).any Form.movesHighByte = false := by
          rw [List.any_eq_false]
          intro g hg hmoves
          obtain ⟨-, -, hmap', hopcode'⟩ := hall g hg
          rw [movesHighByte_iff, hmap', hopcode'] at hmoves
          exact hb (hop hmoves.1 hmoves.2)
        rw [hhigh, if_neg Bool.false_ne_true, Bool.or_eq_true, Bool.and_eq_true,
          List.all_eq_true, List.all_eq_true] at hbalanced
        rcases hbalanced.2 with hignores | ⟨hbare, hsizes⟩
        · rw [firstMatch_congr fun g hg =>
            Form.mismatch_eq_of_renamed h (.inr (hignores g hg)) .bits64 m]
          exact .refl _
        · exact findsAlike_of_isBare h (List.all_eq_true.1 hbare) hsizes
  rw [lookup, lookup, h.encoding_eq, h.map_eq]
  generalize firstMatch p (.known .bits64) m (slot p.encoding p.map op) none = r at hfirst ⊢
  generalize firstMatch q (.known .bits64) m (slot p.encoding p.map op) none = r' at hfirst ⊢
  cases hfirst with
  | ok halike => exact .ok halike
  | error => exact .error

/-- Under a REX prefix with B there is no form for those registers. -/
theorem exists_error_of_highByteMoves (hmap : p.map = .primary) (hrex : p.hasRex) (hb : p.b)
    {op : UInt8} (hop : op ∈ highByteMoves) : ∃ e, lookup p (.known .bits64) op m = .error e := by
  cases hlookup : lookup p (.known .bits64) op m with
  | error e => exact ⟨e, rfl⟩
  | ok f =>
    obtain ⟨hf, -, hmap', hopcode, hmatch⟩ := lookup_ok hlookup
    have hmem := mem_slot_iff.2 ⟨hf, rfl, rfl, rfl⟩
    have hmoves : f.movesHighByte := by
      rw [movesHighByte_iff, hmap', hopcode]
      exact ⟨hmap, hop⟩
    have hbalanced := isBalanced_slot hf
    rw [isBalanced, Bool.and_eq_true, if_pos (List.any_eq_true.2 ⟨f, hmem, hmoves⟩),
      List.all_eq_true, List.all_eq_true] at hbalanced
    -- The form demands that there is no REX prefix, or no B.
    have hrefuses := hbalanced.2 f hmem
    rw [Form.refusesB] at hrefuses
    split at hrefuses
    · rename_i c hc
      rw [Bool.not_eq_true'] at hrefuses
      rw [Form.mismatch, Form.prefixMismatch, hc] at hmatch
      dsimp only at hmatch
      rw [Form.legacyMismatch, hrex, hb, hrefuses] at hmatch
      simp [demand] at hmatch
    · cases hrefuses

/-- A form without an extended prefix goes with any register numbers. -/
theorem free_of_legacy {f : Form} (hf : f ∈ forms) (hencoding : f.encoding = .legacy) : f.Free := by
  have hbalanced := isBalanced_slot hf
  rw [isBalanced, Bool.and_eq_true, List.all_eq_true] at hbalanced
  have hfree := hbalanced.1 f (mem_slot_iff.2 ⟨hf, rfl, rfl, rfl⟩)
  refine ⟨?_, (sound hf).length_operands⟩
  rw [Form.isFree] at hfree
  split at hfree
  · exact List.all_eq_true.1 hfree
  · rename_i hnot
    rw [Form.encoding] at hencoding
    cases hc : f.constraint with
    | legacy c => exact (hnot c hc).elim
    | _ =>
      rw [hc] at hencoding
      cases hencoding

end Table

/-! ### Behind the prefixes -/

/-- The readers have the same bytes before them, and their prefixes are related. -/
structure ReadState.Beside (I : PrefixState → PrefixState → Prop) (s t : ReadState) : Prop where
  abreast : s.Abreast t
  prefixes : I s.prefixes t.prefixes

namespace Reader

variable {α β : Type} {p q : PrefixState} {m : ModRM}

/-- Readers that leave the prefixes alone keep them related. -/
theorem Alongside.beside {n : Reader α} {k : Reader β} {R : α → β → Prop} {P : α → Prop}
    {P' : β → Prop} (h : Alongside n k R) (hn : n.Quiet P) (hk : k.Quiet P')
    (I : PrefixState → PrefixState → Prop) :
    Lockstep (ReadState.Beside I) n k fun a b s t => R a b ∧ s.Beside I t := by
  intro s t hst
  have hrun := h.lockstep s t hst.abreast
  have hs := hn.agree s
  have ht := hk.agree t
  generalize n.runOn s = r at hrun hs ⊢
  generalize k.runOn t = r' at hrun ht ⊢
  cases hrun with
  | ok hab =>
    refine .ok ⟨hab.1, hab.2, ?_⟩
    rw [hs.prefixes, ht.prefixes]
    exact hst.prefixes
  | error => exact .error

theorem lockstep_modifyPrefixes {I J : PrefixState → PrefixState → Prop}
    {f g : PrefixState → PrefixState} (h : ∀ p q, I p q → J (f p) (g q)) :
    Lockstep (ReadState.Beside I) (modifyPrefixes f) (modifyPrefixes g)
      fun _ _ s t => s.Beside J t :=
  fun _ _ hst => .ok ⟨⟨hst.abreast.rest, hst.abreast.consumed⟩, h _ _ hst.prefixes⟩

/-- Nothing may stand between a REX prefix and the opcode. -/
theorem paired_checkBefore (encoding : EncodingKind) {s t : ReadState} (hs : s.prefixes.hasRex)
    (ht : t.prefixes.hasRex) :
    Paired (fun _ _ _ _ => False) ((checkBefore encoding).runOn s)
      ((checkBefore encoding).runOn t) := by
  have hfault : ∀ u : ReadState, u.prefixes.hasRex →
      (checkBefore encoding).runOn u = (.error (.prefixes (.rexBefore encoding)), u) := by
    intro u hu
    rw [checkBefore, runOn_bind_of_ok (runOn_prefixes u), PrefixState.faultBefore?, if_pos hu]
    rfl
  rw [hfault s hs, hfault t ht]
  exact .error

/-- Behind a REX prefix an extended prefix is refused. -/
theorem lockstep_extendedOpcode {I : PrefixState → PrefixState → Prop}
    {J : UInt8 → UInt8 → ReadState → ReadState → Prop} {b : UInt8} {starts : Reader Bool}
    {encoding : EncodingKind} {rest : Unit → Reader Unit}
    (hstarts : Lockstep (ReadState.Beside I) starts starts fun a b s t => a = b ∧ s.Beside I t)
    (hI : ∀ p q, I p q → p.Renamed q) (hJ : ∀ s t, s.Beside I t → J b b s t) :
    Lockstep (ReadState.Beside I)
      (extendedOpcode b starts (checkBefore encoding >>= rest))
      (extendedOpcode b starts (checkBefore encoding >>= rest)) J := by
  refine hstarts.bind fun extended extended' => ?_
  rintro s t ⟨rfl, hst⟩
  cases extended with
  | false => exact .ok (hJ s t hst)
  | true =>
    -- Both fail at the check, so nothing has to be said of what would be read after it.
    refine Lockstep.bind (P := ReadState.Beside I) (Q := fun _ _ _ _ => False)
      (lockstep_bind_of_fails fun s t hst => ?_) (fun _ _ _ _ h => h.elim) s t hst
    exact paired_checkBefore encoding (hI _ _ hst.prefixes).hasRex
      (hI _ _ hst.prefixes).hasRex_right

/-- What is peeked at is the same. -/
theorem lockstep_nextIs (I : PrefixState → PrefixState → Prop) (test : UInt8 → Bool) :
    Lockstep (ReadState.Beside I) (nextIs test) (nextIs test)
      fun a b s t => a = b ∧ s.Beside I t := by
  intro s t hst
  rw [nextIs, runOn_bind_of_ok (runOn_peek? s), runOn_bind_of_ok (runOn_peek? t),
    hst.abreast.rest, hst.abreast.consumed]
  exact .ok ⟨rfl, hst⟩

/-- An escape leads to another opcode map. -/
theorem lockstep_escapedOpcode {I : PrefixState → PrefixState → Prop}
    (hI : ∀ p q map, I p q → I { p with map := map } { q with map := map }) :
    Lockstep (ReadState.Beside I) escapedOpcode escapedOpcode fun op op' s t =>
      op = op' ∧ s.Beside (fun p q => I p q ∧ p.map ≠ .primary) t := by
  have hbyte : ∀ J, Lockstep (ReadState.Beside J) byte byte fun b b' s t =>
      b = b' ∧ s.Beside J t := alongside_byte.beside quiet_byte quiet_byte
  have hmap : ∀ {map : OpcodeMap}, map ≠ .primary →
      Lockstep (ReadState.Beside I) (modifyPrefixes fun p => { p with map := map })
        (modifyPrefixes fun p => { p with map := map })
        fun _ _ s t => s.Beside (fun p q => I p q ∧ p.map ≠ .primary) t :=
    fun hne => lockstep_modifyPrefixes fun p q h => ⟨hI p q _ h, hne⟩
  refine (hbyte I).bind fun b b' => ?_
  rintro s t ⟨rfl, hst⟩
  split
  · exact (hmap (by decide)).bind (fun _ _ => hbyte _) s t hst
  · split
    · exact (hmap (by decide)).bind (fun _ _ => hbyte _) s t hst
    · exact (hmap (by decide)).bind (fun _ _ => lockstep_pure fun _ _ h => ⟨rfl, h⟩) s t hst

/-- Prefixes that differ in R, X and B only, and not in B where the byte after them moves to a
register that has no form for it. -/
structure RenamedBefore (b : UInt8) (p q : PrefixState) : Prop where
  renamed : p.Renamed q
  b_eq : b ∈ Table.highByteMoves → p.b = q.b

theorem RenamedBefore.setMap {b : UInt8} (h : RenamedBefore b p q) (map : OpcodeMap) :
    RenamedBefore b { p with map := map } { q with map := map } where
  renamed := ⟨h.renamed.encoding, h.renamed.mandatory_mem, h.renamed.hasRex,
    h.renamed.hasRex_right, by rw [h.renamed.eq]⟩
  b_eq := h.b_eq

/-- The opcode is the same, and in the primary map it is the byte that was read. -/
theorem lockstep_opcodeFrom (b : UInt8) :
    Lockstep (ReadState.Beside (RenamedBefore b)) (opcodeFrom .bits64 b) (opcodeFrom .bits64 b)
      fun op op' s t => op = op' ∧
        s.Beside (fun p q => RenamedBefore b p q ∧ (p.map = .primary → op = b)) t := by
  have hself : ∀ s t : ReadState, s.Beside (RenamedBefore b) t →
      b = b ∧ s.Beside (fun p q => RenamedBefore b p q ∧ (p.map = .primary → b = b)) t :=
    fun s t hst => ⟨rfl, hst.abreast, hst.prefixes, fun _ => rfl⟩
  have hrenamed : ∀ p q, RenamedBefore b p q → p.Renamed q := fun p q h => h.renamed
  have hextended : Lockstep (ReadState.Beside (RenamedBefore b)) (startsExtended .bits64)
      (startsExtended .bits64) fun a b' s t => a = b' ∧ s.Beside (RenamedBefore b) t :=
    lockstep_pure fun _ _ h => ⟨rfl, h⟩
  rw [opcodeFrom]
  split
  · exact lockstep_extendedOpcode hextended hrenamed hself
  · split
    · exact lockstep_extendedOpcode hextended hrenamed hself
    · split
      · exact lockstep_extendedOpcode (lockstep_nextIs _ _) hrenamed hself
      · split
        · -- Behind an escape the map is another one, and the byte need not be the opcode.
          refine (lockstep_escapedOpcode fun p q map h => h.setMap map).mono (fun _ _ => id) ?_
          rintro op op' s t ⟨hop, hst⟩
          exact ⟨hop, hst.abreast, hst.prefixes.1, fun hmap => (hst.prefixes.2 hmap).elim⟩
        · exact lockstep_pure hself

theorem alongside_modrm (h : p.Renamed q) (op : UInt8) :
    Alongside (modrm p op) (modrm q op) Eq := by
  rw [modrm, modrm, h.encoding_eq, h.map_eq]
  split
  · exact alongside_throw _ _
  · split
    · refine alongside_byte.bind fun b b' hb => ?_
      subst hb
      exact alongside_pure rfl
    · exact alongside_pure rfl

/-- Both prefixes find a form, or none of them does. -/
theorem alongside_form (h : p.Renamed q) {op : UInt8}
    (hop : p.map = .primary → op ∈ Table.highByteMoves → p.b = q.b) :
    Alongside (form p .bits64 op m) (form q .bits64 op m)
      fun f g => f.Free ∧ g.Free ∧ f.Alike g := by
  have hfinds := Table.findsAlike_lookup (m := m) h hop
  rw [form, form, Table.lookupChecked, Table.lookupChecked, h.encoding_eq, h.map_eq]
  split
  · rw [request, request, pure_bind, pure_bind]
    cases hf : Table.lookup p (.known .bits64) op m with
    | error e =>
      cases hg : Table.lookup q (.known .bits64) op m with
      | error e' =>
        dsimp only
        split <;> split <;> exact alongside_throw _ _
      | ok g =>
        rw [hf, hg] at hfinds
        cases hfinds
    | ok f =>
      cases hg : Table.lookup q (.known .bits64) op m with
      | error e' =>
        rw [hf, hg] at hfinds
        cases hfinds
      | ok g =>
        rw [hf, hg] at hfinds
        obtain ⟨hmem, hencoding, -⟩ := Table.lookup_ok hf
        obtain ⟨hmem', hencoding', -⟩ := Table.lookup_ok hg
        cases hfinds with
        | ok halike =>
          exact alongside_pure ⟨Table.free_of_legacy hmem (hencoding.trans h.encoding),
            Table.free_of_legacy hmem' (hencoding'.trans h.symm.encoding), halike⟩
  · exact alongside_throw _ _

/-- Read the rest of an instruction whose first byte that is no prefix has been read. -/
def bodyFrom (mode : Mode) (b : UInt8) : Reader Body := do
  modifyPrefixes fun p => { p with encoding := .legacy, map := .primary }
  let op ← opcodeFrom mode b
  let p ← prefixes
  let m ← modrm p op
  let f ← form p mode op m
  formBody p mode m f

theorem body_eq (mode : Mode) : body mode = legacyPrefixes mode >>= bodyFrom mode := by
  simp only [body, selector, opcode, withModRM, bind_assoc, pure_bind]
  rfl

/-- Behind prefixes that differ in R, X and B only, the same bytes are read, and the constants stand
in the same places. -/
theorem lockstep_bodyFrom (b : UInt8) :
    Lockstep (ReadState.Beside (RenamedBefore b)) (bodyFrom .bits64 b) (bodyFrom .bits64 b)
      fun body body' _ _ =>
        body.length = body'.length ∧ body.draft.constants = body'.draft.constants := by
  refine (lockstep_modifyPrefixes (J := RenamedBefore b) fun p q h => ?_).bind fun _ _ => ?_
  · exact ⟨⟨rfl, h.renamed.mandatory_mem, h.renamed.hasRex, h.renamed.hasRex_right,
      by rw [h.renamed.eq]⟩, h.b_eq⟩
  refine (lockstep_opcodeFrom b).bind fun op op' => ?_
  rintro s t ⟨rfl, hst⟩
  -- From here on the prefixes are looked at no more.
  obtain ⟨h, hop⟩ := hst.prefixes
  have hrest : Alongside
      (modrm s.prefixes op >>= fun m => form s.prefixes .bits64 op m >>=
        formBody s.prefixes .bits64 m)
      (modrm t.prefixes op >>= fun m => form t.prefixes .bits64 op m >>=
        formBody t.prefixes .bits64 m)
      fun body body' =>
        body.length = body'.length ∧ body.draft.constants = body'.draft.constants := by
    refine (alongside_modrm h.renamed op).bind fun m m' hm => ?_
    subst hm
    refine (alongside_form h.renamed fun hmap hmem => h.b_eq (hop hmap ▸ hmem)).bind ?_
    rintro f g ⟨hf, hg, halike⟩
    exact alongside_formBody h.renamed hf hg halike
  rw [runOn_bind_of_ok (runOn_prefixes s), runOn_bind_of_ok (runOn_prefixes t)]
  exact hrest.lockstep.mono (fun _ _ => id) (fun _ _ _ _ h => h.1) s t hst.abreast

/-- With B there is no move of a constant to a byte register numbered 12 to 15. -/
theorem exists_error_bodyFrom {s : ReadState} (hrex : s.prefixes.hasRex) (hb : s.prefixes.b)
    {b : UInt8} (hmoves : b ∈ Table.highByteMoves) :
    ∃ fault t, (bodyFrom .bits64 b).runOn s = (.error fault, t) := by
  rcases hrun : (bodyFrom .bits64 b).runOn s with ⟨fault | body, t⟩
  · exact ⟨fault, t, rfl⟩
  · -- None of these bytes starts an escape or an extended prefix.
    have hopcode : opcodeFrom .bits64 b = pure b := by
      simp only [Table.highByteMoves, List.mem_cons, List.not_mem_nil, or_false] at hmoves
      rcases hmoves with rfl | rfl | rfl | rfl <;> rfl
    obtain ⟨_, u, hmodify, hrest⟩ := exists_of_runOn_bind_ok hrun
    cases hmodify
    rw [hopcode, pure_bind] at hrest
    obtain ⟨p, v, hprefixes, hrest⟩ := exists_of_runOn_bind_ok hrest
    cases hprefixes
    obtain ⟨m, w, -, hrest⟩ := exists_of_runOn_bind_ok hrest
    obtain ⟨f, u, hform, -⟩ := exists_of_runOn_bind_ok hrest
    obtain ⟨e, he⟩ := Table.exists_error_of_highByteMoves (m := m)
      (p := { s.prefixes with encoding := .legacy, map := .primary }) rfl hrex hb hmoves
    rw [lookup_of_form hform] at he
    cases he

/-! ### Prefixes before a REX prefix -/

open PrefixState (ofRun)

theorem mandatory_ofRun_mem (run : List UInt8) :
    (ofRun .bits64 run).mandatory ∈ [.none, .p66, .pF2, .pF3] := by
  change PrefixRun.mandatory run ∈ _
  rw [PrefixRun.mandatory]
  split
  · decide
  · decide
  · split <;> decide

/-- REX prefixes with the same W after the same prefixes. -/
theorem renamed_addRex (run : List UInt8) {x y : Rex} (hw : x.w = y.w) :
    ((ofRun .bits64 run).addRex x).Renamed ((ofRun .bits64 run).addRex y) :=
  ⟨rfl, mandatory_ofRun_mem run, rfl, rfl, by rw [PrefixState.addRex, PrefixState.addRex, hw]⟩

/-- One more prefix puts an end to a REX prefix. -/
theorem add?_addRex (p : PrefixState) (x y : Rex) (b : UInt8) :
    (p.addRex x).add? .bits64 b = (p.addRex y).add? .bits64 b := by
  rw [PrefixState.add?, PrefixState.add?]
  split
  · rw [PrefixState.addLegacy_eq, PrefixState.addLegacy_eq]
    rfl
  · rfl

section Rex

variable {pre : List UInt8} (rest : List UInt8) {x y : UInt8}
  (hpre : ∀ b ∈ pre, (LegacyPrefix.ofByte? b).isSome)

include hpre

/-- Legacy prefixes and a REX prefix are read as a whole, if there is room for them. -/
theorem runOn_legacyPrefixes_rex (hx : Rex.isRex x) (hlength : pre.length < maxLength) :
    (legacyPrefixes .bits64).runOn { rest := pre ++ x :: rest } =
      scanPrefixes .bits64 rest
        { rest := rest, consumed := pre.length + 1
          prefixes := (ofRun .bits64 pre).addRex ⟨x⟩ } := by
  have hrun : (pre ++ [x]).all (isPrefixByte .bits64) := by
    simp only [List.all_append, List.all_cons, List.all_nil, Bool.and_true, Bool.and_eq_true,
      List.all_eq_true]
    exact ⟨fun b hb => by simp [isPrefixByte_eq, hpre b hb], by simp [isPrefixByte_eq, hx]⟩
  have hscan := scanPrefixes_run (s := { rest := pre ++ x :: rest }) hrun [] rest
    (PrefixState.ofRun_nil .bits64).symm (by simp; omega)
  rw [List.append_assoc, List.singleton_append, List.nil_append,
    PrefixState.ofRun_concat_rex .bits64 pre hx] at hscan
  rw [runOn_legacyPrefixes, hscan, ← scanPrefixes_with_rest .bits64 rest rest]
  simp

/-- Too many legacy prefixes are refused. -/
theorem exists_error_of_maxLength_le (data : List UInt8) (hlength : maxLength ≤ pre.length) :
    ∃ fault t, (legacyPrefixes .bits64).runOn { rest := pre ++ data } = (.error fault, t) := by
  have hrun : (pre.take maxLength).all (isPrefixByte .bits64) := by
    rw [List.all_eq_true]
    exact fun b hb => by simp [isPrefixByte_eq, hpre b (List.mem_of_mem_take hb)]
  have hlen : (pre.take maxLength).length = maxLength := by
    rw [List.length_take, Nat.min_eq_left hlength]
  have hscan := scanPrefixes_run (s := { rest := pre ++ data }) hrun []
    (pre.drop maxLength ++ data) (PrefixState.ofRun_nil .bits64).symm (by simp [hlen])
  rw [← List.append_assoc, List.take_append_drop,
    scanPrefixes_of_maxLength_le .bits64 (pre.drop maxLength ++ data) (by simp [hlen])] at hscan
  exact ⟨_, _, hscan⟩

/-- Under either REX prefix the same byte is the first that is no prefix. It follows the REX prefix,
or the prefixes that the readers have come to are the same. -/
theorem lockstep_legacyPrefixes (hx : Rex.isRex x) (hy : Rex.isRex y)
    (hw : (Rex.mk x).w = (Rex.mk y).w)
    (hb : ∀ b ∈ rest.head?, b ∈ Table.highByteMoves → (Rex.mk x).b = (Rex.mk y).b) :
    Lockstep (fun s t => s = { rest := pre ++ x :: rest } ∧ t = { rest := pre ++ y :: rest })
      (legacyPrefixes .bits64) (legacyPrefixes .bits64)
      fun b b' s t => b = b' ∧ (s = t ∨ s.Beside (RenamedBefore b) t) := by
  rintro s t ⟨rfl, rfl⟩
  -- What is left of the data after the REX prefix begins with a prefix, with another byte or not at
  -- all, the same for both readers.
  by_cases hlength : pre.length < maxLength
  · rw [runOn_legacyPrefixes_rex rest hpre hx hlength,
      runOn_legacyPrefixes_rex rest hpre hy hlength]
    cases rest with
    | nil => exact .error
    | cons b rest =>
      rw [scanPrefixes, scanPrefixes]
      split
      · exact .error
      · dsimp only
        rw [add?_addRex _ ⟨x⟩ ⟨y⟩]
        split
        · -- The states are the same from here on.
          exact Paired.refl fun c u => ⟨rfl, .inl rfl⟩
        · exact .ok ⟨rfl, .inr ⟨⟨rfl, rfl⟩, renamed_addRex pre hw, hb b rfl⟩⟩
  · have hmax := Nat.le_of_not_lt hlength
    obtain ⟨_, _, hleft⟩ := exists_error_of_maxLength_le hpre (x :: rest) hmax
    obtain ⟨_, _, hright⟩ := exists_error_of_maxLength_le hpre (y :: rest) hmax
    rw [hleft, hright]
    exact .error

/-- The readings behind two REX prefixes, where B does not stand before one of those moves. -/
theorem paired_body (hx : Rex.isRex x) (hy : Rex.isRex y) (hw : (Rex.mk x).w = (Rex.mk y).w)
    (hb : ∀ b ∈ rest.head?, b ∈ Table.highByteMoves → (Rex.mk x).b = (Rex.mk y).b) :
    Paired
      (fun body body' _ _ =>
        body.length = body'.length ∧ body.draft.constants = body'.draft.constants)
      ((body .bits64).runOn { rest := pre ++ x :: rest })
      ((body .bits64).runOn { rest := pre ++ y :: rest }) := by
  rw [body_eq]
  refine (lockstep_legacyPrefixes rest hpre hx hy hw hb).bind (fun b b' => ?_) _ _ ⟨rfl, rfl⟩
  rintro s t ⟨rfl, rfl | hst⟩
  · exact Paired.refl fun _ _ => ⟨rfl, rfl⟩
  · exact lockstep_bodyFrom b s t hst

/-- Those moves are no instructions right behind a REX prefix with B. -/
theorem exists_error_body (hx : Rex.isRex x) (hb : (Rex.mk x).b) {b : UInt8}
    (hhead : rest.head? = some b) (hmoves : b ∈ Table.highByteMoves) :
    ∃ fault t, (body .bits64).runOn { rest := pre ++ x :: rest } = (.error fault, t) := by
  rw [body_eq]
  by_cases hlength : pre.length < maxLength
  · have hscan := runOn_legacyPrefixes_rex rest hpre hx hlength
    obtain ⟨rest, rfl⟩ : ∃ tail, rest = b :: tail := List.head?_eq_some_iff.1 hhead
    rw [scanPrefixes] at hscan
    split at hscan
    · exact ⟨_, _, runOn_bind_of_error hscan⟩
    · have hnone : ((ofRun .bits64 pre).addRex ⟨x⟩).add? .bits64 b = none := by
        simp only [Table.highByteMoves, List.mem_cons, List.not_mem_nil, or_false] at hmoves
        rcases hmoves with rfl | rfl | rfl | rfl <;> rfl
      rw [hnone] at hscan
      rw [runOn_bind_of_ok hscan]
      exact exists_error_bodyFrom rfl hb hmoves
  · obtain ⟨_, _, hleft⟩ := exists_error_of_maxLength_le hpre (x :: rest) (Nat.le_of_not_lt hlength)
    exact ⟨_, _, runOn_bind_of_error hleft⟩

end Rex

end Reader

/-- In 64-bit mode R, X and B of a REX prefix decide neither whether bytes are an instruction, nor
how long it is, nor where its constants stand. The exception is B right before the opcodes from B4 to
B7: with it these are no instructions at all. -/
theorem decode_rex_renames (pre rest : List UInt8) {x y : UInt8} (ip : UInt64)
    (hpre : ∀ b ∈ pre, (LegacyPrefix.ofByte? b).isSome) (hx : Rex.isRex x) (hy : Rex.isRex y)
    (hw : (Rex.mk x).w = (Rex.mk y).w) :
    ((∀ b ∈ rest.head?, b ∈ Table.highByteMoves → (Rex.mk x).b = (Rex.mk y).b) →
      ((∃ inst, (decode .bits64 (pre ++ x :: rest) ip).outcome = .ok inst) ↔
        ∃ inst, (decode .bits64 (pre ++ y :: rest) ip).outcome = .ok inst) ∧
      ∀ inst inst', (decode .bits64 (pre ++ x :: rest) ip).outcome = .ok inst →
        (decode .bits64 (pre ++ y :: rest) ip).outcome = .ok inst' →
        inst.length = inst'.length ∧ inst.constants = inst'.constants) ∧
    ((Rex.mk x).b → (∃ b ∈ rest.head?, b ∈ Table.highByteMoves) →
      ∃ e, (decode .bits64 (pre ++ x :: rest) ip).outcome = .error e) := by
  refine ⟨fun hb => ?_, ?_⟩
  · have hpaired := Reader.paired_body rest hpre hx hy hw hb
    simp only [decode, decodeFrom_eq_ok_iff]
    generalize (Reader.body .bits64).runOn { rest := pre ++ x :: rest } = left at hpaired ⊢
    generalize (Reader.body .bits64).runOn { rest := pre ++ y :: rest } = right at hpaired ⊢
    cases hpaired with
    | ok h =>
      refine ⟨⟨fun _ => ⟨_, _, _, rfl, rfl⟩, fun _ => ⟨_, _, _, rfl, rfl⟩⟩, ?_⟩
      rintro _ _ ⟨_, _, hleft, rfl⟩ ⟨_, _, hright, rfl⟩
      cases hleft
      cases hright
      exact h
    | error => simp
  · rintro hb ⟨b, hhead, hmoves⟩
    obtain ⟨fault, t, hrun⟩ := Reader.exists_error_body rest hpre hx hb hhead hmoves
    exact ⟨⟨t.consumed, fault⟩, decodeFrom_eq_error_iff.2 ⟨t, hrun, rfl⟩⟩

/-- A move of a constant to SPL, alone and behind another prefix. -/
theorem exists_decode_mov_spl :
    (∃ inst, (decode .bits64 [0x40, 0xb4, 0x12] 0).outcome = .ok inst) ∧
      ∃ inst, (decode .bits64 [0x66, 0x40, 0xb4, 0x12] 0).outcome = .ok inst ∧
        inst.length = 4 := by
  have halone : (Reader.legacyPrefixes .bits64).runOn { rest := [0x40, 0xb4, 0x12] } =
      (.ok 0xb4, { rest := [0x12], consumed := 2, prefixes := { rex := some ⟨0x40⟩ } }) := rfl
  have hbehind : (Reader.legacyPrefixes .bits64).runOn { rest := [0x66, 0x40, 0xb4, 0x12] } =
      (.ok 0xb4, { rest := [0x12], consumed := 3
                   prefixes := { operandSizeOverride := true, mandatory := .p66
                                 rex := some ⟨0x40⟩ } }) := rfl
  have hlengths :
      ((Reader.body .bits64).runOn { rest := [0x40, 0xb4, 0x12] }).1.toOption.any
        (fun body => body.length == 3) ∧
      ((Reader.body .bits64).runOn { rest := [0x66, 0x40, 0xb4, 0x12] }).1.toOption.any
        fun body => body.length == 4 := by
    rw [Reader.body_eq, Reader.runOn_bind_of_ok halone, Reader.runOn_bind_of_ok hbehind]
    simp only [Reader.bodyFrom, Reader.modrm, Reader.form, Table.lookupChecked, Table.lookup,
      Table.hasModRM, Table.slot_eq_filter, Table.forms_eq]
    decide +kernel
  obtain ⟨body, t, hbody, -⟩ := Reader.exists_of_any_runOn hlengths.1
  obtain ⟨body', t', hbody', htest⟩ := Reader.exists_of_any_runOn hlengths.2
  exact ⟨⟨_, decodeFrom_eq_ok_iff.2 ⟨body, t, hbody, rfl⟩⟩, _,
    decodeFrom_eq_ok_iff.2 ⟨body', t', hbody', rfl⟩, beq_iff_eq.1 htest⟩

/-- The same move with R and X set, and with B. -/
theorem decode_rex_renames_mov_spl :
    (∃ inst, (decode .bits64 [0x66, 0x46, 0xb4, 0x12] 0).outcome = .ok inst ∧ inst.length = 4) ∧
      ∃ e, (decode .bits64 [0x66, 0x41, 0xb4, 0x12] 0).outcome = .error e := by
  have hpre : ∀ b ∈ [(0x66 : UInt8)], (LegacyPrefix.ofByte? b).isSome :=
    List.forall_mem_singleton.2 rfl
  obtain ⟨-, inst, hinst, hlength⟩ := exists_decode_mov_spl
  obtain ⟨hsame, hlengths⟩ := (decode_rex_renames (x := 0x40) (y := 0x46) [0x66] [0xb4, 0x12] 0 hpre
    (by decide) (by decide) (by decide)).1 fun _ _ _ => rfl
  obtain ⟨inst', hinst'⟩ := hsame.1 ⟨inst, hinst⟩
  refine ⟨⟨inst', hinst', ?_⟩, ?_⟩
  · rw [← hlength, (hlengths inst inst' hinst hinst').1]
  · exact (decode_rex_renames (x := 0x41) (y := 0x40) [0x66] [0xb4, 0x12] 0 hpre (by decide)
      (by decide) (by decide)).2 (by decide) ⟨0xb4, rfl, by decide⟩

/-- B can decide whether bytes are an instruction. -/
theorem exists_decode_ne_of_rex :
    (∃ inst, (decode .bits64 [0x40, 0xb4, 0x12] 0).outcome = .ok inst) ∧
      ∃ e, (decode .bits64 [0x41, 0xb4, 0x12] 0).outcome = .error e := by
  obtain ⟨fault, t, hrun⟩ := Reader.exists_error_body (x := 0x41) [0xb4, 0x12]
    (List.forall_mem_nil _) (by decide) (by decide) rfl (by decide)
  exact ⟨exists_decode_mov_spl.1, ⟨t.consumed, fault⟩, decodeFrom_eq_error_iff.2 ⟨t, hrun, rfl⟩⟩

end X86Decoder
