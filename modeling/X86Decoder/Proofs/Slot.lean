import X86Decoder.Proofs.Table

/-!
# Slots within a section

The sections of the table have a page each, that is, an opcode map and the high half of an opcode.
So the forms that share a slot with a form are in its section, and what is to be checked of the
slots of the table can be checked section by section.

* `Table.slot_eq_filter_row`: a slot as a part of a section.
* `Table.of_all_slots`, `Table.of_all_sections`: checking all slots.
* `Table.mismatch_ne_none_of_lookup`: a lookup yields the first form that matches.
-/

namespace X86Decoder

/-- The opcode map of a form with the high half of its opcode. -/
def Form.page (f : Form) : OpcodeMap × Nat :=
  (f.map, f.opcode.toNat / 16)

/-- The encodings that forms have differ in their numbers. -/
theorem Form.encoding_eq_iff (f g : Form) :
    f.encoding = g.encoding ↔ f.encoding.number = g.encoding.number := by
  rw [Form.encoding, Form.encoding]
  cases f.constraint <;> cases g.constraint <;>
    simp [Constraint.encoding, EncodingKind.number]

namespace Table

/-- The page of a section, as its first form tells it. -/
def page? (s : List Form) : Option (OpcodeMap × Nat) :=
  s.head?.map Form.page

/-- Every section is on a page of its own. -/
theorem pages_tested :
    (pages.all fun s => s.all fun f => page? s == some f.page) ∧ (pages.map page?).Nodup := by
  decide +kernel

theorem page?_eq {s : List Form} (hs : s ∈ pages) {f : Form} (hf : f ∈ s) :
    page? s = some f.page :=
  eq_of_beq (List.all_eq_true.1 (List.all_eq_true.1 pages_tested.1 s hs) f hf)

theorem nodup_page? : (pages.map page?).Nodup :=
  pages_tested.2

/-- The forms on the page of a section are those of the section. -/
theorem filter_forms_eq {s : List Form} (hs : s ∈ pages) {test : Form → Bool}
    (htest : ∀ f, test f → page? s = some f.page) :
    forms.filter test = s.filter test := by
  obtain ⟨before, after, hpages⟩ := List.mem_iff_append.1 hs
  have hnodup := nodup_page?
  rw [hpages, List.map_append, List.map_cons, List.nodup_append, List.nodup_cons] at hnodup
  obtain ⟨-, ⟨hafter, -⟩, hbefore⟩ := hnodup
  -- A section before or after has another page.
  have hother : ∀ t ∈ pages, page? t ≠ page? s → t.filter test = [] := by
    intro t ht hne
    rw [List.filter_eq_nil_iff]
    intro f hf hpass
    exact hne ((page?_eq ht hf).trans (htest _ hpass).symm)
  have hflatten : ∀ ts : List (List Form), (∀ t ∈ ts, t ∈ pages ∧ page? t ≠ page? s) →
      ts.flatten.filter test = [] := by
    intro ts hts
    induction ts with
    | nil => rfl
    | cons t ts ih =>
      rw [List.flatten_cons, List.filter_append,
        hother t (hts t List.mem_cons_self).1 (hts t List.mem_cons_self).2,
        ih fun t' ht' => hts t' (List.mem_cons_of_mem t ht'), List.append_nil]
  have hbefore := hflatten before fun t ht =>
    ⟨by simp [hpages, ht], hbefore _ (List.mem_map_of_mem ht) _ List.mem_cons_self⟩
  have hafter := hflatten after fun t ht =>
    ⟨by simp [hpages, ht], fun h => hafter (h ▸ List.mem_map_of_mem ht)⟩
  rw [forms_eq, hpages, List.flatten_append, List.flatten_cons, List.filter_append,
    List.filter_append, hbefore, hafter, List.nil_append, List.append_nil]

/-- The forms of a section with the given low half of the opcode. -/
def row (s : List Form) (low : Nat) : List Form :=
  s.filter fun f => Nat.beq (f.opcode.toNat % 16) low

/-- The forms of a list with the encoding that has the given number. -/
def ofEncoding (number : Nat) (fs : List Form) : List Form :=
  fs.filter fun f => Nat.beq f.encoding.number number

/-- The forms that share a slot with a form of a section are in its row of the section. -/
theorem slot_eq_filter_row {s : List Form} (hs : s ∈ pages) {f : Form} (hf : f ∈ s) :
    slot f.encoding f.map f.opcode =
      ofEncoding f.encoding.number (row s (f.opcode.toNat % 16)) := by
  have hpage := page?_eq hs hf
  rw [slot_eq_filter, filter_forms_eq hs, ofEncoding, row, List.filter_filter]
  · refine List.filter_congr fun g hg => ?_
    -- Both forms are on the page of the section, so only the low half of the opcode counts.
    have hsame : g.page = f.page := Option.some.inj ((page?_eq hs hg).symm.trans hpage)
    obtain ⟨hmap, hhigh⟩ := Prod.mk.inj hsame
    rw [Bool.eq_iff_iff, decide_eq_true_iff, Bool.and_eq_true, Nat.beq_eq, Nat.beq_eq,
      Form.encoding_eq_iff, ← UInt8.toNat_inj]
    constructor
    · rintro ⟨hencoding, -, hopcode⟩
      exact ⟨hencoding, by rw [hopcode]⟩
    · rintro ⟨hencoding, hlow⟩
      exact ⟨hencoding, hmap, by omega⟩
  · intro g hg
    obtain ⟨-, hmap, hopcode⟩ := of_decide_eq_true hg
    rw [hpage, Form.page, Form.page, hmap, hopcode]

/-- A test of all elements can be made in two parts. -/
theorem all_of_parts {α : Type} {test : α → Bool} {l : List α} (n : Nat)
    (htake : (l.take n).all test) (hdrop : (l.drop n).all test) : l.all test := by
  rw [← List.take_append_drop n l, List.all_append, htake, hdrop, Bool.and_self]

/-- What has been checked of the slots of every section holds of the slot of every form. -/
theorem of_all_slots {test : List Form → Bool}
    (hall : pages.all fun s => (List.range 16).all fun low => (List.range 4).all fun number =>
      test (ofEncoding number (row s low)))
    {f : Form} (hf : f ∈ forms) : test (slot f.encoding f.map f.opcode) := by
  rw [forms_eq, List.mem_flatten] at hf
  obtain ⟨s, hs, hf⟩ := hf
  have hnumber : f.encoding.number < 4 := by
    rw [Form.encoding]
    cases f.constraint <;> simp [Constraint.encoding, EncodingKind.number]
  have hlow : f.opcode.toNat % 16 < 16 := Nat.mod_lt _ (by decide)
  simp only [List.all_eq_true, List.mem_range] at hall
  rw [slot_eq_filter_row hs hf]
  exact hall s hs _ hlow _ hnumber

/-- What has been checked of every form and its section holds of every form and the forms that share
its slot, with others beside them. -/
theorem of_all_sections {test : List Form → Form → Bool}
    (hall : pages.all fun s => s.all (test s))
    {f : Form} (hf : f ∈ forms) :
    ∃ fs, test fs f ∧ ∀ g ∈ slot f.encoding f.map f.opcode, g ∈ fs := by
  rw [forms_eq, List.mem_flatten] at hf
  obtain ⟨s, hs, hf⟩ := hf
  refine ⟨s, List.all_eq_true.1 (List.all_eq_true.1 hall s hs) f hf, ?_⟩
  intro g hg
  rw [slot_eq_filter_row hs hf] at hg
  exact (List.mem_filter.1 (List.mem_filter.1 hg).1).1

/-! ### The first match -/

/-- What the forms of a slot have in common. -/
theorem mem_slot_iff {e : EncodingKind} {map : OpcodeMap} {op : UInt8} {f : Form} :
    f ∈ slot e map op ↔ f ∈ forms ∧ f.encoding = e ∧ f.map = map ∧ f.opcode = op := by
  rw [slot_eq_filter, List.mem_filter, decide_eq_true_iff]

/-- What matches the same forms of a list finds the same one. -/
theorem firstMatch_congr {p q : PrefixState} {mode : StatedMode} {m m' : ModRM} {fs : List Form}
    (h : ∀ f ∈ fs, f.mismatch p mode m = f.mismatch q mode m') (closest : Option Mismatch) :
    firstMatch p mode m fs closest = firstMatch q mode m' fs closest := by
  induction fs generalizing closest with
  | nil => rfl
  | cons f fs ih =>
    rw [List.forall_mem_cons] at h
    rw [firstMatch, firstMatch, h.1]
    split
    · rfl
    · exact ih h.2 _

/-- No form before the first that matches does. -/
theorem exists_append_of_firstMatch {p : PrefixState} {mode : StatedMode} {m : ModRM} {f : Form}
    {fs : List Form} {closest : Option Mismatch} (h : firstMatch p mode m fs closest = .ok f) :
    ∃ before after, fs = before ++ f :: after ∧ ∀ g ∈ before, g.mismatch p mode m ≠ none := by
  induction fs generalizing closest with
  | nil => cases h
  | cons g fs ih =>
    rw [firstMatch] at h
    split at h
    · cases h
      exact ⟨[], fs, rfl, List.forall_mem_nil _⟩
    · rename_i reason hg
      obtain ⟨before, after, hfs, hbefore⟩ := ih h
      refine ⟨g :: before, after, by rw [hfs, List.cons_append], ?_⟩
      rw [List.forall_mem_cons]
      exact ⟨by simp [hg], hbefore⟩

/-- A lookup passes over a form of the same slot only if that one does not match. -/
theorem mismatch_ne_none_of_lookup {p : PrefixState} {mode : StatedMode} {o : UInt8} {m : ModRM}
    {f g : Form} (h : lookup p mode o m = .ok f) (hg : g ∈ forms)
    (hencoding : g.encoding = f.encoding) (hmap : g.map = f.map) (hopcode : g.opcode = f.opcode)
    (hlt : g.code.number.toNat < f.code.number.toNat) : g.mismatch p mode m ≠ none := by
  obtain ⟨-, hencoding', hmap', hopcode', -⟩ := lookup_ok h
  have hmem : g ∈ slot p.encoding p.map o := by
    rw [slot_eq_filter, List.mem_filter]
    refine ⟨hg, decide_eq_true ⟨?_, ?_, ?_⟩⟩
    · exact hencoding.trans hencoding'
    · exact hmap.trans hmap'
    · exact hopcode.trans hopcode'
  have hordered : (slot p.encoding p.map o).Pairwise
      fun f g => f.code.number.toNat < g.code.number.toNat := by
    rw [slot_eq_filter]
    exact pairwise_code_lt.filter _
  rw [lookup] at h
  split at h
  · rename_i f' hfirst
    cases h
    obtain ⟨before, after, hslot, hbefore⟩ := exists_append_of_firstMatch hfirst
    rw [hslot] at hmem hordered
    obtain ⟨-, hordered, -⟩ := List.pairwise_append.1 hordered
    rcases List.mem_append.1 hmem with hmem | hmem
    · exact hbefore g hmem
    · rcases List.mem_cons.1 hmem with rfl | hmem
      · omega
      · have := (List.pairwise_cons.1 hordered).1 g hmem
        omega
  · cases h

end Table

end X86Decoder
