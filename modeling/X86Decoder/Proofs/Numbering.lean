import X86Decoder.Form.Lookup
import X86Decoder.Proofs.CodeName

/-!
# Codes of the forms

A row of the table names the code of its form, and the code is the one that is found by that name.
Since the names are distinct, the codes are numbered in the order of the rows, and no form takes the
place of another one where forms are put at the numbers of their codes.

* `Table.forms_eq_numbered`: the forms of the table, with the numbers of their codes counted.
* `Table.forms_eq`: the same, section by section. This is the form to evaluate, since it looks up no
  names.
* `Table.getElem?_foldl_place`: what the places hold once all forms have been put there.
* `Table.form?_eq_some_iff`: which form is found by a code.
-/

namespace X86Decoder.Table

/-! ### Counting -/

/-- The forms of rows whose codes are numbered one after the other. -/
def numbered (n : Nat) : List Entry → List Form
  | [] => []
  | e :: es => e.form ⟨n.toUInt16⟩ :: numbered (n + 1) es

/-- The forms of sections, likewise. -/
def numberedSections (n : Nat) : List (List Entry) → List (List Form)
  | [] => []
  | s :: ss => numbered n s :: numberedSections (n + s.length) ss

/-- The forms of the sections of the table. -/
def pages : List (List Form) :=
  numberedSections 1 sections

theorem numbered_append (n : Nat) (es es' : List Entry) :
    numbered n (es ++ es') = numbered n es ++ numbered (n + es.length) es' := by
  induction es generalizing n with
  | nil => rfl
  | cons e es ih =>
    rw [List.cons_append, numbered, numbered, ih, List.cons_append, List.length_cons,
      Nat.add_right_comm, Nat.add_assoc]

theorem flatten_numberedSections (n : Nat) (ss : List (List Entry)) :
    (numberedSections n ss).flatten = numbered n ss.flatten := by
  induction ss generalizing n with
  | nil => rfl
  | cons s ss ih =>
    rw [numberedSections, List.flatten_cons, List.flatten_cons, numbered_append, ih]

theorem getElem?_numbered (n i : Nat) (es : List Entry) :
    (numbered n es)[i]? = es[i]?.map fun e => e.form ⟨(n + i).toUInt16⟩ := by
  induction es generalizing n i with
  | nil => rfl
  | cons e es ih =>
    cases i with
    | zero => rfl
    | succ i => rw [numbered, List.getElem?_cons_succ, List.getElem?_cons_succ, ih,
        Nat.add_right_comm, Nat.add_assoc]

/-- The names of rows are looked up to codes that are numbered one after the other, where the names
of all codes end with those of the rows. -/
theorem filterMap_eq_numbered (before : List String) {es : List Entry}
    (h : Code.nameList = before ++ es.map Entry.name) :
    es.filterMap (fun e => (Code.ofName? e.name).map e.form) = numbered before.length es := by
  induction es generalizing before with
  | nil => rfl
  | cons e es ih =>
    have hname : Code.nameList[before.length]? = some e.name := by
      rw [h, List.map_cons, List.getElem?_append_right (Nat.le_refl _), Nat.sub_self,
        List.getElem?_cons_zero]
    have hrest : Code.nameList = (before ++ [e.name]) ++ es.map Entry.name := by
      rw [h, List.map_cons, List.append_assoc, List.singleton_append]
    rw [List.filterMap_cons, Code.ofName?_of_getElem? hname, ih _ hrest, List.length_append]
    rfl

/-- The codes of the forms are numbered in the order of the table. -/
theorem forms_eq_numbered : forms = numbered 1 entries :=
  filterMap_eq_numbered ["INVALID"] rfl

theorem forms_eq : forms = pages.flatten := by
  rw [pages, flatten_numberedSections, forms_eq_numbered, entries]

theorem length_entries : entries.length = 3902 := by
  have hlength := Code.length_nameList
  rw [Code.nameList, List.length_cons, List.length_map] at hlength
  omega

/-- Each row has a form, whose code is counted and is found by the name in the row. -/
theorem exists_form_of_getElem? {n : Nat} {e : Entry} (h : entries[n]? = some e) :
    ∃ f, forms[n]? = some f ∧ e.form f.code = f ∧ f.code.number.toNat = n + 1 ∧
      Code.ofName? e.name = some f.code := by
  have hlt : n < 3902 := length_entries ▸ (List.getElem?_eq_some_iff.1 h).1
  have hname : Code.nameList[n + 1]? = some e.name := by
    rw [Code.nameList, List.getElem?_cons_succ, List.getElem?_map, h, Option.map_some]
  have hcode := e.code_form ⟨(n + 1).toUInt16⟩
  refine ⟨e.form ⟨(n + 1).toUInt16⟩, ?_, by rw [hcode], ?_, ?_⟩
  · rw [forms_eq_numbered, getElem?_numbered, h, Option.map_some, Nat.add_comm 1 n]
  · rw [hcode, Code.toNat_number (Nat.succ_lt_succ hlt)]
  · rw [hcode, Code.ofName?_of_getElem? hname]

theorem length_forms : forms.length = 3902 := by
  rw [← length_entries]
  refine Nat.le_antisymm (List.length_filterMap_le _ _) (Nat.le_of_not_lt fun hlt => ?_)
  obtain ⟨f, hf, -⟩ := exists_form_of_getElem? (List.getElem?_eq_getElem hlt)
  rw [List.getElem?_eq_none (Nat.le_refl _)] at hf
  cases hf

/-- The codes of the forms are numbered by their places, counting from one. -/
theorem number_of_getElem?_forms {n : Nat} {f : Form} (h : forms[n]? = some f) :
    f.code.number.toNat = n + 1 := by
  have hlt := (List.getElem?_eq_some_iff.1 h).1
  rw [length_forms, ← length_entries] at hlt
  obtain ⟨f', hf', -, hnumber, -⟩ := exists_form_of_getElem? (List.getElem?_eq_getElem hlt)
  rw [h] at hf'
  cases hf'
  exact hnumber

/-- The table is in the order of its codes. -/
theorem pairwise_code_lt :
    forms.Pairwise fun f g => f.code.number.toNat < g.code.number.toNat := by
  rw [List.pairwise_iff_getElem]
  intro i j hi hj hlt
  rw [number_of_getElem?_forms (List.getElem?_eq_getElem hi),
    number_of_getElem?_forms (List.getElem?_eq_getElem hj)]
  exact Nat.succ_lt_succ hlt

/-- Every number below that of the codes but zero is that of a form's code. -/
theorem exists_mem_forms {code : Code} (hpos : 0 < code.number.toNat)
    (hle : code.number.toNat ≤ 3902) : ∃ f ∈ forms, f.code = code := by
  have hlt : code.number.toNat - 1 < forms.length := by
    rw [length_forms]
    omega
  refine ⟨_, List.getElem_mem hlt, ?_⟩
  have hnumber := number_of_getElem?_forms (List.getElem?_eq_getElem hlt)
  rw [Nat.sub_add_cancel hpos] at hnumber
  exact Code.eq_of_toNat_number hnumber

/-! ### Forms by code -/

/-- Putting a form at the number of its code leaves the other places as they are. -/
theorem getElem?_place_of_ne {found : Array (Option Form)} {f : Form} {n : Nat}
    (h : f.code.number.toNat ≠ n) : (place found f)[n]? = found[n]? :=
  Array.getElem?_setIfInBounds_ne h

theorem getElem?_foldl_place_of_ne {fs : List Form} {found : Array (Option Form)} {n : Nat}
    (h : ∀ f ∈ fs, f.code.number.toNat ≠ n) : (fs.foldl place found)[n]? = found[n]? := by
  induction fs generalizing found with
  | nil => rfl
  | cons f fs ih =>
    rw [List.forall_mem_cons] at h
    rw [List.foldl_cons, ih h.2, getElem?_place_of_ne h.1]

/-- Forms with different codes all keep their places. -/
theorem getElem?_foldl_place {fs : List Form} {found : Array (Option Form)} {f : Form}
    (hfs : fs.Pairwise fun f g => f.code.number.toNat < g.code.number.toNat) (hf : f ∈ fs)
    (hlt : f.code.number.toNat < found.size) :
    (fs.foldl place found)[f.code.number.toNat]? = some (some f) := by
  induction fs generalizing found with
  | nil => cases hf
  | cons g fs ih =>
    obtain ⟨hlater, hfs⟩ := List.pairwise_cons.1 hfs
    rw [List.foldl_cons]
    rcases List.mem_cons.1 hf with rfl | hf
    · -- The forms after this one have other places.
      rw [getElem?_foldl_place_of_ne fun g hg => (Nat.ne_of_lt (hlater g hg)).symm, place,
        Array.getElem?_setIfInBounds_self_of_lt hlt]
    · refine ih hfs hf ?_
      rw [place, Array.size_setIfInBounds]
      exact hlt

theorem number_lt_count {f : Form} (hf : f ∈ forms) : f.code.number.toNat < Code.count := by
  obtain ⟨n, hn⟩ := List.mem_iff_getElem?.1 hf
  have hlt := (List.getElem?_eq_some_iff.1 hn).1
  rw [length_forms] at hlt
  rw [number_of_getElem?_forms hn, Code.count_eq]
  exact Nat.succ_lt_succ hlt

/-- A form is found by its code. -/
theorem form?_code {f : Form} (hf : f ∈ forms) : form? f.code = some f := by
  have hlt : f.code.number.toNat < (Array.replicate Code.count (none : Option Form)).size := by
    rw [Array.size_replicate]
    exact number_lt_count hf
  rw [form?, byCode, getElem?_foldl_place pairwise_code_lt hf hlt]
  rfl

/-- What is found by a code is the form of the table that has it. -/
theorem form?_eq_some_iff {code : Code} {f : Form} :
    form? code = some f ↔ f ∈ forms ∧ f.code = code := by
  constructor
  · intro h
    by_cases hcode : ∃ g ∈ forms, g.code.number.toNat = code.number.toNat
    · obtain ⟨g, hg, hnumber⟩ := hcode
      obtain rfl := Code.eq_of_toNat_number hnumber
      rw [form?_code hg] at h
      cases h
      exact ⟨hg, rfl⟩
    · -- Without a form to put there the place is empty.
      rw [form?, byCode, getElem?_foldl_place_of_ne fun g hg hnumber => hcode ⟨g, hg, hnumber⟩,
        Array.getElem?_replicate] at h
      split at h <;> cases h
  · rintro ⟨hf, rfl⟩
    exact form?_code hf

/-- The forms of the table have different codes. -/
theorem eq_of_number_eq {f g : Form} (hf : f ∈ forms) (hg : g ∈ forms)
    (h : f.code.number.toNat = g.code.number.toNat) : f = g := by
  have hform := form?_code hf
  rw [Code.eq_of_toNat_number h, form?_code hg] at hform
  exact (Option.some.inj hform).symm

end X86Decoder.Table
