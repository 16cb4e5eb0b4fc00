import Mathlib.Data.List.TakeWhile
import Mathlib.Data.Set.Function
import X86Decoder.CodeList
import X86Decoder.Proofs.Numbering

/-!
# Codes and forms of a table

A form table is read twice: once for its codes alone, whose order numbers them, and once for its
forms. Both readings pass over the same lines and find the same codes, so that the number of a code
is the place of its form. One cuts a row at its first bar and the other at all of them, but the
first column is the same.

* `Text.of_splitFrom_eq`: the first part of a row that is split is what is cut off it.
* `CodeList.parseColumns_eq`: the codes of rows are those of their forms.
* `Table.codes_eq_forms`: codes and forms agree, in any table that can be read and in the one here.
-/

namespace X86Decoder

/-! ### Cutting and splitting -/

namespace Text

theorem splitFrom_eq {α : Type} [DecidableEq α] (separator : α) (part l : List α) :
    splitFrom separator part l =
      (part.reverse ++ l.takeWhile (· != separator)) ::
        match l.dropWhile (· != separator) with
        | [] => []
        | _ :: rest => splitFrom separator [] rest := by
  -- The part that has been read so far grows until the first separator.
  induction l generalizing part with
  | nil => simp [splitFrom]
  | cons c l ih =>
    by_cases h : c = separator
    · simp [splitFrom, h]
    · simp [splitFrom, h, ih]

/-- A list that has a second part has a separator, and the first part is what stands before it. -/
theorem of_splitFrom_eq {α : Type} [DecidableEq α] {separator : α} {l first second : List α}
    {rest : List (List α)} (h : splitFrom separator [] l = first :: second :: rest) :
    l.contains separator ∧ l.takeWhile (· != separator) = first := by
  rw [splitFrom_eq, List.reverse_nil, List.nil_append] at h
  obtain ⟨hfirst, hmore⟩ := List.cons.inj h
  refine ⟨?_, hfirst⟩
  -- Without a separator nothing would be left after the first part.
  by_contra hnone
  have hall : ∀ a ∈ l, (a != separator) = true := by
    intro a ha
    rw [bne_iff_ne]
    rintro rfl
    exact hnone (List.contains_iff_mem.2 ha)
  rw [List.dropWhile_eq_nil_iff.2 hall] at hmore
  cases hmore

end Text

/-! ### Rows -/

theorem exists_of_bind_eq_ok {ε α β : Type} {x : Except ε α} {f : α → Except ε β} {b : β}
    (h : x >>= f = .ok b) : ∃ a, x = .ok a ∧ f a = .ok b := by
  cases x with
  | error e => cases h
  | ok a => exact ⟨a, rfl, h⟩

theorem exists_of_mapError_eq_ok {ε ε' α : Type} {x : Except ε α} {f : ε → ε'} {a : α}
    (h : x.mapError f = .ok a) : x = .ok a := by
  cases x with
  | error e => cases h
  | ok a' =>
    cases h
    rfl

namespace Form

/-- The columns after that of the code do not change it. -/
theorem code_of_parseColumns {code : Code} {encoding operands memory broadcast tuple modes flags :
    List Text.Glyph} {f : Form}
    (h : parseColumns code encoding operands memory broadcast tuple modes flags = .ok f) :
    f.code = code := by
  obtain ⟨_, -, h⟩ := exists_of_bind_eq_ok h
  obtain ⟨_, -, h⟩ := exists_of_bind_eq_ok h
  obtain ⟨_, -, h⟩ := exists_of_bind_eq_ok h
  obtain ⟨_, -, h⟩ := exists_of_bind_eq_ok h
  obtain ⟨_, -, h⟩ := exists_of_bind_eq_ok h
  obtain ⟨_, -, h⟩ := exists_of_bind_eq_ok h
  obtain ⟨_, -, h⟩ := exists_of_bind_eq_ok h
  obtain ⟨_, -, h⟩ := exists_of_bind_eq_ok h
  cases h
  rfl

/-- The first column of a row that can be read is the name of the form's code. -/
theorem ofGlyphs_of_parseRow {row : List Text.Glyph} {f : Form} (h : parseRow row = .ok f) :
    CodeList.FirstColumn.ofGlyphs row = .code f.code.name := by
  rw [parseRow] at h
  split at h
  · rename_i name _ _ _ _ _ _ _ hsplit
    split at h
    · cases h
    · rename_i code hcode
      have hf : f.code = code := code_of_parseColumns (exists_of_mapError_eq_ok h)
      obtain ⟨text, htext, hname⟩ := Option.bind_eq_some_iff.1 hcode
      -- The row has eight columns, so there is a bar to cut it at.
      obtain ⟨first, rest, hfirst, htrim, hrest⟩ := List.map_eq_cons_iff.1 hsplit
      obtain ⟨second, rest', hsecond, -, -⟩ := List.map_eq_cons_iff.1 hrest
      rw [hsecond] at hfirst
      obtain ⟨hbar, hcut⟩ := Text.of_splitFrom_eq hfirst
      rw [CodeList.FirstColumn.ofGlyphs, if_pos hbar, hcut, htrim]
      dsimp only
      rw [htext, hf, Code.name_of_ofName? hname]
  · cases h

end Form

namespace CodeList

/-- The codes of rows are those of their forms, and none of them is listed again or has been seen
before. -/
theorem parseColumns_eq {rows : List (Nat × List Text.Glyph)} {forms : List Form}
    (hforms : rows.mapM (fun row => (Form.parseRow row.2).mapError (TableFault.row row.1)) =
      .ok forms)
    {seen : List (String × Nat)} {codes : List String}
    (hcodes : parseColumns seen (rows.map fun row => (row.1, FirstColumn.ofGlyphs row.2)) =
      .ok codes) :
    codes = forms.map (fun f => f.code.name) ∧ codes.Nodup ∧
      ∀ code ∈ codes, seen.lookup code = none := by
  -- What has been seen grows by the code of each row, so it varies along with the rows.
  induction rows generalizing seen forms codes with
  | nil =>
    cases hforms
    cases hcodes
    exact ⟨rfl, List.nodup_nil, List.forall_mem_nil _⟩
  | cons row rows ih =>
    rw [List.mapM_cons] at hforms
    obtain ⟨f, hf, hforms⟩ := exists_of_bind_eq_ok hforms
    obtain ⟨forms', hforms', hforms⟩ := exists_of_bind_eq_ok hforms
    cases hforms
    rw [List.map_cons, Form.ofGlyphs_of_parseRow (exists_of_mapError_eq_ok hf),
      parseColumns] at hcodes
    -- A row without a name or with a name that has been seen would have been refused.
    split at hcodes
    · cases hcodes
    · split at hcodes
      · cases hcodes
      · rename_i hunseen
        obtain ⟨codes', hcodes', hcodes⟩ := exists_of_bind_eq_ok hcodes
        cases hcodes
        obtain ⟨heq, hnodup, hnew⟩ := ih hforms' hcodes'
        -- A later code is not this one, since this one has been seen by then.
        have hother : ∀ code ∈ codes', code ≠ f.code.name ∧ seen.lookup code = none := by
          intro code hmem
          have hlookup := hnew code hmem
          by_cases hsame : code = f.code.name
          · simp [hsame] at hlookup
          · have hbeq : (code == f.code.name) = false := beq_false_of_ne hsame
            rw [List.lookup_cons, hbeq] at hlookup
            exact ⟨hsame, hlookup⟩
        refine ⟨by rw [heq, List.map_cons], List.nodup_cons.2 ⟨fun hmem => ?_, hnodup⟩, ?_⟩
        · exact (hother _ hmem).1 rfl
        · rw [List.forall_mem_cons]
          exact ⟨hunseen, fun code hmem => (hother code hmem).2⟩

/-- Both readings of a table pass over the same lines. -/
theorem parse_eq {bytes : List UInt8} {codes : List String} {forms : List Form}
    (hcodes : parse bytes = .ok codes) (hforms : Table.parse bytes = .ok forms) :
    codes = forms.map (fun f => f.code.name) ∧ codes.Nodup := by
  rw [parse] at hcodes
  rw [Table.parse] at hforms
  obtain ⟨forms', hforms', hforms⟩ := exists_of_bind_eq_ok hforms
  obtain ⟨codes', hcodes', hcodes⟩ := exists_of_bind_eq_ok hcodes
  dsimp only at hcodes hforms
  split at hforms
  · cases hforms
  · rename_i hshort
    rw [if_neg hshort] at hcodes
    cases hforms
    cases hcodes
    obtain ⟨heq, hnodup, -⟩ := parseColumns_eq hforms' hcodes'
    exact ⟨heq, hnodup⟩

end CodeList

/-! ### The table -/

namespace Table

/-- A code that belongs to an instruction is the code of one form, and the only one. -/
theorem bijOn_code :
    Set.BijOn Form.code {f | f ∈ forms}
      {code | code ≠ .invalid ∧ code.number.toNat < Code.count} := by
  refine ⟨fun f hf => ⟨fun hinvalid => ?_, number_lt_count hf⟩, fun f hf g hg hcode => ?_,
    fun code hcode => ?_⟩
  · obtain ⟨n, hn⟩ := List.mem_iff_getElem?.1 hf
    have hnumber := number_of_getElem?_forms hn
    rw [hinvalid] at hnumber
    cases hnumber
  · exact eq_of_number_eq hf hg (congrArg (fun code => code.number.toNat) hcode)
  · obtain ⟨hvalid, hlt⟩ := hcode
    have hpos : 0 < code.number.toNat :=
      Nat.pos_of_ne_zero fun hzero => hvalid (Code.eq_of_toNat_number hzero)
    rw [Code.count_eq] at hlt
    exact exists_mem_forms hpos (Nat.le_of_lt_succ hlt)

/-- The codes of a table and its forms are read alike. From any bytes that both can be read from,
the codes are those of the forms, one for each and in order, and none of them twice. In the table
here each row has a form, whose code is the one that is found by the name in the row. The codes are
numbered in the order of the rows, counting from one, and a code finds the form that has it and no
other, so that each code but that of no instruction belongs to exactly one form. -/
theorem codes_eq_forms :
    (∀ (bytes : List UInt8) (codes : List String) (read : List Form),
      CodeList.parse bytes = .ok codes → Table.parse bytes = .ok read →
      codes = read.map (fun f => f.code.name) ∧ codes.Nodup) ∧
    forms.length = entries.length ∧
    (∀ (n : Nat) (e : Entry), entries[n]? = some e →
      ∃ f, forms[n]? = some f ∧ Code.ofName? e.name = some f.code ∧ e.form f.code = f ∧
        f.code.number.toNat = n + 1 ∧ f.code.name = e.name ∧ form? f.code = some f) ∧
    (∀ (code : Code) (f : Form), form? code = some f ↔ f ∈ forms ∧ f.code = code) ∧
    Set.BijOn Form.code {f | f ∈ forms}
      {code | code ≠ .invalid ∧ code.number.toNat < Code.count} := by
  refine ⟨fun bytes codes read hcodes hread => CodeList.parse_eq hcodes hread,
    length_forms.trans length_entries.symm, fun n e he => ?_, fun _ _ => form?_eq_some_iff,
    bijOn_code⟩
  obtain ⟨f, hf, hform, hnumber, hname⟩ := exists_form_of_getElem? he
  exact ⟨f, hf, hname, hform, hnumber, Code.name_of_ofName? hname,
    form?_code (List.mem_iff_getElem?.2 ⟨n, hf⟩)⟩

/-- A comment with a stray byte, a blank line, and rows in another order than here, with white space
of different kinds around their columns. -/
theorem codes_eq_forms_three :
    let bytes := 0x23 :: 0xff :: (
      "\r\n\n  Or_Eb_Gb | 08 /r | Eb,Gb | UInt8 | - | - | 16,32,64 | -\r\n" ++
      "Add_Eb_Gb|00 /r|Eb,Gb|UInt8|-|-|16,32,64|-\n" ++
      "Pushw_ES\t| o16 06 | ES | - | - | - | 16,32 | -").toUTF8.toList
    ∃ codes read, CodeList.parse bytes = .ok codes ∧ Table.parse bytes = .ok read ∧
      codes = ["Or_Eb_Gb", "Add_Eb_Gb", "Pushw_ES"] ∧
      read.map (fun f => f.code.number.toNat) = [17, 1, 13] ∧
      codes = read.map (fun f => f.code.name) ∧ codes.Nodup := by
  intro bytes
  obtain ⟨hcodes, hnumbers⟩ :
      CodeList.parse bytes = .ok ["Or_Eb_Gb", "Add_Eb_Gb", "Pushw_ES"] ∧
      (Table.parse bytes).toOption.map (List.map fun f => f.code.number.toNat) =
        some [17, 1, 13] := by
    decide +kernel
  cases hread : Table.parse bytes with
  | error fault => rw [hread] at hnumbers; cases hnumbers
  | ok read =>
    rw [hread] at hnumbers
    obtain ⟨heq, hnodup⟩ := codes_eq_forms.1 bytes _ read hcodes hread
    exact ⟨_, read, hcodes, rfl, rfl, Option.some.inj hnumbers, heq, hnodup⟩

end Table

end X86Decoder
