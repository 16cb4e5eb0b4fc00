import X86Decoder.Text.Blank

/-!
# Joining and cutting text

What is joined by a separator that none of the parts holds is cut at it into the same parts.

* `Text.words_intercalate`: words joined by spaces are the words of the text.
* `Text.split_intercalate`: parts joined by a separator are the parts of the text.
-/

namespace X86Decoder.Text

/-- Characters that are no white space belong to the current word. -/
theorem wordsFrom_append {cs : List Char} (h : ∀ c ∈ cs, isBlank c = false)
    (word rest : List Char) :
    wordsFrom word (cs ++ rest) = wordsFrom (cs.reverse ++ word) rest := by
  induction cs generalizing word with
  | nil => rfl
  | cons c cs ih =>
    rw [List.forall_mem_cons] at h
    rw [List.cons_append, wordsFrom, h.1, List.reverse_cons, List.append_assoc]
    exact ih h.2 (c :: word)

/-- Words joined by spaces are the words of the text. -/
theorem words_intercalate {tokens : List String}
    (h : ∀ token ∈ tokens, token ≠ "" ∧ ∀ c ∈ token.toList, isBlank c = false) :
    words (" ".intercalate tokens) = tokens := by
  induction tokens with
  | nil => rfl
  | cons token tokens ih =>
    rw [List.forall_mem_cons] at h
    obtain ⟨⟨hne, hword⟩, hrest⟩ := h
    have hreverse : (token.toList.reverse).isEmpty = false := by
      rw [List.isEmpty_reverse, List.isEmpty_eq_false_iff]
      exact fun hnil => hne (String.toList_eq_nil_iff.1 hnil)
    rw [words] at ih ⊢
    cases tokens with
    | nil =>
      rw [String.intercalate_singleton, ← List.append_nil token.toList, wordsFrom_append hword,
        List.append_nil, wordsFrom, hreverse]
      simp
    | cons next tokens =>
      rw [String.intercalate_cons_cons, String.toList_append, String.toList_append,
        List.append_assoc, wordsFrom_append hword, List.append_nil]
      change (wordsFrom token.toList.reverse
        (' ' :: (" ".intercalate (next :: tokens)).toList)).map String.ofList = _
      rw [wordsFrom, hreverse]
      change (token.toList.reverse.reverse ::
        wordsFrom [] (" ".intercalate (next :: tokens)).toList).map String.ofList = _
      rw [List.map_cons, ih hrest, List.reverse_reverse, String.ofList_toList]

/-- Items other than the separator belong to the current part. -/
theorem splitFrom_append {α : Type} [DecidableEq α] {separator : α} {l : List α}
    (h : separator ∉ l) (part rest : List α) :
    splitFrom separator part (l ++ rest) = splitFrom separator (l.reverse ++ part) rest := by
  induction l generalizing part with
  | nil => rfl
  | cons c l ih =>
    rw [List.mem_cons, not_or] at h
    rw [List.cons_append, splitFrom, if_neg (Ne.symm h.1), List.reverse_cons, List.append_assoc]
    exact ih h.2 (c :: part)

/-- Parts joined by a separator are the parts of the text. -/
theorem split_intercalate {separator : Char} {parts : List String} (hne : parts ≠ [])
    (h : ∀ part ∈ parts, separator ∉ part.toList) :
    split separator ((String.singleton separator).intercalate parts) = parts := by
  induction parts with
  | nil => exact absurd rfl hne
  | cons part parts ih =>
    rw [List.forall_mem_cons] at h
    rw [split] at ih ⊢
    cases parts with
    | nil =>
      rw [String.intercalate_singleton, ← List.append_nil part.toList, splitFrom_append h.1,
        splitFrom]
      simp
    | cons next parts =>
      rw [String.intercalate_cons_cons, String.toList_append, String.toList_append,
        List.append_assoc, splitFrom_append h.1, List.append_nil, String.toList_singleton,
        List.singleton_append, splitFrom, if_pos rfl, List.map_cons,
        ih (List.cons_ne_nil _ _) h.2, List.reverse_reverse, String.ofList_toList]

end X86Decoder.Text
