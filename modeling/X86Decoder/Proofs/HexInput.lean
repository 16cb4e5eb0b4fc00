import Mathlib.Data.List.Forall2
import Mathlib.Data.List.Induction
import Mathlib.Algebra.Group.Nat.Even
import X86Decoder.HexInput
import X86Decoder.Proofs.Bits

/-!
# Machine code in any layout

How hexadecimal digits are spread over texts, where white space stands between them and whether the
letters among them are upper or lower case does not matter. Texts are machine code exactly if they
have an even number of digits, at least two, and nothing else but white space.

* `Text.toList_join_words`: cutting a text at white space and putting it together again takes the
  white space out.
* `HexInput.digits`, `HexInput.Spells`: the characters that count, and the bytes that they spell.
* `HexInput.parse_eq`: reading texts is reading the characters that count.
* `HexInput.parse_layout`: what texts are read as.
-/

namespace X86Decoder

namespace Text

/-- The words of a text are its characters but for the white space. -/
theorem flatten_wordsFrom (word cs : List Char) :
    (wordsFrom word cs).flatten = word.reverse ++ cs.filter fun c => !isBlank c := by
  induction cs generalizing word with
  | nil => cases word <;> simp [wordsFrom]
  | cons c cs ih =>
    rw [wordsFrom]
    cases hblank : isBlank c with
    | true => cases word <;> simp [ih, hblank]
    | false => simp [ih, hblank]

/-- Putting the words of a text together takes the white space out. -/
theorem toList_join_words (s : String) :
    (String.join (words s)).toList = s.toList.filter fun c => !isBlank c := by
  have hchars : (words s).map String.toList = wordsFrom [] s.toList := by
    simp [words, Function.comp_def]
  rw [String.toList_join, List.flatMap_def, hchars, flatten_wordsFrom]
  rfl

end Text

namespace HexInput

/-- The characters of texts that count. -/
def digits (texts : List String) : List Char :=
  (String.join texts).toList.filter fun c => !Text.isBlank c

theorem digits_cons (text : String) (texts : List String) :
    digits (text :: texts) = (text.toList.filter fun c => !Text.isBlank c) ++ digits texts := by
  rw [digits, String.join_cons, String.toList_append, List.filter_append, digits]

/-- The spaces between texts do not count. -/
theorem filter_intercalate (texts : List String) :
    ((" ".intercalate texts).toList.filter fun c => !Text.isBlank c) = digits texts := by
  induction texts with
  | nil => rfl
  | cons text texts ih =>
    cases texts with
    | nil => simp [digits, String.join_cons]
    | cons next texts =>
      have hspace : (" ".toList.filter fun c => !Text.isBlank c) = [] := by decide
      rw [String.intercalate_cons_cons, String.toList_append, String.toList_append,
        List.filter_append, List.filter_append, hspace, List.append_nil, ih, ← digits_cons]

/-- Reading texts is reading the bytes of the characters that count. -/
theorem parse_eq (texts : List String) :
    parse texts = if digits texts = [] then .error .empty
      else pairs ((digits texts).flatMap String.utf8EncodeChar) := by
  have htext : String.join (Text.words (" ".intercalate texts)) = String.ofList (digits texts) := by
    rw [← filter_intercalate, ← Text.toList_join_words, String.ofList_toList]
  have hbytes : (String.ofList (digits texts)).toUTF8.data.toList =
      (digits texts).flatMap String.utf8EncodeChar := by
    rw [String.toUTF8_eq_toByteArray, String.toByteArray_ofList, List.utf8Encode,
      List.data_toByteArray]
  simp only [parse, htext, hbytes, beq_iff_eq, String.ofList_eq_empty_iff]

/-! ### Digits -/

/-- A character writes a digit, in lower or upper case. -/
def Writes (c : Char) (digit : Nat) : Prop :=
  c = Nat.digitChar digit ∨ c = (Nat.digitChar digit).toUpper

instance (c : Char) (digit : Nat) : Decidable (Writes c digit) :=
  inferInstanceAs (Decidable (_ ∨ _))

/-- The two digits of a byte. -/
def halves (byte : UInt8) : List Nat :=
  [byte.toNat / 16, byte.toNat % 16]

/-- Characters spell bytes by two digits each. -/
def Spells (chars : List Char) (bytes : List UInt8) : Prop :=
  List.Forall₂ Writes chars (bytes.flatMap halves)

theorem digit?_eq_none {byte : UInt8} (h : 0x80 ≤ byte.toNat) : digit? byte = none := by
  have hnone := Bits.of_all_bytes (fun byte => decide (byte.toNat < 0x80) || (digit? byte).isNone)
    (by decide) byte
  simpa [Nat.not_lt.2 h] using hnone

/-- What is written for the sixteen digits are characters of one byte, read as the digit. -/
theorem digit?_of_writes {c : Char} {v : Nat} (hv : v < 16) (h : Writes c v) :
    c.toNat < 0x80 ∧ digit? (.ofNat c.toNat) = some v := by
  have hlower : ∀ v < 16, (Nat.digitChar v).toNat < 0x80 ∧
      digit? (.ofNat (Nat.digitChar v).toNat) = some v := by
    decide
  have hupper : ∀ v < 16, (Nat.digitChar v).toUpper.toNat < 0x80 ∧
      digit? (.ofNat (Nat.digitChar v).toUpper.toNat) = some v := by
    decide
  rcases h with rfl | rfl
  · exact hlower v hv
  · exact hupper v hv

theorem writes_of_digit? {c : Char} (hascii : c.toNat < 0x80) {v : Nat}
    (h : digit? (.ofNat c.toNat) = some v) : Writes c v := by
  have hread := Bits.of_all_bytes (fun byte => (digit? byte).all fun v =>
    decide (Writes (Char.ofNat byte.toNat) v)) (by decide) (.ofNat c.toNat)
  have hbyte := UInt8.toNat_ofNat_of_lt' (Nat.lt_trans hascii (by decide))
  rw [h, Option.all_some, decide_eq_true_eq, hbyte, Char.ofNat_toNat] at hread
  exact hread

/-- A character is one byte, or else its first byte is no digit. -/
theorem utf8EncodeChar_cases (c : Char) :
    (c.toNat < 0x80 ∧ String.utf8EncodeChar c = [.ofNat c.toNat]) ∨
      0x80 ≤ c.toNat ∧
        ∃ byte rest, String.utf8EncodeChar c = byte :: rest ∧ digit? byte = none := by
  have hval : c.val.toNat = c.toNat := rfl
  simp only [String.utf8EncodeChar, hval]
  by_cases hascii : c.toNat < 0x80
  · exact .inl ⟨hascii, if_pos (Nat.le_of_lt_succ hascii)⟩
  · refine .inr ⟨Nat.not_lt.1 hascii, ?_⟩
    rw [if_neg (by omega)]
    -- The first of two, three or four bytes has its highest bit set.
    have hfirst : ∀ n, 0x80 ≤ n → n < 0x100 → digit? (.ofNat n) = none := by
      intro n hn hlt
      exact digit?_eq_none (by rwa [UInt8.toNat_ofNat_of_lt' hlt])
    split
    · exact ⟨_, _, rfl, hfirst _ (by omega) (by omega)⟩
    · split
      · exact ⟨_, _, rfl, hfirst _ (by omega) (by omega)⟩
      · exact ⟨_, _, rfl, hfirst _ (by omega) (by omega)⟩

/-- The bytes of characters are read as digits exactly if the characters write them. -/
theorem forall₂_utf8EncodeChar {chars : List Char} {values : List Nat}
    (hvalues : ∀ v ∈ values, v < 16) :
    List.Forall₂ (fun byte v => digit? byte = some v) (chars.flatMap String.utf8EncodeChar) values ↔
      List.Forall₂ Writes chars values := by
  induction chars generalizing values with
  | nil => simp only [List.flatMap_nil, List.forall₂_nil_left_iff]
  | cons c chars ih =>
    rw [List.flatMap_cons]
    rcases utf8EncodeChar_cases c with ⟨hascii, hbytes⟩ | ⟨hlong, byte, rest, hbytes, hnone⟩
    · rw [hbytes, List.singleton_append]
      cases values with
      | nil => simp
      | cons v values =>
        rw [List.forall_mem_cons] at hvalues
        rw [List.forall₂_cons, List.forall₂_cons, ih hvalues.2]
        refine and_congr_left fun _ => ⟨writes_of_digit? hascii, fun h => ?_⟩
        exact (digit?_of_writes hvalues.1 h).2
    · -- A longer character is no digit, and its first byte is not read as one.
      rw [hbytes, List.cons_append]
      cases values with
      | nil => simp
      | cons v values =>
        rw [List.forall_mem_cons] at hvalues
        rw [List.forall₂_cons, List.forall₂_cons, hnone]
        constructor
        · rintro ⟨hdigit, -⟩
          cases hdigit
        · rintro ⟨hwrites, -⟩
          exact absurd (digit?_of_writes hvalues.1 hwrites).1 (Nat.not_lt.2 hlong)

theorem digit?_lt {byte : UInt8} {v : Nat} (h : digit? byte = some v) : v < 16 := by
  rw [digit?, Option.filter_eq_some_iff, decide_eq_true_eq] at h
  exact h.2

theorem mem_halves_lt {bytes : List UInt8} : ∀ v ∈ bytes.flatMap halves, v < 16 := by
  intro v hv
  obtain ⟨byte, -, hmem⟩ := List.mem_flatMap.1 hv
  have hbyte := byte.toNat_lt
  simp only [halves, List.mem_cons, List.not_mem_nil, or_false] at hmem
  omega

/-- Two digits make the byte that has them. -/
theorem toUInt8_eq_iff {high low : Nat} (hhigh : high < 16) (hlow : low < 16) (byte : UInt8) :
    (16 * high + low).toUInt8 = byte ↔ high = byte.toNat / 16 ∧ low = byte.toNat % 16 := by
  have hbyte := byte.toNat_lt
  have hlt : 16 * high + low < 256 := by omega
  rw [← UInt8.toNat_inj, Nat.toUInt8_eq, UInt8.toNat_ofNat_of_lt' hlt]
  omega

/-- Bytes are read as those of which they are the digits, two for each. -/
theorem pairs_eq_ok_iff {l bytes : List UInt8} :
    pairs l = .ok bytes ↔
      List.Forall₂ (fun byte v => digit? byte = some v) l (bytes.flatMap halves) := by
  -- Only the last case reads a byte. In the others there is a fault, or nothing is left to read.
  fun_induction pairs l generalizing bytes with
  | case1 => cases bytes <;> simp [halves]
  | case2 a _ => cases bytes <;> simp [halves]
  | case3 a _ => cases bytes <;> simp [halves]
  | case4 a b rest hnone => cases bytes <;> simp [halves, hnone]
  | case5 a b rest high hnone _ => cases bytes <;> simp [halves, hnone]
  | case6 a b rest high low hlow hhigh ih =>
    cases bytes with
    | nil => cases pairs rest <;> simp [bind, Except.bind, pure, Except.pure]
    | cons byte bytes =>
      have hbyte := toUInt8_eq_iff (digit?_lt hhigh) (digit?_lt hlow) byte
      cases hrest : pairs rest with
      | error fault => simp [bind, Except.bind, ← ih, hrest, halves]
      | ok read =>
        simp only [bind, Except.bind, pure, Except.pure, Except.ok.injEq, List.cons.injEq, hbyte,
          List.flatMap_cons, halves, List.cons_append, List.nil_append, List.forall₂_cons, hhigh,
          hlow, Option.some.injEq, ← ih, hrest, and_assoc]

theorem pairs_ne_empty (l : List UInt8) : pairs l ≠ .error .empty := by
  fun_induction pairs l with
  | case6 a b rest high low hlow hhigh ih =>
    cases hrest : pairs rest with
    | error fault =>
      rw [hrest] at ih
      exact fun h => ih (congrArg Except.error (Except.error.inj h))
    | ok read => simp [bind, Except.bind, pure, Except.pure]
  | _ => simp

/-! ### Texts -/

/-- A digit in lower or upper case. -/
def IsDigit (c : Char) : Prop :=
  ∃ v < 16, Writes c v

/-- An even number of digits spells bytes. -/
theorem exists_spells {chars : List Char} (heven : Even chars.length)
    (hdigits : ∀ c ∈ chars, IsDigit c) : ∃ bytes, Spells chars bytes := by
  induction chars using List.twoStepInduction with
  | nil => exact ⟨[], .nil⟩
  | singleton c => simp at heven
  | cons_cons a b chars ih _ =>
    obtain ⟨⟨high, hhigh, ha⟩, ⟨low, hlow, hb⟩, hrest⟩ := by
      simpa only [List.forall_mem_cons] using hdigits
    obtain ⟨bytes, hbytes⟩ := ih (by simpa [Nat.even_add] using heven) hrest
    obtain ⟨hhigh', hlow'⟩ := (toUInt8_eq_iff hhigh hlow _).1 rfl
    refine ⟨(16 * high + low).toUInt8 :: bytes, ?_⟩
    rw [Spells, List.flatMap_cons, halves, ← hhigh', ← hlow']
    exact .cons ha (.cons hb hbytes)

theorem length_flatMap_halves (bytes : List UInt8) :
    (bytes.flatMap halves).length = bytes.length + bytes.length := by
  induction bytes with
  | nil => rfl
  | cons byte bytes ih =>
    rw [List.flatMap_cons, List.length_append, ih, halves, List.length_cons]
    simp only [List.length_cons, List.length_nil]
    omega

/-- Only digits, and an even number of them, spell bytes. -/
theorem even_of_spells {chars : List Char} {bytes : List UInt8} (h : Spells chars bytes) :
    Even chars.length ∧ ∀ c ∈ chars, IsDigit c := by
  refine ⟨⟨bytes.length, by rw [h.length_eq, length_flatMap_halves]⟩, ?_⟩
  intro c hc
  obtain ⟨i, hi, rfl⟩ := List.getElem_of_mem hc
  have hi' : i < (bytes.flatMap halves).length := h.length_eq ▸ hi
  exact ⟨_, mem_halves_lt _ (List.getElem_mem hi'), h.get hi hi'⟩

/-- A fault other than that of no digits says that the machine code is invalid. -/
theorem exists_message {fault : HexFault} (h : fault ≠ .empty) :
    ∃ detail, fault.message = "invalid machine code: " ++ detail := by
  cases fault with
  | empty => exact absurd rfl h
  | notDigit byte =>
    refine ⟨"encoding/hex: invalid byte: " ++ HexFault.codePoint byte.toNat, ?_⟩
    rw [← String.append_assoc]
    rfl
  | oddLength => exact ⟨"encoding/hex: odd length hex string", rfl⟩

theorem parse_eq_ok_iff {texts : List String} {bytes : List UInt8} :
    parse texts = .ok bytes ↔ digits texts ≠ [] ∧ Spells (digits texts) bytes := by
  rw [parse_eq]
  split
  next hnil => simp [hnil]
  next hne => rw [pairs_eq_ok_iff, forall₂_utf8EncodeChar mem_halves_lt, and_iff_right hne, Spells]

/-- What texts are read as is told by their characters other than white space: bytes by an even
number of digits in either case, and a fault by anything else. -/
theorem parse_layout (texts : List String) :
    (digits texts = [] → ∃ fault, parse texts = .error fault ∧
      fault.message = "no machine code") ∧
    (digits texts ≠ [] → Even (digits texts).length ∧ (∀ c ∈ digits texts, IsDigit c) →
      ∃ bytes, Spells (digits texts) bytes ∧ parse texts = .ok bytes) ∧
    (digits texts ≠ [] → ¬(Even (digits texts).length ∧ ∀ c ∈ digits texts, IsDigit c) →
      ∃ fault detail, parse texts = .error fault ∧
        fault.message = "invalid machine code: " ++ detail) ∧
    (∀ bytes, bytes ≠ [] → Spells (digits texts) bytes → parse texts = .ok bytes) ∧
    ∀ texts', digits texts' = digits texts → parse texts' = parse texts := by
  refine ⟨?_, ?_, ?_, ?_, ?_⟩
  · intro hnil
    exact ⟨.empty, by rw [parse_eq, if_pos hnil], rfl⟩
  · rintro hne ⟨heven, hdigits⟩
    obtain ⟨bytes, hbytes⟩ := exists_spells heven hdigits
    exact ⟨bytes, hbytes, parse_eq_ok_iff.2 ⟨hne, hbytes⟩⟩
  · intro hne hodd
    -- Bytes would be spelled by the digits, and the fault of no digits comes from none.
    cases hparse : parse texts with
    | ok bytes => exact absurd (even_of_spells (parse_eq_ok_iff.1 hparse).2) hodd
    | error fault =>
      have hfault : fault ≠ .empty := by
        rintro rfl
        rw [parse_eq, if_neg hne] at hparse
        exact pairs_ne_empty _ hparse
      obtain ⟨detail, hdetail⟩ := exists_message hfault
      exact ⟨fault, detail, rfl, hdetail⟩
  · intro bytes hne hbytes
    refine parse_eq_ok_iff.2 ⟨fun hnil => ?_, hbytes⟩
    have hlength := hbytes.length_eq
    rw [hnil, length_flatMap_halves, List.length_nil] at hlength
    exact hne (List.eq_nil_of_length_eq_zero (by omega))
  · intro texts' hsame
    rw [parse_eq, parse_eq, hsame]

/-- Digits of both cases, cut within a byte and with white space between them, spell three bytes. -/
theorem parse_layout_cut : parse ["4", "", " 8\u00a08", "9\tEd\n"] = .ok [0x48, 0x89, 0xed] := by
  have hdigits : digits ["4", "", " 8\u00a08", "9\tEd\n"] = ['4', '8', '8', '9', 'E', 'd'] := by
    decide
  refine (parse_layout _).2.2.2.1 _ (List.cons_ne_nil _ _) ?_
  rw [hdigits]
  repeat refine List.Forall₂.cons (by decide) ?_
  exact .nil

end HexInput

end X86Decoder
