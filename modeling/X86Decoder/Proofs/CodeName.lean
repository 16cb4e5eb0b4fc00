import Mathlib.Data.List.Nodup
import X86Decoder.Code

/-!
# Names of codes are distinct

Codes are found by name and reports list them by name, so two codes must not have the same one. The
names of the table are told apart by numbers made of their characters, and the name of a code that
is not in the table has brackets, which no name of the table has.

* `Code.nodup_of_allNew`: numbers that are new one after the other are distinct.
* `Code.ofName?_eq_some_iff`: which code is found by a name.
* `Code.name_injective`: distinct codes have distinct names.
-/

namespace X86Decoder.Code

/-- Whether each number is new. The numbers seen so far are the bits of `seen` that are set. -/
def allNew (seen : Nat) : List Nat → Bool
  | [] => true
  | n :: l => !seen.testBit n && allNew (seen ||| 1 <<< n) l

/-- Numbers that are new one after the other are distinct. -/
theorem nodup_of_allNew {seen : Nat} {l : List Nat} (h : allNew seen l) :
    l.Nodup ∧ ∀ n ∈ l, seen.testBit n = false := by
  induction l generalizing seen with
  | nil => exact ⟨List.nodup_nil, List.forall_mem_nil _⟩
  | cons n l ih =>
    rw [allNew, Bool.and_eq_true, Bool.not_eq_true'] at h
    obtain ⟨hnodup, hnew⟩ := ih h.2
    -- The bit of `n` is set for the numbers after it, and no other bit changes.
    have hseen : ∀ m, (seen ||| 1 <<< n).testBit m = (seen.testBit m || decide (m = n)) := by
      intro m
      rw [Nat.testBit_or, Nat.one_shiftLeft, Nat.testBit_two_pow]
      simp only [eq_comm]
    refine ⟨List.nodup_cons.2 ⟨?_, hnodup⟩, List.forall_mem_cons.2 ⟨h.1, ?_⟩⟩
    · intro hmem
      have hn := hnew n hmem
      simp [hseen] at hn
    · intro m hmem
      have hm := hnew m hmem
      rw [hseen, Bool.or_eq_false_iff] at hm
      exact hm.1

/-- Characters as the digits of a number. -/
def key (chars : List Char) : Nat :=
  chars.foldl (fun n c => 256 * n + c.toNat) 0

theorem cons_eq_map_ofList {l : List String} {spelling : List (List Char)} (chars : List Char)
    (h : l = spelling.map String.ofList) :
    String.ofList chars :: l = (chars :: spelling).map String.ofList := by
  rw [h, List.map_cons]

/-- The names of the table have distinct numbers, even modulo a small one, and no brackets. -/
theorem exists_spelling : ∃ spelling : List (List Char),
    nameList = spelling.map String.ofList ∧ spelling.length = 3903 ∧
      allNew 0 (spelling.map fun chars => key chars % 689721) ∧
      spelling.all fun chars => !chars.contains ')' := by
  -- The names are literals, which unification turns into characters. To compute the characters
  -- from the bytes of the names would take far longer.
  apply Exists.intro
  constructor
  · repeat apply cons_eq_map_ofList
    exact List.map_nil.symm
  · decide +kernel

theorem nodup_nameList : nameList.Nodup := by
  obtain ⟨spelling, hnames, -, hnew, -⟩ := exists_spelling
  rw [hnames]
  exact (nodup_of_allNew hnew).1.of_map.map fun _ _ => String.ofList_injective

theorem length_nameList : nameList.length = 3903 := by
  obtain ⟨spelling, hnames, hlength, -⟩ := exists_spelling
  rw [hnames, List.length_map, hlength]

theorem count_eq : count = 3903 :=
  length_nameList

/-- A name with a bracket is not in the table. -/
theorem append_bracket_notMem_nameList (text : String) : text ++ ")" ∉ nameList := by
  obtain ⟨spelling, hnames, -, -, hbrackets⟩ := exists_spelling
  rw [hnames, List.mem_map]
  rintro ⟨chars, hmem, htext⟩
  have hchars : chars = text.toList ++ [')'] := by
    rw [← String.toList_ofList (l := chars), htext, String.toList_append]
    rfl
  have hbracket := List.all_eq_true.1 hbrackets chars hmem
  simp [hchars] at hbracket

/-! ### Codes by name -/

theorem eq_of_toNat_number {a b : Code} (h : a.number.toNat = b.number.toNat) : a = b :=
  congrArg mk (UInt16.toNat_inj.1 h)

theorem name_eq {code : Code} {text : String} (h : nameList[code.number.toNat]? = some text) :
    code.name = text := by
  rw [← List.getElem?_toArray] at h
  unfold name names
  simp only [h]

/-- There are fewer codes than numbers of codes, so none is lost. -/
theorem toNat_number {n : Nat} (h : n < 3903) : (mk n.toUInt16).number.toNat = n :=
  UInt16.toNat_ofNat_of_lt' (Nat.lt_trans h (by decide))

/-- A name is looked up to the code whose number is its place. -/
theorem ofName?_of_getElem? {n : Nat} {text : String} (h : nameList[n]? = some text) :
    ofName? text = some ⟨n.toUInt16⟩ := by
  obtain ⟨hlt, rfl⟩ := List.getElem?_eq_some_iff.1 h
  rw [ofName?, List.idxOf?_eq_some_iff.2 ⟨hlt, rfl, ?_⟩, Option.map_some]
  -- An earlier name is another one.
  intro j hj hsame
  exact absurd ((List.Nodup.getElem_inj_iff nodup_nameList).1 hsame) (Nat.ne_of_lt hj)

/-- The code that is found by a name has that name, and its number is the place of the name. -/
theorem ofName?_eq_some_iff {text : String} {code : Code} :
    ofName? text = some code ↔ nameList[code.number.toNat]? = some text := by
  constructor
  · intro h
    obtain ⟨n, hn, rfl⟩ := Option.map_eq_some_iff.1 h
    obtain ⟨hlt, htext, -⟩ := List.idxOf?_eq_some_iff.1 hn
    rw [toNat_number (length_nameList ▸ hlt), List.getElem?_eq_getElem hlt, htext]
  · intro h
    rw [ofName?_of_getElem? h]
    cases code
    simp

theorem name_of_ofName? {text : String} {code : Code} (h : ofName? text = some code) :
    code.name = text :=
  name_eq (ofName?_eq_some_iff.1 h)

/-! ### Distinct names -/

theorem decimal_injective : Function.Injective Text.decimal := by
  intro m n h
  have hdigits : Nat.toDigits 10 m = Nat.toDigits 10 n := String.ofList_injective h
  calc
    m = Nat.ofDigitChars 10 (Nat.toDigits 10 m) 0 := Nat.ofDigitChars_ten_toDigits.symm
    _ = Nat.ofDigitChars 10 (Nat.toDigits 10 n) 0 := by rw [hdigits]
    _ = n := Nat.ofDigitChars_ten_toDigits

/-- The name of a code is in the table at its number, or else made of the number. -/
theorem name_cases (code : Code) :
    nameList[code.number.toNat]? = some code.name ∨
      code.name = "Code(" ++ Text.decimal code.number.toNat ++ ")" := by
  cases hname : nameList[code.number.toNat]? with
  | some text => exact .inl (congrArg some (name_eq hname).symm)
  | none =>
    refine .inr ?_
    rw [← List.getElem?_toArray] at hname
    unfold name names
    simp only [hname]

/-- Distinct codes have distinct names. -/
theorem name_injective : Function.Injective name := by
  intro a b h
  apply eq_of_toNat_number
  rcases name_cases a with ha | ha <;> rcases name_cases b with hb | hb
  · have hlt := (List.getElem?_eq_some_iff.1 ha).1
    exact (List.getElem?_inj hlt nodup_nameList).1 (by rw [ha, hb, h])
  · rw [h, hb] at ha
    exact absurd (List.mem_of_getElem? ha) (append_bracket_notMem_nameList _)
  · rw [← h, ha] at hb
    exact absurd (List.mem_of_getElem? hb) (append_bracket_notMem_nameList _)
  · rw [ha, hb, String.append_left_inj, String.append_right_inj] at h
    exact decimal_injective h

end X86Decoder.Code
