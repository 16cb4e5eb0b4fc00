import X86Decoder.Region

/-!
# Reading regions

A region whose range lies in its file is read as the bytes of the range, and any other is refused
for its range. The bounds are compared as signed 64-bit numbers, though, and a range that ends
beyond these wraps around: it passes the comparison, and the region fails later for another cause,
or memory is asked for that there cannot be.

* `Region.stop`: the end of the wanted range, over the integers.
* `Region.toInt_add_wanted`: the end as it is computed.
* `Region.outside_eq_true_iff`: which regions are refused for their range.
* `Region.readEntry_file`, `Region.read_range`: what reading a region yields.
-/

namespace X86Decoder.Region

/-! ### Ranges -/

/-- The end of the wanted range, over the integers. -/
def stop (region : Region) (size : Nat) : Int :=
  if region.length = 0 then size else region.offset.toInt + region.length.toInt

/-- The wanted range is not empty and lies within a file of the given size. -/
def Inside (region : Region) (size : Nat) : Prop :=
  region.offset.toInt < region.stop size ∧ region.stop size ≤ size

instance (region : Region) (size : Nat) : Decidable (region.Inside size) :=
  inferInstanceAs (Decidable (_ ∧ _))

variable {region : Region} {size : Nat}

theorem stop_mem (hoffset : 0 ≤ region.offset.toInt) (hlength : 0 ≤ region.length.toInt)
    (hsize : size < 0x8000000000000000) :
    0 ≤ region.stop size ∧ region.stop size < 0x10000000000000000 := by
  have hoffset' := region.offset.toInt_lt
  have hlength' := region.length.toInt_lt
  rw [stop]
  split <;> omega

/-- The number of bytes that are wanted does not wrap. -/
theorem toInt_wanted (hoffset : 0 ≤ region.offset.toInt) (hsize : size < 0x8000000000000000) :
    (region.wanted (Int64.ofNat size)).toInt = region.stop size - region.offset.toInt := by
  have hoffset' := region.offset.toInt_lt
  rw [wanted, stop]
  split
  · rw [Int64.toInt_sub, Int64.toInt_ofNat_of_lt hsize, Int.bmod_eq_iff (by decide)]
    omega
  · omega

/-- The end of the range wraps around if it is beyond the signed 64-bit numbers. -/
theorem toInt_add_wanted (hoffset : 0 ≤ region.offset.toInt) (hlength : 0 ≤ region.length.toInt)
    (hsize : size < 0x8000000000000000) :
    (region.offset + region.wanted (Int64.ofNat size)).toInt =
      if region.stop size < 0x8000000000000000 then region.stop size
      else region.stop size - 0x10000000000000000 := by
  have hstop := stop_mem hoffset hlength hsize
  rw [Int64.toInt_add, toInt_wanted hoffset hsize, Int.bmod_eq_iff (by decide)]
  split <;> omega

/-- A region is refused for its range if this is empty or leaves the file, but not if its end
wraps around. -/
theorem outside_eq_true_iff (hoffset : 0 ≤ region.offset.toInt) (hlength : 0 ≤ region.length.toInt)
    (hsize : size < 0x8000000000000000) :
    region.outside (Int64.ofNat size) = true ↔
      ¬region.Inside size ∧ region.stop size < 0x8000000000000000 := by
  have hoffset' := region.offset.toInt_lt
  have hstop := stop_mem hoffset hlength hsize
  simp only [outside, Bool.or_eq_true, decide_eq_true_eq, Int64.lt_iff_toInt_lt,
    Int64.le_iff_toInt_le, Int64.toInt_zero, toInt_add_wanted hoffset hlength hsize,
    toInt_wanted hoffset hsize, Int64.toInt_ofNat_of_lt hsize, Inside]
  split <;> omega

/-! ### Reading -/

/-- How a region fails whose end wraps around: memory is asked for that there cannot be, or the
range is refused when it is read, or nothing is found there. -/
def wrapped (region : Region) : RegionFault :=
  if 0x1000000000000 < region.length.toInt then .misuse .outOfBounds
  else if 0x8000000000000000 ≤ region.offset.toInt + min region.length.toInt 0x40000000 then
    .reading region.name ⟨.reading, region.file, .invalidArgument⟩
  else .endOfFile region.name region.file

theorem toInt_min (a b : Int64) : (min a b).toInt = min a.toInt b.toInt := by
  change (if a ≤ b then a else b).toInt = _
  rw [Int.min_def, apply_ite Int64.toInt]
  simp only [Int64.le_iff_toInt_le]

/-- A sum of numbers that are not negative is negative if it wraps around. -/
theorem toInt_add_neg_iff {a b : Int64} (ha : 0 ≤ a.toInt) (hb : 0 ≤ b.toInt) :
    (a + b).toInt < 0 ↔ 0x8000000000000000 ≤ a.toInt + b.toInt := by
  have ha' := a.toInt_lt
  have hb' := b.toInt_lt
  rw [Int64.toInt_add, Int.bmod_def]
  split <;> omega

/-- What reading a region of a file yields, by the wanted range over the integers. -/
theorem readEntry_file (hoffset : 0 ≤ region.offset.toInt) (hlength : 0 ≤ region.length.toInt)
    {content : List UInt8} (hsize : content.length < 0x8000000000000000) :
    region.readEntry (.file content) =
      if region.Inside content.length then
        if 0x1000000000000 < region.stop content.length - region.offset.toInt then
          .error (.misuse .outOfBounds)
        else .ok ((content.drop region.offset.toInt.toNat).take
          (region.stop content.length - region.offset.toInt).toNat)
      else if region.stop content.length < 0x8000000000000000 then
        .error (.exceeds region.name region.offset (region.wanted (.ofNat content.length))
          region.file (.ofNat content.length))
      else .error region.wrapped := by
  have hoffset' := region.offset.toInt_lt
  have hstop := stop_mem hoffset hlength hsize
  have houtside := outside_eq_true_iff hoffset hlength hsize
  have hlimit : sizeLimit.toInt = 0x1000000000000 := by decide
  have hstep : stepLimit.toInt = 0x40000000 := by decide
  have hnegative : ¬region.offset < 0 := by
    rw [Int64.lt_iff_toInt_lt, Int64.toInt_zero]
    omega
  rw [readEntry]
  simp only [houtside, hnegative, if_false, Int64.lt_iff_toInt_lt, hlimit, Int64.toInt_zero,
    toInt_wanted hoffset hsize, toInt_add_wanted hoffset hlength hsize]
  by_cases hinside : region.Inside content.length
  · have hstop' := hinside.2
    have hfits : region.stop content.length < 0x8000000000000000 := by omega
    rw [if_neg (fun h => h.1 hinside), if_pos hinside, if_pos hfits, if_neg (Int.not_lt.2 hstop.1)]
  · rw [if_neg hinside]
    by_cases hwraps : region.stop content.length < 0x8000000000000000
    · rw [if_pos ⟨hinside, hwraps⟩, if_pos hwraps]
    · have hwanted : region.stop content.length - region.offset.toInt = region.length.toInt := by
        rw [stop] at hwraps ⊢
        split <;> rename_i hzero
        · rw [if_pos hzero] at hwraps
          omega
        · omega
      have hread :
          (region.offset + min (region.wanted (.ofNat content.length)) stepLimit).toInt < 0 ↔
            0x8000000000000000 ≤ region.offset.toInt + min region.length.toInt 0x40000000 := by
        have hmin : (min (region.wanted (.ofNat content.length)) stepLimit).toInt =
            min region.length.toInt 0x40000000 := by
          rw [toInt_min, toInt_wanted hoffset hsize, hwanted, hstep]
        rw [toInt_add_neg_iff hoffset (by omega), hmin]
      have hnegative' : region.stop content.length - 0x10000000000000000 < 0 := by omega
      rw [if_neg (fun h => hwraps h.2), if_neg hwraps, if_neg hwraps, if_pos hnegative', wrapped]
      simp only [hread, hwanted]
      split
      · rfl
      · split <;> rfl

/-- Reading a region. A range that is not empty and lies within the file is read, exactly its bytes,
if there can be memory for them. Any other range is refused for exceeding the file, unless its end
is beyond the signed 64-bit numbers: then it is not noticed that the range exceeds the file, and the
region fails in another way. -/
theorem read_range {m : Type → Type} [Monad m] [LawfulMonad m] (files : FileReader m)
    (region : Region) (content : List UInt8)
    (hfile : files region.file = pure (.ok (.file content))) (hoffset : 0 ≤ region.offset)
    (hlength : 0 ≤ region.length) (hsize : content.length < 0x8000000000000000) :
    let start := region.offset.toInt
    let stop := region.stop content.length
    (region.Inside content.length → stop - start ≤ 0x1000000000000 →
      region.read files = pure (.ok ((content.drop start.toNat).take (stop - start).toNat))) ∧
    (region.Inside content.length → 0x1000000000000 < stop - start →
      region.read files = pure (.error (.misuse .outOfBounds))) ∧
    (¬region.Inside content.length → stop < 0x8000000000000000 →
      region.read files = pure (.error (.exceeds region.name region.offset
        (region.wanted (.ofNat content.length)) region.file (.ofNat content.length)))) ∧
    (0x8000000000000000 ≤ stop → region.read files = pure (.error region.wrapped)) := by
  intro start stop
  rw [Int64.le_iff_toInt_le, Int64.toInt_zero] at hoffset hlength
  have hread : region.read files = pure (region.readEntry (.file content)) := by
    rw [read, hfile, pure_bind]
  rw [hread, readEntry_file hoffset hlength hsize]
  refine ⟨fun hinside hfits => ?_, fun hinside hlarge => ?_, fun hinside hstop => ?_,
    fun hstop => ?_⟩
  · rw [if_pos hinside, if_neg (Int.not_lt.2 hfits)]
  · rw [if_pos hinside, if_pos hlarge]
  · rw [if_neg hinside, if_pos hstop]
  · have hinside : ¬region.Inside content.length := fun h => by
      have hle := Int.le_trans hstop h.2
      omega
    rw [if_neg hinside, if_neg (Int.not_lt.2 hstop)]

/-- A range in the middle of a file, one that leaves it, and one whose end wraps around. -/
theorem read_range_five :
    let content : List UInt8 := [0x55, 0x48, 0x89, 0xe5, 0xc3]
    let files : FileReader Id := fun _ => .ok (.file content)
    let region (offset length : Int64) : Region := ⟨"r", "a", offset, length, .bits64, 64, 0⟩
    (region 1 3).read files = .ok [0x48, 0x89, 0xe5] ∧
      (region 5 0).read files = .error (.exceeds "r" 5 0 "a" 5) ∧
      (region 0x7fffffffffffffff 2).read files =
        .error (.reading "r" ⟨.reading, "a", .invalidArgument⟩) :=
  ⟨(read_range (m := Id) _ ⟨"r", "a", 1, 3, .bits64, 64, 0⟩ [0x55, 0x48, 0x89, 0xe5, 0xc3] rfl
      (by decide) (by decide) (by decide)).1 (by decide) (by decide),
    (read_range (m := Id) _ ⟨"r", "a", 5, 0, .bits64, 64, 0⟩ [0x55, 0x48, 0x89, 0xe5, 0xc3] rfl
      (by decide) (by decide) (by decide)).2.2.1 (by decide) (by decide),
    (read_range (m := Id) _ ⟨"r", "a", 0x7fffffffffffffff, 2, .bits64, 64, 0⟩
      [0x55, 0x48, 0x89, 0xe5, 0xc3] rfl (by decide) (by decide) (by decide)).2.2.2 (by decide)⟩

/-- A range that exceeds its file by far is not refused for that: the memory for it is asked for. -/
theorem read_wrapping_ne_exceeds :
    let content : List UInt8 := [0x55, 0x48, 0x89, 0xe5, 0xc3]
    let files : FileReader Id := fun _ => .ok (.file content)
    let region : Region := ⟨"r", "a", 1, 0x7fffffffffffffff, .bits64, 64, 0⟩
    0 ≤ region.offset ∧ 0 ≤ region.length ∧ ¬region.Inside content.length ∧
      region.read files = .error (.misuse .outOfBounds) :=
  ⟨by decide, by decide, by decide, rfl⟩

end X86Decoder.Region
