import X86Decoder.Bits

/-!
# Facts about every byte

A byte has 256 values, so a test of all of them decides a statement about every byte.
-/

namespace X86Decoder.Bits

/-- The bytes are tested by their halves, so that a test of all of them is not nested deeply. -/
theorem of_all_bytes (test : UInt8 → Bool)
    (h : (List.range 16).all fun high => (List.range 16).all fun low =>
      test (.ofNat (16 * high + low))) (b : UInt8) : test b := by
  have hb := b.toNat_lt
  have hhigh := List.all_eq_true.1 h (b.toNat / 16) (List.mem_range.2 (by omega))
  have hlow := List.all_eq_true.1 hhigh (b.toNat % 16) (List.mem_range.2 (by omega))
  rwa [Nat.div_add_mod, UInt8.ofNat_toNat] at hlow

end X86Decoder.Bits
