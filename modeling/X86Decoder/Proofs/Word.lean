import Mathlib.Data.Int.ModEq
import X86Decoder.Word

/-!
# Words modulo a power of two

A word that is cut to its low bits, or a sum that wraps around, is no longer the number it stands
for, but it still is modulo the power of two that it was cut to.
-/

namespace X86Decoder.Word

theorem toNat_truncate {bits : Nat} (h : bits ≤ 64) (v : UInt64) :
    (truncate bits v).toNat = v.toNat % Nat.pow 2 bits := by
  rw [truncate, UInt64.toNat_ofNat_of_lt']
  refine Nat.lt_of_lt_of_le (Nat.mod_lt _ (Nat.pow_pos (by decide))) ?_
  exact Nat.pow_le_pow_right (by decide) h

/-- Cutting a word keeps its low bits. -/
theorem truncate_modEq {bits : Nat} (h : bits ≤ 64) (v : UInt64) :
    ((truncate bits v).toNat : Int) ≡ v.toNat [ZMOD (Nat.pow 2 bits : Nat)] := by
  rw [toNat_truncate h, Int.natCast_mod]
  exact Int.mod_modEq _ _

/-- A sum that wraps around keeps its low bits. -/
theorem add_modEq {bits : Nat} (h : bits ≤ 64) (a b : UInt64) :
    ((a + b).toNat : Int) ≡ a.toNat + b.toNat [ZMOD (Nat.pow 2 bits : Nat)] := by
  have hdvd : Nat.pow 2 bits ∣ Nat.pow 2 64 := Nat.pow_dvd_pow 2 h
  rw [UInt64.toNat_add, Int.natCast_mod, Nat.cast_add]
  exact (Int.mod_modEq _ _).of_dvd (Int.natCast_dvd_natCast.2 hdvd)

/-- Fewer bits agree if more of them do. -/
theorem modEq_of_le {bits bits' : Nat} (h : bits' ≤ bits) {a b : Int}
    (hab : a ≡ b [ZMOD (Nat.pow 2 bits : Nat)]) : a ≡ b [ZMOD (Nat.pow 2 bits' : Nat)] :=
  hab.of_dvd (Int.natCast_dvd_natCast.2 (Nat.pow_dvd_pow 2 h))

/-- Two numbers with the same offset from two others are as far apart as they. -/
theorem sub_modEq_sub {n a b a' b' c : Int} (h : a' ≡ a + c [ZMOD n]) (h' : b' ≡ b + c [ZMOD n]) :
    b' - a' ≡ b - a [ZMOD n] := by
  have hsub := h'.sub h
  rwa [add_sub_add_right_eq_sub] at hsub

end X86Decoder.Word
