/-!
# Bits of a byte

Reading and writing single bits and runs of bits of a byte, from which the packed prefix, ModR/M
and SIB bytes are made.
-/

namespace X86Decoder.Bits

/-- One or zero. -/
def ofBool (v : Bool) : UInt8 :=
  if v then 1 else 0

/-- The bit at position `i`. -/
def get (byte i : UInt8) : Bool :=
  (byte >>> i) &&& 1 == 1

/-- The byte with the bit at position `i` set to `v`. The mask `keep` has all other bits. -/
def set (byte keep i : UInt8) (v : Bool) : UInt8 :=
  (byte &&& keep) ||| (ofBool v <<< i)

/-- The ones of a run of bits as wide as `mask`, which starts at position `low`. -/
def getRun (byte low mask : UInt8) : UInt8 :=
  (byte >>> low) &&& mask

/-- A run of bits is no greater than its mask. -/
theorem toNat_getRun_le (byte low mask : UInt8) : (getRun byte low mask).toNat ≤ mask.toNat := by
  rw [getRun, UInt8.toNat_and]
  exact Nat.and_le_right

/-- The byte with the run of bits at position `low` set to the low bits of `v`. The mask `keep` has
all other bits. -/
def setRun (byte keep low mask v : UInt8) : UInt8 :=
  (byte &&& keep) ||| ((v &&& mask) <<< low)

end X86Decoder.Bits
