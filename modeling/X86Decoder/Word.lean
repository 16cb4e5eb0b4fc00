/-!
# Words

Sign extension and truncation of 64-bit words to a number of low bits, and numbers stored with the
lowest byte first.
-/

namespace X86Decoder.Word

/-- The low bits of a word. -/
def truncate (bits : Nat) (v : UInt64) : UInt64 :=
  UInt64.ofNat (v.toNat % Nat.pow 2 bits)

/-- The low bits of a word as a signed number. -/
def signed (bits : Nat) (v : UInt64) : Int :=
  Int.bmod v.toNat (Nat.pow 2 bits)

/-- The low bits of a word, sign extended. -/
def signExtend (bits : Nat) (v : UInt64) : UInt64 :=
  UInt64.ofInt (signed bits v)

/-- The number whose bytes are given, lowest first. -/
def littleEndian : List UInt8 → Nat
  | [] => 0
  | b :: rest => b.toNat + 256 * littleEndian rest

end X86Decoder.Word
