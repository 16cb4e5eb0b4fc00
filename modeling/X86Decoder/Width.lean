/-!
# Widths

The widths that addresses, operands and general purpose registers come in.
-/

namespace X86Decoder

/-- A width of addresses and of general operands other than bytes. -/
inductive WordSize where
  | w16
  | w32
  | w64
deriving DecidableEq

namespace WordSize

/-- The width in bits. -/
def bits : WordSize → Nat
  | w16 => 16
  | w32 => 32
  | w64 => 64

/-- The width in bytes. -/
def bytes : WordSize → Nat
  | w16 => 2
  | w32 => 4
  | w64 => 8

end WordSize

/-- A width of general purpose registers, immediates and memory elements. -/
inductive DataWidth where
  | w8
  | w16
  | w32
  | w64
deriving DecidableEq

namespace DataWidth

/-- The width in bits. -/
def bits : DataWidth → Nat
  | w8 => 8
  | w16 => 16
  | w32 => 32
  | w64 => 64

/-- The width in bytes. -/
def bytes : DataWidth → Nat
  | w8 => 1
  | w16 => 2
  | w32 => 4
  | w64 => 8

/-- The width with the given number of bits. -/
def ofBits? (n : Int) : Option DataWidth :=
  [w8, w16, w32, w64].find? fun w => (w.bits : Int) == n

/-- The width of an address of the given size. -/
def ofWordSize : WordSize → DataWidth
  | .w16 => w16
  | .w32 => w32
  | .w64 => w64

end DataWidth

end X86Decoder
