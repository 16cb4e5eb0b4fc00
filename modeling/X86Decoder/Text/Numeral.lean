/-!
# Numerals

How numbers are written: lower-case hexadecimal, with or without the `0x` mark, and digits
padded on the left to a least width.
-/

namespace X86Decoder.Text

/-- Put `fill` in front of `digits` until there are at least `width` of them. -/
def padLeft (width : Nat) (fill : Char) (digits : List Char) : List Char :=
  List.replicate (width - digits.length) fill ++ digits

/-- A string with spaces after it until it has at least `width` characters. -/
def padRight (width : Nat) (s : String) : String :=
  s ++ String.ofList (List.replicate (width - s.length) ' ')

/-- `n` in decimal. -/
def decimal (n : Nat) : String :=
  String.ofList (Nat.toDigits 10 n)

/-- `n` in decimal, with a minus sign when it is negative. -/
def signedDecimal (n : Int) : String :=
  if n < 0 then "-" ++ decimal n.natAbs else decimal n.natAbs

/-- `n` in lower-case hexadecimal, at least `width` digits wide. -/
def hexPadded (width n : Nat) : String :=
  String.ofList (padLeft width '0' (Nat.toDigits 16 n))

/-- `n` in lower-case hexadecimal after the mark `0x`. -/
def hex (n : Nat) : String :=
  "0x" ++ hexPadded 1 n

/-- `n` in lower-case hexadecimal after the mark `0x`, with a minus sign when it is negative. -/
def signedHex (n : Int) : String :=
  if n < 0 then "-" ++ hex n.natAbs else hex n.natAbs

/-- `n` in binary, at least `width` digits wide. -/
def binaryPadded (width n : Nat) : String :=
  String.ofList (padLeft width '0' (Nat.toDigits 2 n))

/-- Two hexadecimal digits for each byte. -/
def hexBytes (bytes : List UInt8) : String :=
  String.join (bytes.map fun b => hexPadded 2 b.toNat)

end X86Decoder.Text
