import X86Decoder.Text.Blank
import X86Decoder.Text.Integer

/-!
# Machine code in hexadecimal

Machine code is given as texts of hexadecimal digits, two for each byte. White space may stand
anywhere, and how the digits are spread over the texts does not matter.
-/

namespace X86Decoder

/-- Why texts are not machine code. -/
inductive HexFault where
  /-- There is no digit at all. -/
  | empty
  /-- A byte of the texts is not a digit. -/
  | notDigit (byte : UInt8)
  /-- The last byte has one digit only. -/
  | oddLength
deriving DecidableEq

namespace HexFault

/-- A code point with its character, if that is printable. -/
def codePoint (n : Nat) : String :=
  let number := "U+" ++ (Text.hexPadded 4 n).map Char.toUpper
  let c := Char.ofNat n
  if Text.isPrintable c then number ++ " '" ++ c.toString ++ "'" else number

/-- What is said of a fault. A byte that is not a digit is shown as the code point of its value. -/
def message : HexFault → String
  | empty => "no machine code"
  | notDigit byte =>
    "invalid machine code: encoding/hex: invalid byte: " ++ codePoint byte.toNat
  | oddLength => "invalid machine code: encoding/hex: odd length hex string"

end HexFault

namespace HexInput

/-- The value of a hexadecimal digit, given as a byte. -/
def digit? (byte : UInt8) : Option Nat :=
  (Text.digitValue? (Char.ofNat byte.toNat)).filter (· < 16)

/-- Read bytes, two digits each. The first byte that is not a digit is the fault, and an odd number
of digits is one only if all are digits. -/
def pairs : List UInt8 → Except HexFault (List UInt8)
  | [] => .ok []
  | [a] => if (digit? a).isSome then .error .oddLength else .error (.notDigit a)
  | a :: b :: rest =>
    match digit? a, digit? b with
    | none, _ => .error (.notDigit a)
    | some _, none => .error (.notDigit b)
    | some high, some low => do
      let bytes ← pairs rest
      return (16 * high + low).toUInt8 :: bytes

/-- Read machine code: the texts are set apart by spaces, cut at white space and put together. -/
def parse (texts : List String) : Except HexFault (List UInt8) :=
  let text := String.join (Text.words (" ".intercalate texts))
  if text == "" then .error .empty else pairs text.toUTF8.data.toList

end HexInput

end X86Decoder
