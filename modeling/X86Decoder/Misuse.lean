import X86Decoder.Text.Numeral

/-!
# Misuse

Calls that ask for something outside a function's contract. They are reported as values, so that
a caller can tell a bad request from bad machine code.
-/

namespace X86Decoder

/-- A request outside a function's contract. -/
inductive Misuse where
  /-- A decoder was asked for in a mode that does not exist. -/
  | invalidMode (bits : Nat)
  /-- A decoder was given no bytes. -/
  | noData
  /-- A decoder was moved outside its data. -/
  | positionOutOfRange (position : Int) (size : Nat)
  /-- An instruction was asked for an operand it does not have. -/
  | operandOutOfRange (index : Int) (code : String) (count : Nat)
  /-- A general purpose register was asked for with a width that none has. -/
  | registerWidth (bits : Int)
  /-- A register was asked for by number in a family that is not numbered. -/
  | registerFamily (family : String)
  /-- A table or a sequence of bytes was asked for an entry it does not have. -/
  | outOfBounds
deriving DecidableEq

namespace Misuse

/-- What is said of a misuse; nothing is said of an access out of bounds. -/
def message? : Misuse → Option String
  | invalidMode bits => some ("decoder: invalid mode " ++ Text.decimal bits)
  | noData => some "decoder: no data to decode"
  | positionOutOfRange position size =>
    some ("decoder: position " ++ Text.signedDecimal position ++ " out of range [0, "
      ++ Text.decimal size ++ "]")
  | operandOutOfRange index code count =>
    some ("operand " ++ Text.signedDecimal index ++ " out of range for " ++ code ++ " with "
      ++ Text.decimal count ++ " operands")
  | registerWidth bits =>
    some ("invalid general purpose register size " ++ Text.signedDecimal bits)
  | registerFamily family => some ("RegisterOf called with " ++ family)
  | outOfBounds => none

end Misuse

end X86Decoder
