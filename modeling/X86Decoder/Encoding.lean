import X86Decoder.Text.Numeral

/-!
# Encodings, opcode maps and mandatory prefixes

What selects the table row of an opcode byte: the family of prefix the instruction is encoded
with, the opcode map, and the prefix that tells apart instructions sharing an opcode.
-/

namespace X86Decoder

/-- The family of prefix that an instruction is encoded with. -/
inductive EncodingKind where
  | legacy
  | vex
  | evex
  | xop
  /-- A number that no encoding has. -/
  | other (number : UInt8)
deriving DecidableEq

namespace EncodingKind

/-- The encodings in the order of their numbers. -/
def all : List EncodingKind :=
  [legacy, vex, evex, xop]

/-- The encoding with the given number. -/
def ofNumber (n : UInt8) : EncodingKind :=
  (all[n.toNat]?).getD (other n)

/-- The number of an encoding. -/
def number : EncodingKind → Nat
  | legacy => 0
  | vex => 1
  | evex => 2
  | xop => 3
  | other n => n.toNat

/-- The name of an encoding. -/
def name : EncodingKind → String
  | legacy => "Legacy"
  | vex => "VEX"
  | evex => "EVEX"
  | xop => "XOP"
  | other n => "EncodingKind(" ++ Text.decimal n.toNat ++ ")"

end EncodingKind

/-- The table that an opcode byte is looked up in. -/
inductive OpcodeMap where
  | primary
  | map0F
  | map0F38
  | map0F3A
  | xop8
  | xop9
  | xopA
  /-- A number that no opcode map has. -/
  | other (number : UInt8)
deriving DecidableEq

namespace OpcodeMap

/-- The opcode maps in the order of their numbers. -/
def all : List OpcodeMap :=
  [primary, map0F, map0F38, map0F3A, xop8, xop9, xopA]

/-- The opcode map with the given number. -/
def ofNumber (n : UInt8) : OpcodeMap :=
  (all[n.toNat]?).getD (other n)

/-- The number of an opcode map. -/
def number : OpcodeMap → Nat
  | primary => 0
  | map0F => 1
  | map0F38 => 2
  | map0F3A => 3
  | xop8 => 4
  | xop9 => 5
  | xopA => 6
  | other n => n.toNat

/-- The name of an opcode map. -/
def name : OpcodeMap → String
  | primary => "1-byte"
  | map0F => "0F"
  | map0F38 => "0F38"
  | map0F3A => "0F3A"
  | xop8 => "X8"
  | xop9 => "X9"
  | xopA => "XA"
  | other n => "OpcodeMap(" ++ Text.decimal n.toNat ++ ")"

end OpcodeMap

/-- The prefix that tells apart instructions sharing an opcode. Legacy instructions take it from
the bytes 66, F2 and F3, the other encodings from their pp field. -/
inductive Mandatory where
  | none
  | p66
  | pF3
  | pF2
  /-- A number that no mandatory prefix has. -/
  | other (number : UInt8)
deriving DecidableEq

namespace Mandatory

/-- The mandatory prefix with the given number, which is also its pp field. -/
def ofNumber (n : UInt8) : Mandatory :=
  ([none, p66, pF3, pF2][n.toNat]?).getD (other n)

/-- The number of a mandatory prefix. -/
def number : Mandatory → Nat
  | none => 0
  | p66 => 1
  | pF3 => 2
  | pF2 => 3
  | other n => n.toNat

/-- The name of a mandatory prefix. -/
def name : Mandatory → String
  | none => "NP"
  | p66 => "66"
  | pF3 => "F3"
  | pF2 => "F2"
  | other n => "MandatoryPrefix(" ++ Text.decimal n.toNat ++ ")"

end Mandatory

/-- A vector length. -/
inductive VectorLength where
  | v128
  | v256
  | v512
deriving DecidableEq

namespace VectorLength

/-- The length in bits. -/
def bits : VectorLength → Nat
  | v128 => 128
  | v256 => 256
  | v512 => 512

/-- The length selected by a length field, if it is one of the three. -/
def ofField? (l : UInt8) : Option VectorLength :=
  [v128, v256, v512][l.toNat]?

end VectorLength

end X86Decoder
