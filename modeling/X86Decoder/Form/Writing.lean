import X86Decoder.Form.Basic

/-!
# Writing encodings

The encoding column of the form table follows from what a form demands, but for two things that it
writes and nothing goes by: how the operands under an extended prefix are combined, and whether a
vector length is written in bits or as a length field.
-/

namespace X86Decoder

/-- How the operands under an extended prefix are combined. -/
inductive Combination where
  | plain
  /-- The vvvv field is a source beside others. -/
  | nds
  /-- The vvvv field is the destination. -/
  | ndd
  /-- The vvvv field is a source, and the destination is one as well. -/
  | dds

/-- The part of an encoding that tells how operands are combined. -/
def Combination.parts : Combination → List String
  | plain => []
  | nds => ["NDS"]
  | ndd => ["NDD"]
  | dds => ["DDS"]

/-- A vector length as it is written: in bits, as a length field, or ignored. -/
inductive WrittenLength where
  | v128
  | v256
  | v512
  | l0
  | l1
  | lig

namespace WrittenLength

/-- The vector length that is needed. -/
def length? : WrittenLength → Option VectorLength
  | v128 | l0 => some .v128
  | v256 | l1 => some .v256
  | v512 => some .v512
  | lig => none

/-- The part of an encoding that tells the vector length. -/
def part : WrittenLength → String
  | v128 => "128"
  | v256 => "256"
  | v512 => "512"
  | l0 => "L0"
  | l1 => "L1"
  | lig => "LIG"

end WrittenLength

/-- The part of an encoding that tells the mandatory prefix. -/
def Mandatory.parts : Mandatory → List String
  | none => []
  | m => [m.name]

/-- The part of an encoding that tells the W bit. -/
def Requirement.wPart : Requirement → String
  | any => "WIG"
  | clear => "W0"
  | set => "W1"

/-- A byte as an encoding writes it. -/
def byteText (b : UInt8) : String :=
  String.ofList ((Text.padLeft 2 '0' (Nat.toDigits 16 b.toNat)).map Char.toUpper)

/-- The token that tells what is demanded of the ModR/M byte. -/
def ModRMPattern.tokens : ModRMPattern → List String
  | absent => []
  | any => ["/r"]
  | reg n => ["/" ++ Text.decimal n.toNat]
  | byte b => [byteText b]
  | registers n => [byteText (0xc0 + 8 * n) ++ "+i"]

/-- The tokens that tell what is demanded of the prefixes. -/
def LegacyConstraint.tokens (c : LegacyConstraint) : List String :=
  (c.addressSize.toList.map fun size => "a" ++ Text.decimal size.bits)
    ++ (c.operandSize.toList.map fun size => "o" ++ Text.decimal size.bits)
    ++ (if c.noMandatory then ["NP"] else [])
    ++ c.mandatory.parts
    ++ (if c.rex = .set then ["REX"] else [])
    ++ (if c.rexB = .set then ["REX.B"] else [])
    ++ (if c.rexB = .clear then ["noREX.B"] else [])
    ++ (if c.rex = .clear then ["noREX"] else [])

/-- An encoding without an extended prefix. -/
def legacyText (c : LegacyConstraint) (map : OpcodeMap) (opcode : UInt8) (modrm : ModRMPattern) :
    String :=
  let escape := if map = .primary then "" else map.name
  " ".intercalate (c.tokens ++ (escape ++ byteText opcode) :: modrm.tokens)

/-- An encoding with an extended prefix. -/
def extendedText (encoding : EncodingKind) (combination : Combination) (length : WrittenLength)
    (mandatory : Mandatory) (map : OpcodeMap) (w : Requirement) (opcode : UInt8)
    (modrm : ModRMPattern) : String :=
  let header := ".".intercalate
    (encoding.name :: combination.parts ++ length.part :: mandatory.parts ++ [map.name, w.wPart])
  " ".intercalate (header :: byteText opcode :: modrm.tokens)

end X86Decoder
