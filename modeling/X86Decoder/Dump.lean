import X86Decoder.Instruction.Text
import X86Decoder.Text.Quoted

/-!
# Dumps

Every field of an instruction or of its prefixes, one a line, each with its type. A value that has
a name shows it in parentheses before its number.
-/

namespace X86Decoder

/-- A value in a dump. -/
inductive Dump where
  /-- A value with its type, written on one line. -/
  | scalar (type value : String)
  /-- A value with fields, after its type and what describes it. -/
  | record (type description : String) (fields : List (String × Dump))
  /-- A value with items, after its type and what describes it. -/
  | items (type description : String) (values : List Dump)

namespace Dump

/-- The start of a line at a depth. -/
def indent (depth : Nat) : String :=
  String.ofList (List.replicate depth '\t')

mutual

/-- A value at a depth, without the start and the end of its line. -/
def textAt (depth : Nat) : Dump → String
  | scalar type value => "(" ++ type ++ ") " ++ value
  | record type description fields =>
    "(" ++ type ++ ") " ++ description ++ "\x7b\n" ++ fieldLines (depth + 1) fields
      ++ indent depth ++ "\x7d"
  | items type description values =>
    "(" ++ type ++ ") " ++ description ++ "\x7b\n" ++ itemLines (depth + 1) values
      ++ indent depth ++ "\x7d"

/-- The lines of fields; a comma follows all but the last. -/
def fieldLines (depth : Nat) : List (String × Dump) → String
  | [] => ""
  | (name, value) :: rest =>
    indent depth ++ name ++ ": " ++ textAt depth value ++ (if rest.isEmpty then "\n" else ",\n")
      ++ fieldLines depth rest

/-- The lines of items; a comma follows all but the last. -/
def itemLines (depth : Nat) : List Dump → String
  | [] => ""
  | value :: rest =>
    indent depth ++ textAt depth value ++ (if rest.isEmpty then "\n" else ",\n")
      ++ itemLines depth rest

end

/-- A truth value. -/
def flag (b : Bool) : Dump :=
  scalar "bool" (if b then "true" else "false")

/-- A number of the given type. -/
def number (type : String) (n : Int) : Dump :=
  scalar type (Text.signedDecimal n)

/-- A value with a name and a number. -/
def named (type name : String) (n : Nat) : Dump :=
  scalar type ("(" ++ name ++ ") " ++ Text.decimal n)

/-- A register. -/
def register (r : Register) : Dump :=
  named "x86.Register" r.name r.number.toNat

/-- An encoding. -/
def encoding (e : EncodingKind) : Dump :=
  named "x86.EncodingKind" e.name e.number

/-- A mode. -/
def mode (m : Mode) : Dump :=
  record "x86.Mode" "" [("Int", number "uint8" m.bits),
    ("String", scalar "string"
      ("(len=" ++ Text.decimal m.text.length ++ ") " ++ Text.quoted m.text))]

/-- An operand. -/
def operand (o : Operand) : Dump :=
  record "decoder.Operand" "" [("Kind", named "x86.OpKind" o.kind.name o.kind.number),
    ("Register", register o.register), ("Immediate", number "uint64" o.immediate.toNat)]

/-- The places of the constants. -/
def constants (c : ConstantOffsets) : Dump :=
  record "decoder.ConstantOffsets" "" [("DisplacementOffset", number "int" c.displacement.offset),
    ("DisplacementSize", number "int" c.displacement.size),
    ("ImmediateOffset", number "int" c.first.offset), ("ImmediateSize", number "int" c.first.size),
    ("ImmediateOffset2", number "int" c.second.offset),
    ("ImmediateSize2", number "int" c.second.size)]

/-- The fields of a decoded instruction. -/
def instructionFields (inst : Instruction) (m : Mode) : List (String × Dump) :=
  let memory := inst.memory
  [("Code", named "x86.Code" inst.code.name inst.code.number.toNat), ("Mode", mode m),
    ("Encoding", encoding inst.encoding), ("IP", number "uint64" inst.ip.toNat),
    ("NextIP", number "uint64" inst.nextIp.toNat), ("ByteLength", number "int" inst.length),
    ("OpCount", number "int" inst.operands.length),
    ("Ops", items "[4]decoder.Operand" "(len=4) " (inst.operandSlots.map operand)),
    ("FarBranchSelector", number "uint16" inst.farSelector.toNat),
    ("MemorySegment", register memory.segment), ("MemoryBase", register memory.base),
    ("MemoryIndex", register memory.index), ("MemoryIndexScale", number "int" memory.scale),
    ("MemoryDisplacement", number "uint64" memory.displacement.toNat),
    ("MemoryDisplSize", number "int" memory.displacementSize),
    ("MemorySize", named "x86.MemorySize" memory.size.name memory.size.number),
    ("HasPrefixLock", flag inst.lock), ("HasPrefixRepe", flag (inst.repetition == some .repe)),
    ("HasPrefixRepne", flag (inst.repetition == some .repne)),
    ("PrefixSegment", register inst.segmentOverride), ("OpMask", register inst.opmask),
    ("ZeroingMasking", flag inst.zeroing),
    ("RoundingControl", named "x86.RoundingControl" inst.rounding.name inst.rounding.number),
    ("SuppressAllExceptions", flag inst.sae), ("IsBroadcast", flag inst.broadcast),
    ("Offsets", constants inst.constants)]

/-- What prefixes say. -/
def prefixState (p : PrefixState) : Dump :=
  let rex := p.rex.getD ⟨0⟩
  record "x86.PrefixState" "" [("Encoding", encoding p.encoding),
    ("Map", named "x86.OpcodeMap" p.map.name p.map.number), ("Segment", register p.segment),
    ("OperandSizeOverride", flag p.operandSizeOverride),
    ("AddressSizeOverride", flag p.addressSizeOverride), ("Lock", flag p.lock),
    ("Repe", flag (p.repetition == some .repe)), ("Repne", flag (p.repetition == some .repne)),
    ("Mandatory", named "x86.MandatoryPrefix" p.mandatory.name p.mandatory.number),
    ("HasREX", flag p.hasRex), ("REX", named "x86.REX" rex.text rex.byte.toNat),
    ("W", flag p.w), ("R", flag p.r), ("X", flag p.x), ("B", flag p.b),
    ("VVVV", number "uint8" p.vvvv.toNat), ("L", number "uint8" p.l.toNat),
    ("RPrime", flag p.rHigh), ("XRegister", flag p.xHigh), ("VPrime", flag p.vHigh),
    ("OpMask", number "uint8" p.opmask.toNat), ("Zeroing", flag p.zeroing),
    ("Broadcast", flag p.broadcast), ("LL", number "uint8" p.ll.toNat)]

end Dump

/-- The dump of a decoded instruction with the given text; one that was not decoded has none. -/
def Instruction.dump (text : String) (inst : Instruction) : String :=
  match inst.mode with
  | none => ""
  | some m =>
    "(*decoder.Instruction)((" ++ text ++ ") \x7b\n"
      ++ Dump.fieldLines 1 (Dump.instructionFields inst m) ++ "\x7d)\n"

/-- The dump of what prefixes say. -/
def PrefixState.dump (p : PrefixState) : String :=
  (Dump.prefixState p).textAt 0 ++ "\n"

end X86Decoder
