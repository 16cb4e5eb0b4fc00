import X86Decoder.Encoding
import X86Decoder.Form.Operand
import X86Decoder.MemorySize
import X86Decoder.Mode
import X86Decoder.Tuple

/-!
# Instruction forms

A form is one way to encode one instruction: the constraints on prefixes, opcode and ModR/M byte
that select it, its operands, and what is needed to describe the decoded instruction.
-/

namespace X86Decoder

/-- The identity of a form. Zero is no instruction, and the forms are numbered from one in table
order. -/
structure Code where
  /-- The number of the form. -/
  number : UInt16
deriving DecidableEq

/-- The code of no instruction. -/
def Code.invalid : Code := ⟨0⟩

/-- Whether a bit has to be set, has to be clear, or may take either value. -/
inductive Requirement where
  | any
  | set
  | clear
deriving DecidableEq

namespace Requirement

/-- Whether a bit meets the requirement. -/
def allows : Requirement → Bool → Bool
  | any, _ => true
  | set, bit => bit
  | clear, bit => !bit

/-- What a requirement is called. -/
def name : Requirement → String
  | any => "any"
  | set => "set"
  | clear => "clear"

/-- What the requirement with a number is called. -/
def describe (n : UInt8) : String :=
  match [any, set, clear][n.toNat]? with
  | some r => r.name
  | none => "Requirement(" ++ Text.decimal n.toNat ++ ")"

end Requirement

/-- A set of processor modes. -/
structure ModeSet where
  /-- Whether 16-bit mode is in the set. -/
  has16 : Bool
  /-- Whether 32-bit mode is in the set. -/
  has32 : Bool
  /-- Whether 64-bit mode is in the set. -/
  has64 : Bool
deriving DecidableEq

namespace ModeSet

/-- No mode. -/
def empty : ModeSet := ⟨false, false, false⟩

/-- Every mode. -/
def all : ModeSet := ⟨true, true, true⟩

/-- The modes other than 64-bit mode. -/
def not64 : ModeSet := ⟨true, true, false⟩

/-- The 64-bit mode alone. -/
def only64 : ModeSet := ⟨false, false, true⟩

/-- The set whose members are the low three bits of a byte, narrowest mode first. -/
def ofByte (b : UInt8) : ModeSet :=
  ⟨b &&& 1 != 0, b &&& 2 != 0, b &&& 4 != 0⟩

/-- Whether a mode is in the set. -/
def has (s : ModeSet) : Mode → Bool
  | .bits16 => s.has16
  | .bits32 => s.has32
  | .bits64 => s.has64

/-- The set with one more mode. -/
def insert (s : ModeSet) : Mode → ModeSet
  | .bits16 => { s with has16 := true }
  | .bits32 => { s with has32 := true }
  | .bits64 => { s with has64 := true }

/-- The members, narrowest first, between commas. -/
def text (s : ModeSet) : String :=
  ",".intercalate ((Mode.all.filter s.has).map Mode.text)

end ModeSet

/-- A property of a form. -/
inductive Flag where
  /-- Accepts an opmask register. -/
  | opmask
  /-- Accepts zeroing of the masked elements. -/
  | zeroing
  /-- Accepts a broadcast memory operand. -/
  | broadcast
  /-- Accepts a rounding mode of its own. -/
  | rounding
  /-- Accepts the suppression of exceptions. -/
  | sae
  /-- W is ignored outside 64-bit mode. -/
  | wig32
  /-- The operand size defaults to 64 bits in 64-bit mode. -/
  | default64
  /-- The operand size is always 64 bits in 64-bit mode. -/
  | force64
  /-- Requires an opmask register other than k0. -/
  | noK0
  /-- Only the register form of ModR/M is accepted. -/
  | registerOnly
  /-- Only the memory form of ModR/M is accepted. -/
  | memoryOnly
  /-- The mod field is taken to name a register. -/
  | modIgnored
deriving DecidableEq

namespace Flag

/-- Every flag, in the order in which they are listed. -/
def all : List Flag :=
  [opmask, zeroing, broadcast, rounding, sae, wig32, default64, force64, noK0, registerOnly,
   memoryOnly, modIgnored]

/-- What a flag is called. -/
def name : Flag → String
  | opmask => "k1"
  | zeroing => "z"
  | broadcast => "b"
  | rounding => "er"
  | sae => "sae"
  | wig32 => "wig32"
  | default64 => "d64"
  | force64 => "f64"
  | noK0 => "no-k0"
  | registerOnly => "reg-only"
  | memoryOnly => "mem-only"
  | modIgnored => "mod-ignored"

/-- The flag with the given name. -/
def ofName? (name : String) : Option Flag :=
  all.find? fun flag => flag.name == name

/-- The given flags, each once and in order. -/
def normalize (flags : List Flag) : List Flag :=
  all.filter fun flag => flags.contains flag

/-- The flags whose bits are set in a number, the first flag being the lowest bit. -/
def ofBits (n : UInt16) : List Flag :=
  (all.zipIdx.filter fun (_, i) => n.toNat.testBit i).map Prod.fst

/-- The names of flags between commas. -/
def textOfList (flags : List Flag) : String :=
  ",".intercalate ((normalize flags).map name)

end Flag

/-- What a form without an extended prefix demands of its prefixes. -/
structure LegacyConstraint where
  /-- The address size it needs. -/
  addressSize : Option WordSize := none
  /-- The operand size it needs. -/
  operandSize : Option WordSize := none
  /-- The mandatory prefix it needs. -/
  mandatory : Mandatory := .none
  /-- Whether it forbids a mandatory prefix. -/
  noMandatory : Bool := false
  /-- Whether it needs a REX prefix. -/
  rex : Requirement := .any
  /-- What it needs of the B bit. -/
  rexB : Requirement := .any
deriving DecidableEq

/-- What a form with an extended prefix demands of it. -/
structure ExtendedConstraint where
  /-- The mandatory prefix it needs. -/
  mandatory : Mandatory := .none
  /-- What it needs of the W bit. -/
  w : Requirement := .any
  /-- The vector length it needs. -/
  length : Option VectorLength := none
deriving DecidableEq

/-- The encoding of a form with what it demands of the prefixes. -/
inductive Constraint where
  | legacy (c : LegacyConstraint)
  | vex (c : ExtendedConstraint)
  | evex (c : ExtendedConstraint)
  | xop (c : ExtendedConstraint)
deriving DecidableEq

namespace Constraint

/-- The encoding. -/
def encoding : Constraint → EncodingKind
  | legacy _ => .legacy
  | vex _ => .vex
  | evex _ => .evex
  | xop _ => .xop

/-- The mandatory prefix. -/
def mandatory : Constraint → Mandatory
  | legacy c => c.mandatory
  | vex c | evex c | xop c => c.mandatory

/-- What an encoding with a legacy prefix demands; the others demand nothing of this kind. -/
def legacyPart : Constraint → LegacyConstraint
  | legacy c => c
  | _ => {}

/-- What an encoding with an extended prefix demands; the legacy encoding demands nothing of this
kind. -/
def extendedPart : Constraint → ExtendedConstraint
  | legacy _ => {}
  | vex c | evex c | xop c => c

end Constraint

/-- What a form demands of the ModR/M byte. -/
inductive ModRMPattern where
  /-- There is no ModR/M byte. -/
  | absent
  /-- Any ModR/M byte. -/
  | any
  /-- The reg field is fixed. -/
  | reg (n : UInt8)
  /-- The whole byte is fixed. -/
  | byte (b : UInt8)
  /-- The reg field is fixed and rm names a register. -/
  | registers (reg : UInt8)
deriving DecidableEq

namespace ModRMPattern

/-- Whether there is a ModR/M byte. -/
def present : ModRMPattern → Bool
  | absent => false
  | _ => true

/-- The reg field where it alone is fixed. -/
def reg? : ModRMPattern → Option UInt8
  | reg n | registers n => some n
  | _ => none

/-- The byte where all of it is fixed. -/
def byte? : ModRMPattern → Option UInt8
  | byte b => some b
  | _ => none

end ModRMPattern

/-- One way to encode one instruction. -/
structure Form where
  /-- The identity of the form. -/
  code : Code
  /-- The encoding as the table writes it. -/
  spelling : String
  /-- The encoding with what it demands of the prefixes. -/
  constraint : Constraint
  /-- The opcode map. -/
  map : OpcodeMap
  /-- The opcode byte. -/
  opcode : UInt8
  /-- What is demanded of the ModR/M byte. -/
  modrm : ModRMPattern
  /-- The operands in order. -/
  operands : List FormOperand
  /-- The size of a memory operand. -/
  memory : MemorySize := .unknown
  /-- The size of a broadcast memory operand. -/
  broadcast : MemorySize := .unknown
  /-- What an 8-bit displacement is multiplied by. -/
  scale : TupleScale := {}
  /-- The modes the form exists in. -/
  modes : ModeSet
  /-- The properties of the form. -/
  flags : List Flag
deriving DecidableEq

namespace Form

/-- The encoding of the form. -/
def encoding (f : Form) : EncodingKind :=
  f.constraint.encoding

/-- Whether the form has a property. -/
def has (f : Form) (flag : Flag) : Bool :=
  f.flags.contains flag

/-- Whether an operand is encoded in the vvvv field. -/
def usesVvvv (f : Form) : Bool :=
  f.operands.any fun operand =>
    match operand.spec with
    | .vvvv _ => true
    | _ => false

/-- The operand with a vector of indices, with its name. -/
def vsibOperand? (f : Form) : Option FormOperand :=
  f.operands.find? fun operand =>
    match operand.spec with
    | .vsib _ _ => true
    | _ => false

/-- The class of the vector of indices. -/
def vsib? (f : Form) : Option RegisterClass :=
  f.operands.findSome? fun operand =>
    match operand.spec with
    | .vsib index _ => some index
    | _ => none

end Form

end X86Decoder
