import X86Decoder.Form.Writing

/-!
# Table entries

A row of the form table: the name of a code, and the form that has the code with that name. There is
one function for each encoding, so that a row states only what its encoding can demand, and two for
rows with an EVEX prefix whose memory operand is a vector of the length that is needed. Rows without
an extended prefix differ in whether every ModR/M byte is accepted, or some, or there is none. The
rows of a list share their opcode map. What most rows of an encoding have in common, such as that
every ModR/M byte is accepted behind an extended prefix, is stated by the other rows only. What many
rows demand or accept has a short name, after the notation of the table.
-/

namespace X86Decoder

/-- A row of the form table. -/
structure Entry where
  /-- The name of the form's code. -/
  name : String
  /-- The form, given its code. -/
  form : Code → Form
  /-- The form has the code that it is given. -/
  code_form : ∀ code, (form code).code = code

/-- One of three for a vector length: 128, 256 or 512 bits. -/
def WrittenLength.pick {α : Type} (a b c : α) : WrittenLength → α
  | v128 | l0 => a
  | v256 | l1 => b
  | v512 | lig => c

/-- Vectors in memory with elements of one type. -/
structure Elements where
  /-- The vector of a length. -/
  packed : WrittenLength → MemorySize
  /-- The element that is repeated across a vector of a length. -/
  broadcast : WrittenLength → MemorySize := fun _ => .unknown

namespace Entry

/-- A row without its opcode map. -/
abbrev Unplaced := OpcodeMap → Entry

/-- Rows with the opcode map that they share. -/
def rows (map : OpcodeMap) (unplaced : List Unplaced) : List Entry :=
  unplaced.map fun row => row map

/-- A row without an extended prefix that accepts some ModR/M bytes. -/
def group (name : String) (c : LegacyConstraint) (opcode : UInt8) (modrm : ModRMPattern)
    (operands : List FormOperand) (memory : MemorySize := .unknown) (modes : ModeSet := .all)
    (flags : List Flag := []) : Unplaced := fun map =>
  ⟨name, fun code => ⟨code, legacyText c map opcode modrm, .legacy c, map, opcode, modrm, operands,
    memory, .unknown, {}, modes, flags⟩, fun _ => rfl⟩

/-- A row without an extended prefix. -/
def legacy (name : String) (c : LegacyConstraint) (opcode : UInt8) (operands : List FormOperand)
    (memory : MemorySize := .unknown) (modes : ModeSet := .all) (flags : List Flag := []) :
    Unplaced :=
  group name c opcode .any operands memory modes flags

/-- A row without an extended prefix and without a ModR/M byte. -/
def bare (name : String) (c : LegacyConstraint) (opcode : UInt8) (operands : List FormOperand)
    (memory : MemorySize := .unknown) (modes : ModeSet := .all) (flags : List Flag := []) :
    Unplaced :=
  group name c opcode .absent operands memory modes flags

/-- A row with a VEX prefix. -/
def vex (name : String) (combination : Combination) (length : WrittenLength)
    (mandatory : Mandatory) (w : Requirement) (opcode : UInt8)
    (operands : List FormOperand) (memory : MemorySize := .unknown) (modes : ModeSet := .all)
    (flags : List Flag := []) (modrm : ModRMPattern := .any) : Unplaced := fun map =>
  ⟨name, fun code => ⟨code, extendedText .vex combination length mandatory map w opcode modrm,
    .vex ⟨mandatory, w, length.length?⟩, map, opcode, modrm, operands, memory, .unknown, {}, modes,
    flags⟩, fun _ => rfl⟩

/-- A row with an XOP prefix. -/
def xop (name : String) (combination : Combination) (length : WrittenLength)
    (mandatory : Mandatory) (w : Requirement) (opcode : UInt8)
    (operands : List FormOperand) (memory : MemorySize := .unknown) (modes : ModeSet := .all)
    (flags : List Flag := []) (modrm : ModRMPattern := .any) : Unplaced := fun map =>
  ⟨name, fun code => ⟨code, extendedText .xop combination length mandatory map w opcode modrm,
    .xop ⟨mandatory, w, length.length?⟩, map, opcode, modrm, operands, memory, .unknown, {}, modes,
    flags⟩, fun _ => rfl⟩

/-- A row with an EVEX prefix. -/
def evex (name : String) (combination : Combination) (length : WrittenLength)
    (mandatory : Mandatory) (w : Requirement) (opcode : UInt8)
    (operands : List FormOperand) (memory : MemorySize) (scale : TupleScale)
    (flags : List Flag := []) (broadcast : MemorySize := .unknown) (modes : ModeSet := .all)
    (modrm : ModRMPattern := .any) : Unplaced := fun map =>
  ⟨name, fun code => ⟨code, extendedText .evex combination length mandatory map w opcode modrm,
    .evex ⟨mandatory, w, length.length?⟩, map, opcode, modrm, operands, memory, broadcast, scale,
    modes, flags⟩, fun _ => rfl⟩

/-! ### Flags -/

def k1 : List Flag := [.opmask]
def k1b : List Flag := [.opmask, .broadcast]
def k1z : List Flag := [.opmask, .zeroing]
def k1zb : List Flag := [.opmask, .zeroing, .broadcast]
def k1zEr : List Flag := [.opmask, .zeroing, .rounding]
def k1zSae : List Flag := [.opmask, .zeroing, .sae]
def k1zbEr : List Flag := [.opmask, .zeroing, .broadcast, .rounding]
def k1zbSae : List Flag := [.opmask, .zeroing, .broadcast, .sae]
def k1Vsib : List Flag := [.opmask, .noK0, .memoryOnly]
def mem : List Flag := [.memoryOnly]
def reg : List Flag := [.registerOnly]

/-! ### Vectors in memory -/

/-- A row with an EVEX prefix and a vector in memory, of which one element may be repeated. -/
def full (name : String) (combination : Combination) (length : WrittenLength)
    (mandatory : Mandatory) (w : Requirement) (opcode : UInt8)
    (operands : List FormOperand) (elements : Elements) (flags : List Flag := k1zb)
    (modrm : ModRMPattern := .any) : Unplaced :=
  evex name combination length mandatory w opcode operands (elements.packed length)
    ⟨.full, length.pick 128 256 512, 0⟩ flags (elements.broadcast length) .all modrm

/-- A row with an EVEX prefix and a vector in memory that is accessed as a whole. -/
def fullMem (name : String) (combination : Combination) (length : WrittenLength)
    (mandatory : Mandatory) (w : Requirement) (opcode : UInt8)
    (operands : List FormOperand) (elements : Elements) (flags : List Flag := k1z)
    (modrm : ModRMPattern := .any) : Unplaced :=
  evex name combination length mandatory w opcode operands (elements.packed length)
    ⟨.fullMem, length.pick 128 256 512, 0⟩ flags .unknown .all modrm

end Entry

/-! ### Elements -/

namespace Elements

open WrittenLength MemorySize

def int8 : Elements :=
  { packed := pick packed128Int8 packed256Int8 packed512Int8 }
def uint8 : Elements :=
  { packed := pick packed128UInt8 packed256UInt8 packed512UInt8 }
def int16 : Elements :=
  { packed := pick packed128Int16 packed256Int16 packed512Int16 }
def uint16 : Elements :=
  { packed := pick packed128UInt16 packed256UInt16 packed512UInt16 }
def int32 : Elements :=
  ⟨pick packed128Int32 packed256Int32 packed512Int32,
    pick broadcast128Int32 broadcast256Int32 broadcast512Int32⟩
def uint32 : Elements :=
  ⟨pick packed128UInt32 packed256UInt32 packed512UInt32,
    pick broadcast128UInt32 broadcast256UInt32 broadcast512UInt32⟩
def uint52 : Elements :=
  ⟨pick packed128UInt52 packed256UInt52 packed512UInt52,
    pick broadcast128UInt52 broadcast256UInt52 broadcast512UInt52⟩
def int64 : Elements :=
  ⟨pick packed128Int64 packed256Int64 packed512Int64,
    pick broadcast128Int64 broadcast256Int64 broadcast512Int64⟩
def uint64 : Elements :=
  ⟨pick packed128UInt64 packed256UInt64 packed512UInt64,
    pick broadcast128UInt64 broadcast256UInt64 broadcast512UInt64⟩
def float32 : Elements :=
  ⟨pick packed128Float32 packed256Float32 packed512Float32,
    pick broadcast128Float32 broadcast256Float32 broadcast512Float32⟩
def float64 : Elements :=
  ⟨pick packed128Float64 packed256Float64 packed512Float64,
    pick broadcast128Float64 broadcast256Float64 broadcast512Float64⟩

end Elements

/-! ### Constraints -/

namespace LegacyConstraint

def free : LegacyConstraint := {}
def o16 : LegacyConstraint := { operandSize := some .w16 }
def o32 : LegacyConstraint := { operandSize := some .w32 }
def o64 : LegacyConstraint := { operandSize := some .w64 }
def np : LegacyConstraint := { noMandatory := true }
def p66 : LegacyConstraint := { mandatory := .p66 }
def pF3 : LegacyConstraint := { mandatory := .pF3 }
def pF2 : LegacyConstraint := { mandatory := .pF2 }
def o64p66 : LegacyConstraint := { operandSize := some .w64, mandatory := .p66 }
def o64pF3 : LegacyConstraint := { operandSize := some .w64, mandatory := .pF3 }
def b : LegacyConstraint := { rexB := .set }
def noB : LegacyConstraint := { rexB := .clear }
def o16B : LegacyConstraint := { operandSize := some .w16, rexB := .set }
def o16NoB : LegacyConstraint := { operandSize := some .w16, rexB := .clear }
def o32B : LegacyConstraint := { operandSize := some .w32, rexB := .set }
def o32NoB : LegacyConstraint := { operandSize := some .w32, rexB := .clear }
def o64B : LegacyConstraint := { operandSize := some .w64, rexB := .set }
def o64NoB : LegacyConstraint := { operandSize := some .w64, rexB := .clear }

end LegacyConstraint

/-! ### Tuples -/

namespace TupleScale

def plain : TupleScale := {}
def full128 : TupleScale := ⟨.full, 128, 0⟩
def full256 : TupleScale := ⟨.full, 256, 0⟩
def full512 : TupleScale := ⟨.full, 512, 0⟩
def half128 : TupleScale := ⟨.half, 128, 0⟩
def half256 : TupleScale := ⟨.half, 256, 0⟩
def half512 : TupleScale := ⟨.half, 512, 0⟩
def fullMem128 : TupleScale := ⟨.fullMem, 128, 0⟩
def fullMem256 : TupleScale := ⟨.fullMem, 256, 0⟩
def fullMem512 : TupleScale := ⟨.fullMem, 512, 0⟩
def halfMem128 : TupleScale := ⟨.halfMem, 128, 0⟩
def halfMem256 : TupleScale := ⟨.halfMem, 256, 0⟩
def halfMem512 : TupleScale := ⟨.halfMem, 512, 0⟩
def quarterMem128 : TupleScale := ⟨.quarterMem, 128, 0⟩
def quarterMem256 : TupleScale := ⟨.quarterMem, 256, 0⟩
def quarterMem512 : TupleScale := ⟨.quarterMem, 512, 0⟩
def eighthMem128 : TupleScale := ⟨.eighthMem, 128, 0⟩
def eighthMem256 : TupleScale := ⟨.eighthMem, 256, 0⟩
def eighthMem512 : TupleScale := ⟨.eighthMem, 512, 0⟩
def movddup128 : TupleScale := ⟨.movddup, 128, 0⟩
def movddup256 : TupleScale := ⟨.movddup, 256, 0⟩
def movddup512 : TupleScale := ⟨.movddup, 512, 0⟩
def oneScalar : TupleScale := ⟨.oneScalar, 0, 0⟩
def oneScalar1 : TupleScale := ⟨.oneScalar, 0, 1⟩
def oneScalar2 : TupleScale := ⟨.oneScalar, 0, 2⟩
def oneScalar4 : TupleScale := ⟨.oneScalar, 0, 4⟩
def oneScalar8 : TupleScale := ⟨.oneScalar, 0, 8⟩
def oneFixed : TupleScale := ⟨.oneFixed, 0, 0⟩
def oneFixed4 : TupleScale := ⟨.oneFixed, 0, 4⟩
def oneFixed8 : TupleScale := ⟨.oneFixed, 0, 8⟩
def two : TupleScale := ⟨.two, 0, 0⟩
def four : TupleScale := ⟨.four, 0, 0⟩
def eight : TupleScale := ⟨.eight, 0, 0⟩
def mem128 : TupleScale := ⟨.mem128, 0, 0⟩

end TupleScale

end X86Decoder
