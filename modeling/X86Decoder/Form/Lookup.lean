import X86Decoder.Code
import X86Decoder.Form.Match
import X86Decoder.Misuse

/-!
# Looking up a form

The forms that share an encoding, an opcode map and an opcode share a slot. The form of an
instruction is the first one of its slot that matches; where none does, the closest mismatch is
the reason.
-/

namespace X86Decoder

/-- Forms by slot. -/
structure FormIndex where
  /-- The forms of each slot, in table order. -/
  slots : Array (List Form)

namespace FormIndex

/-- How many slots there are: four encodings, seven opcode maps and 256 opcodes. -/
def slotCount : Nat := 4 * 7 * 256

/-- The number of a slot; there is none for an encoding or opcode map that does not exist. -/
def slotNumber? (encoding : EncodingKind) (map : OpcodeMap) (opcode : UInt8) : Option Nat :=
  match encoding, map with
  | .other _, _ => none
  | _, .other _ => none
  | e, m => some ((e.number * 7 + m.number) * 256 + opcode.toNat)

/-- Put a form in front of the others of its slot. -/
def add (index : FormIndex) (f : Form) : FormIndex :=
  match slotNumber? f.encoding f.map f.opcode with
  | some n => ⟨index.slots.modify n (f :: ·)⟩
  | none => index

/-- The index of a list of forms; within a slot the forms keep the order of the list. -/
def ofForms (forms : List Form) : FormIndex :=
  forms.foldr (fun f index => index.add f) ⟨Array.replicate slotCount []⟩

/-- The forms of a slot, in table order. -/
def slot? (index : FormIndex) (encoding : EncodingKind) (map : OpcodeMap) (opcode : UInt8) :
    Option (List Form) :=
  (slotNumber? encoding map opcode).bind fun n => index.slots[n]?

end FormIndex

/-- Why no form was found. -/
structure LookupFailure where
  /-- The encoding of the instruction. -/
  encoding : EncodingKind
  /-- The opcode map of the instruction. -/
  map : OpcodeMap
  /-- The opcode of the instruction. -/
  opcode : UInt8
  /-- The closest mismatch, if the opcode is used at all. -/
  reason : Option Mismatch
deriving DecidableEq

namespace LookupFailure

/-- Whether the opcode is in use, but not with the register or memory form of the ModR/M byte. -/
def isReserved (e : LookupFailure) : Bool :=
  e.reason == some .mod

/-- What is said of a failed lookup. -/
def message (e : LookupFailure) : String :=
  let place := e.map.name ++ " " ++ Text.hexPadded 2 e.opcode.toNat
  match e.reason with
  | none => "no " ++ e.encoding.name ++ " instruction uses opcode " ++ place
  | some reason =>
    "no " ++ e.encoding.name ++ " form of opcode " ++ place ++ " matches: " ++ reason.name

end LookupFailure

namespace Table

/-- The forms of the table, in order. The code of a form is the one with the name in its row. -/
def forms : List Form :=
  entries.filterMap fun e => (Code.ofName? e.name).map e.form

/-- The index of the form table. -/
def index : FormIndex :=
  FormIndex.ofForms forms

/-- The forms that share an encoding, an opcode map and an opcode, in table order. -/
def slot (encoding : EncodingKind) (map : OpcodeMap) (opcode : UInt8) : List Form :=
  (index.slot? encoding map opcode).getD []

/-- Whether instructions with this opcode have a ModR/M byte. The forms of a slot agree on it. -/
def hasModRM (encoding : EncodingKind) (map : OpcodeMap) (opcode : UInt8) : Bool :=
  (slot encoding map opcode).any fun f => f.modrm.present

/-- The first form of a list that matches, or else the closest mismatch. -/
def firstMatch (p : PrefixState) (mode : StatedMode) (m : ModRM) :
    List Form → Option Mismatch → Except (Option Mismatch) Form
  | [], closest => .error closest
  | f :: rest, closest =>
    match f.mismatch p mode m with
    | none => .ok f
    | some reason => firstMatch p mode m rest (Mismatch.closer closest (some reason))

/-- The form of an instruction. -/
def lookup (p : PrefixState) (mode : StatedMode) (opcode : UInt8) (m : ModRM) :
    Except LookupFailure Form :=
  match firstMatch p mode m (slot p.encoding p.map opcode) none with
  | .ok f => .ok f
  | .error reason => .error ⟨p.encoding, p.map, opcode, reason⟩

/-- Whether the table has slots for an encoding and an opcode map. -/
def covers (encoding : EncodingKind) (map : OpcodeMap) : Bool :=
  (FormIndex.slotNumber? encoding map 0).isSome

/-- The opcodes of an encoding and an opcode map whose instructions have a ModR/M byte. -/
def opcodesWithModRM (encoding : EncodingKind) (map : OpcodeMap) : Except Misuse (List UInt8) :=
  if covers encoding map then
    .ok (((List.range 256).map Nat.toUInt8).filter (hasModRM encoding map))
  else .error .outOfBounds

/-- The form of an instruction whose prefixes may name an encoding or opcode map that does not
exist. -/
def lookupChecked (p : PrefixState) (mode : StatedMode) (opcode : UInt8) (m : ModRM) :
    Except Misuse (Except LookupFailure Form) :=
  if covers p.encoding p.map then .ok (lookup p mode opcode m) else .error .outOfBounds

/-- Puts a form at the number of its code. -/
def place (found : Array (Option Form)) (f : Form) : Array (Option Form) :=
  found.setIfInBounds f.code.number.toNat (some f)

/-- The forms by the numbers of their codes. -/
def byCode : Array (Option Form) :=
  forms.foldl place (Array.replicate Code.count none)

/-- The form with the given code. -/
def form? (code : Code) : Option Form :=
  byCode[code.number.toNat]?.join

end Table

end X86Decoder
