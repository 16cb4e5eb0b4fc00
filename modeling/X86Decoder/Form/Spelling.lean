import X86Decoder.Form.Basic
import X86Decoder.ModRM
import X86Decoder.Text.Blank
import X86Decoder.Text.Integer

/-!
# The encoding column

A row of the form table spells its encoding in tokens. A form without an extended prefix lists its
demands in any order before the opcode, as in `o16 REX.B 50` or `NP 0FE8 /r`. A form with an
extended prefix joins them by dots in its first token, as in `EVEX.NDS.128.66.0F.WIG E8 /r`. The
last token says what is demanded of the ModR/M byte, if there is one.
-/

namespace X86Decoder

/-- What the encoding column spells. -/
structure Spelling where
  /-- The encoding with what it demands of the prefixes. -/
  constraint : Constraint
  /-- The opcode map. -/
  map : OpcodeMap
  /-- The opcode byte. -/
  opcode : UInt8
  /-- What is demanded of the ModR/M byte. -/
  modrm : ModRMPattern
deriving DecidableEq

/-- Why text does not spell an encoding. -/
inductive SpellingFault where
  | empty
  | noOpcode
  /-- The token of an extended prefix has an unknown part. -/
  | headerPart (kind part : String)
  /-- The token of an extended prefix names no opcode map. -/
  | noMap (header : String)
  | opcode (token : String)
  /-- A token follows that of the ModR/M byte. -/
  | afterModRM (token : String)
  | modrm (token : String)
  /-- A run of register operands does not start at the first register. -/
  | registersStart (token : String)
deriving DecidableEq

namespace SpellingFault

/-- What is said of a fault. -/
def message : SpellingFault → String
  | empty => "missing encoding"
  | noOpcode => "missing opcode"
  | headerPart kind part => "invalid " ++ kind ++ " field " ++ Text.quoted part
  | noMap header => "missing opcode map in " ++ Text.quoted header
  | opcode token => "invalid opcode " ++ Text.quoted token
  | afterModRM token => "unexpected " ++ Text.quoted token ++ " after ModR/M"
  | modrm token => "invalid ModR/M " ++ Text.quoted token
  | registersStart token =>
    "invalid ModR/M " ++ Text.quoted token ++ ": register forms must start at rm 0"

end SpellingFault

/-- The byte that two hexadecimal digits write. -/
def hexByte? (cs : List Char) : Option UInt8 :=
  match cs with
  | [a, b] =>
    match Text.digitValue? a, Text.digitValue? b with
    | some high, some low =>
      if high < 16 ∧ low < 16 then some (16 * high + low).toUInt8 else none
    | _, _ => none
  | _ => none

/-- Read an opcode byte. -/
def parseOpcode (token : String) : Except SpellingFault UInt8 :=
  match hexByte? token.toList with
  | some opcode => .ok opcode
  | none => .error (.opcode token)

namespace ModRMPattern

/-- Read what is demanded of the ModR/M byte: `/r` for any, a digit for the reg field, two digits
for the byte, or two digits and `+i` for a reg field with a register. -/
def parseToken (token : String) : Except SpellingFault ModRMPattern :=
  match token.toList with
  | ['/', 'r'] => .ok .any
  | ['/', c] =>
    if '0' ≤ c ∧ c ≤ '7' then .ok (.reg (c.toNat - '0'.toNat).toUInt8) else .error (.modrm token)
  | cs =>
    match hexByte? (if "+i".toList.isSuffixOf cs then cs.dropLast.dropLast else cs) with
    | none => .error (.modrm token)
    | some b =>
      if "+i".toList.isSuffixOf cs then
        let m : ModRM := ⟨b⟩
        if m.isRegister ∧ m.rm = 0 then .ok (.registers m.reg) else .error (.registersStart token)
      else .ok (.byte b)

/-- Read the tokens after the opcode, which are at most one. -/
def parse : List String → Except SpellingFault ModRMPattern
  | [] => .ok .absent
  | [token] => parseToken token
  | _ :: token :: _ => .error (.afterModRM token)

end ModRMPattern

namespace LegacyConstraint

/-- The constraint with the demand that a token adds, if it is such a token. A later demand of the
same kind replaces an earlier one. -/
def demand? (c : LegacyConstraint) (token : String) : Option LegacyConstraint :=
  match token with
  | "a16" => some { c with addressSize := some .w16 }
  | "a32" => some { c with addressSize := some .w32 }
  | "o16" => some { c with operandSize := some .w16 }
  | "o32" => some { c with operandSize := some .w32 }
  | "o64" => some { c with operandSize := some .w64 }
  | "NP" => some { c with noMandatory := true }
  | "66" => some { c with mandatory := .p66 }
  | "F3" => some { c with mandatory := .pF3 }
  | "F2" => some { c with mandatory := .pF2 }
  | "REX" => some { c with rex := .set }
  | "noREX" => some { c with rex := .clear }
  | "REX.B" => some { c with rexB := .set }
  | "noREX.B" => some { c with rexB := .clear }
  | _ => none

/-- Read the demands at the front of the tokens; the rest starts with the opcode. -/
def parse (c : LegacyConstraint) : List String → LegacyConstraint × List String
  | [] => (c, [])
  | token :: rest =>
    match c.demand? token with
    | some c => parse c rest
    | none => (c, token :: rest)

end LegacyConstraint

/-- The opcode map that a legacy opcode token starts with, and the rest of the token. -/
def splitMap (token : String) : OpcodeMap × String :=
  let rest (n : Nat) := String.ofList (token.toList.drop n)
  if token.startsWith "0F38" && token.utf8ByteSize == 6 then (.map0F38, rest 4)
  else if token.startsWith "0F3A" && token.utf8ByteSize == 6 then (.map0F3A, rest 4)
  else if token.startsWith "0F" && token.utf8ByteSize == 4 then (.map0F, rest 2)
  else (.primary, token)

/-- What the first token of a form with an extended prefix says. -/
structure ExtendedHeader where
  /-- What is demanded of the prefix. -/
  constraint : ExtendedConstraint := {}
  /-- The opcode map. -/
  map : Option OpcodeMap := none

namespace ExtendedHeader

/-- The header with what a part of the token adds. A later part of the same kind replaces an earlier
one, and the parts that tell how the operands are combined add nothing. -/
def part? (h : ExtendedHeader) (part : String) : Option ExtendedHeader :=
  let c := h.constraint
  match part with
  | "NDS" | "NDD" | "DDS" => some h
  | "128" | "L0" | "LZ" => some { h with constraint := { c with length := some .v128 } }
  | "256" | "L1" => some { h with constraint := { c with length := some .v256 } }
  | "512" => some { h with constraint := { c with length := some .v512 } }
  | "LIG" => some { h with constraint := { c with length := none } }
  | "66" => some { h with constraint := { c with mandatory := .p66 } }
  | "F3" => some { h with constraint := { c with mandatory := .pF3 } }
  | "F2" => some { h with constraint := { c with mandatory := .pF2 } }
  | "0F" => some { h with map := some .map0F }
  | "0F38" => some { h with map := some .map0F38 }
  | "0F3A" => some { h with map := some .map0F3A }
  | "X8" => some { h with map := some .xop8 }
  | "X9" => some { h with map := some .xop9 }
  | "XA" => some { h with map := some .xopA }
  | "W0" => some { h with constraint := { c with w := .clear } }
  | "W1" => some { h with constraint := { c with w := .set } }
  | "WIG" => some { h with constraint := { c with w := .any } }
  | _ => none

/-- Read the parts of the token after the name of the encoding. -/
def parse (kind : String) (h : ExtendedHeader) : List String → Except SpellingFault ExtendedHeader
  | [] => .ok h
  | part :: rest =>
    match h.part? part with
    | some h => parse kind h rest
    | none => .error (.headerPart kind part)

end ExtendedHeader

namespace Spelling

/-- Read the tokens of a form without an extended prefix. -/
def parseLegacy (tokens : List String) : Except SpellingFault Spelling := do
  match LegacyConstraint.parse {} tokens with
  | (_, []) => throw .noOpcode
  | (c, token :: rest) =>
    let (map, digits) := splitMap token
    let opcode ← parseOpcode digits
    let modrm ← ModRMPattern.parse rest
    return ⟨.legacy c, map, opcode, modrm⟩

/-- Read the tokens of a form with an extended prefix of the given kind. -/
def parseExtended (kind : String) (make : ExtendedConstraint → Constraint) (header : String)
    (tokens : List String) : Except SpellingFault Spelling := do
  let h ← ExtendedHeader.parse kind {} ((Text.split '.' header).drop 1)
  match h.map, tokens with
  | none, _ => throw (.noMap header)
  | some _, [] => throw .noOpcode
  | some map, token :: rest =>
    let opcode ← parseOpcode token
    let modrm ← ModRMPattern.parse rest
    return ⟨make h.constraint, map, opcode, modrm⟩

/-- Read the encoding column. -/
def parse (text : String) : Except SpellingFault Spelling :=
  match Text.words text with
  | [] => .error .empty
  | first :: rest =>
    match (Text.split '.' first).head? with
    | some "VEX" => parseExtended "VEX" .vex first rest
    | some "EVEX" => parseExtended "EVEX" .evex first rest
    | some "XOP" => parseExtended "XOP" .xop first rest
    | _ => parseLegacy (first :: rest)

end Spelling

end X86Decoder
