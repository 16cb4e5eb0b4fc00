import X86Decoder.Form.Basic
import X86Decoder.ModRM
import X86Decoder.Prefix.State

/-!
# Matching a form

Whether the prefixes and the ModR/M byte of an instruction meet the demands of a form. The demands
are checked in a fixed order, and the first that fails is the mismatch, so a later mismatch means
that the bytes came closer to the form.
-/

namespace X86Decoder

/-- The first demand of a form that is not met. -/
inductive Mismatch where
  | mode
  | mandatory
  | w
  | vectorLength
  | operandSize
  | addressSize
  | rex
  | modrm
  | mod
deriving DecidableEq

namespace Mismatch

/-- The mismatches in the order in which demands are checked. -/
def all : List Mismatch :=
  [mode, mandatory, w, vectorLength, operandSize, addressSize, rex, modrm, mod]

/-- The place of a mismatch in that order, counting from one. -/
def rank : Mismatch → Nat
  | mode => 1
  | mandatory => 2
  | w => 3
  | vectorLength => 4
  | operandSize => 5
  | addressSize => 6
  | rex => 7
  | modrm => 8
  | mod => 9

/-- What a mismatch is called. -/
def name : Mismatch → String
  | mode => "unsupported mode"
  | mandatory => "mandatory prefix mismatch"
  | w => "W mismatch"
  | vectorLength => "vector length mismatch"
  | operandSize => "operand size mismatch"
  | addressSize => "address size mismatch"
  | rex => "REX mismatch"
  | modrm => "ModR/M mismatch"
  | mod => "register/memory form mismatch"

/-- What a match, which is no mismatch, and a mismatch are called. -/
def text : Option Mismatch → String
  | none => "match"
  | some m => m.name

/-- What the mismatch with a number is called; zero is a match. -/
def describe (n : UInt8) : String :=
  if n = 0 then text none
  else
    match all[n.toNat - 1]? with
    | some m => m.name
    | none => "Mismatch(" ++ Text.decimal n.toNat ++ ")"

/-- The closer of two outcomes that are not matches. -/
def closer (a b : Option Mismatch) : Option Mismatch :=
  match a, b with
  | none, b => b
  | a, none => a
  | some a, some b => if a.rank < b.rank then some b else some a

end Mismatch

/-- A mismatch unless the demand is met. -/
def demand (mismatch : Mismatch) (met : Bool) : Option Mismatch :=
  if met then none else some mismatch

namespace Form

/-- Whether the operand size of an instruction serves a form that needs `need`. Forms that need 64
bits precede their 32-bit counterparts where both exist, so those accept 64 bits too. -/
def operandSizeServes (need actual : WordSize) : Bool :=
  match need with
  | .w16 => actual == .w16
  | .w32 => actual != .w16
  | .w64 => actual == .w64

/-- Whether the prefixes of an instruction meet the demands of a legacy form. -/
def legacyMismatch (f : Form) (c : LegacyConstraint) (p : PrefixState) (mode : Mode) :
    Option Mismatch :=
  demand .mandatory
      (if c.noMandatory then p.mandatory == .none
        else c.mandatory == .none || p.mandatory == c.mandatory)
    <|> demand .operandSize
      (match c.operandSize with
        | none => true
        | some need =>
          operandSizeServes need (p.operandSize mode (f.has .default64) (f.has .force64)))
    <|> demand .addressSize
      (match c.addressSize with
        | none => true
        | some need => p.addressSize mode == need)
    <|> demand .rex (c.rex.allows p.hasRex && c.rexB.allows p.b)

/-- Whether the prefixes of an instruction meet the demands of a form with an extended prefix. Under
an EVEX prefix with b set, a register ModR/M byte makes the length field a rounding mode, and the
vector length is 512 bits. -/
def extendedMismatch (f : Form) (c : ExtendedConstraint) (p : PrefixState) (mode : Mode)
    (m : ModRM) : Option Mismatch :=
  demand .mandatory (p.mandatory == c.mandatory)
    <|> demand .w (c.w.allows p.w || (f.has .wig32 && mode != .bits64))
    <|> demand .vectorLength
      (match c.length with
        | none => true
        | some need =>
          let rounds := p.encoding == .evex && p.broadcast && f.modrm.present && m.isRegister
          VectorLength.ofField? (if rounds then 2 else p.l) == some need)

/-- Whether a ModR/M byte meets the demands of a form. -/
def modrmMismatch (f : Form) (m : ModRM) : Option Mismatch :=
  if !f.modrm.present then none
  else
    demand .modrm
        ((match f.modrm.byte? with
          | none => true
          | some b => m.byte == b)
        && (match f.modrm.reg? with
          | none => true
          | some n => m.reg == n))
      <|>
      if f.has .modIgnored then none
      else if f.has .registerOnly && !m.isRegister then
        match f.modrm with
        | .registers _ => some .modrm
        | _ => some .mod
      else demand .mod (!(f.has .memoryOnly && m.isRegister))

/-- What an instruction does not meet of the demands on its prefixes. -/
def prefixMismatch (f : Form) (p : PrefixState) (mode : Mode) (m : ModRM) : Option Mismatch :=
  match f.constraint with
  | .legacy c => f.legacyMismatch c p mode
  | .vex c | .evex c | .xop c => f.extendedMismatch c p mode m

/-- The first demand of the form that an instruction does not meet. -/
def mismatch (f : Form) (p : PrefixState) (mode : StatedMode) (m : ModRM) : Option Mismatch :=
  match mode with
  | .other _ => some .mode
  | .known mode =>
    demand .mode (f.modes.has mode) <|> f.prefixMismatch p mode m <|> f.modrmMismatch m

end Form

end X86Decoder
