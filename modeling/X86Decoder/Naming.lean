import X86Decoder.Code
import X86Decoder.Text.Case
import X86Decoder.Text.Quoted

/-!
# Reading names

Codes, registers, memory sizes and operand kinds are read by the names they are written with.
Registers alone are read whatever their case.
-/

namespace X86Decoder

/-- A name that nothing of its kind has. -/
inductive NameFault where
  | code (name : String)
  | register (name : String)
  | memorySize (name : String)
  | opKind (name : String)
deriving DecidableEq

/-- What is said of an unknown name. -/
def NameFault.message : NameFault → String
  | code name => "invalid code " ++ Text.quoted name
  | register name => "invalid register " ++ Text.quoted name
  | memorySize name => "invalid memory size " ++ Text.quoted name
  | opKind name => "invalid operand kind " ++ Text.quoted name

/-- Read a code. -/
def Code.parse (name : String) : Except NameFault Code :=
  match Code.ofName? name with
  | some code => .ok code
  | none => .error (.code name)

/-- Read a register; an empty name is no register. -/
def Register.parse (name : String) : Except NameFault Register :=
  if name == "none" || name == "" then .ok Register.none
  else
    match Register.ofName? (Text.lower name) with
    | some register => .ok register
    | .none => .error (.register name)

/-- Read a memory size. -/
def MemorySize.parse (name : String) : Except NameFault MemorySize :=
  match MemorySize.ofName? name with
  | some size => .ok size
  | none => .error (.memorySize name)

/-- Read an operand kind. -/
def OpKind.parse (name : String) : Except NameFault OpKind :=
  match OpKind.ofName? name with
  | some kind => .ok kind
  | none => .error (.opKind name)

end X86Decoder
