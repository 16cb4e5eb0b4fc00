import X86Decoder.Text.Numeral

/-!
# Registers

Registers are numbered in one byte. The registers of a family lie next to each other in the order
in which machine code numbers them, so the register numbered `n` of a family is its first register
plus `n`. Zero stands for no register, and the bytes above the last family name none.
-/

namespace X86Decoder

/-- What a register is for. -/
inductive RegisterFamily where
  | general
  | instructionPointer
  | segment
  | x87
  | control
  | debug
  | opmask
  | mmx
  | xmm
  | ymm
  | zmm
  /-- A family number that no register has; zero is that of the absent register. -/
  | other (number : UInt8)
deriving DecidableEq

namespace RegisterFamily

/-- The families in the order of their numbers, which start at one. -/
def all : List RegisterFamily :=
  [general, instructionPointer, segment, x87, control, debug, opmask, mmx, xmm, ymm, zmm]

/-- The family with the given number. -/
def ofNumber (n : UInt8) : RegisterFamily :=
  if n = 0 then other 0 else (all[n.toNat - 1]?).getD (other n)

/-- What a family is called. -/
def text : RegisterFamily → String
  | general => "general purpose register"
  | instructionPointer => "instruction pointer register"
  | segment => "segment register"
  | x87 => "x87 register"
  | control => "control register"
  | debug => "debug register"
  | opmask => "opmask register"
  | mmx => "MMX register"
  | xmm => "XMM register"
  | ymm => "YMM register"
  | zmm => "ZMM register"
  | other n => "RegisterType(" ++ Text.decimal n.toNat ++ ")"

/-- The families of vector registers. -/
def isVector : RegisterFamily → Bool
  | xmm | ymm | zmm => true
  | _ => false

end RegisterFamily

/-- A register, by its number among all registers. -/
structure Register where
  /-- The register's number; zero is no register. -/
  number : UInt8
deriving DecidableEq

/-- Registers of one family and width that lie next to each other. -/
structure RegisterBlock where
  /-- The number of the first register of the block. -/
  first : Nat
  /-- The family all of them belong to. -/
  family : RegisterFamily
  /-- The width of each in bits. -/
  bits : Nat
  /-- How machine code numbers the first of them within the family. -/
  lowest : Nat
  /-- The names, in order. -/
  names : List String

namespace RegisterBlock

/-- The names `stem ++ i ++ tail` for `count` numbers from `start` on. -/
def numbered (stem : String) (start count : Nat) (tail : String := "") : List String :=
  (List.range count).map fun i => stem ++ Text.decimal (start + i) ++ tail

/-- Whether the block holds the register with the given number. -/
def holds (block : RegisterBlock) (n : Nat) : Bool :=
  decide (block.first ≤ n) && decide (n < block.first + block.names.length)

end RegisterBlock

namespace Register

/-- Every block of registers, in the order of their numbers. -/
def blocks : List RegisterBlock :=
  [⟨1, .general, 8, 0, ["al", "cl", "dl", "bl"]⟩,
   ⟨5, .general, 8, 4, ["ah", "ch", "dh", "bh"]⟩,
   ⟨9, .general, 8, 4, ["spl", "bpl", "sil", "dil"]⟩,
   ⟨13, .general, 8, 8, RegisterBlock.numbered "r" 8 8 "l"⟩,
   ⟨21, .general, 16, 0,
    ["ax", "cx", "dx", "bx", "sp", "bp", "si", "di"] ++ RegisterBlock.numbered "r" 8 8 "w"⟩,
   ⟨37, .general, 32, 0,
    ["eax", "ecx", "edx", "ebx", "esp", "ebp", "esi", "edi"]
      ++ RegisterBlock.numbered "r" 8 8 "d"⟩,
   ⟨53, .general, 64, 0,
    ["rax", "rcx", "rdx", "rbx", "rsp", "rbp", "rsi", "rdi"] ++ RegisterBlock.numbered "r" 8 8⟩,
   ⟨69, .instructionPointer, 32, 0, ["eip"]⟩,
   ⟨70, .instructionPointer, 64, 0, ["rip"]⟩,
   ⟨71, .segment, 16, 0, ["es", "cs", "ss", "ds", "fs", "gs"]⟩,
   ⟨77, .x87, 80, 0, RegisterBlock.numbered "st" 0 8⟩,
   ⟨85, .mmx, 64, 0, RegisterBlock.numbered "mm" 0 8⟩,
   ⟨93, .control, 64, 0, RegisterBlock.numbered "cr" 0 16⟩,
   ⟨109, .debug, 64, 0, RegisterBlock.numbered "dr" 0 16⟩,
   ⟨125, .xmm, 128, 0, RegisterBlock.numbered "xmm" 0 32⟩,
   ⟨157, .ymm, 256, 0, RegisterBlock.numbered "ymm" 0 32⟩,
   ⟨189, .zmm, 512, 0, RegisterBlock.numbered "zmm" 0 32⟩,
   ⟨221, .opmask, 64, 0, RegisterBlock.numbered "k" 0 8⟩]

/-- The block a register lies in. -/
def block? (r : Register) : Option RegisterBlock :=
  blocks.find? fun block => block.holds r.number.toNat

/-- The family of a register. -/
def family (r : Register) : RegisterFamily :=
  match r.block? with
  | some block => block.family
  | none => .other 0

/-- The width of a register in bits, zero when there is no such register. -/
def bits (r : Register) : Nat :=
  match r.block? with
  | some block => block.bits
  | none => 0

/-- How machine code numbers a register within its family. -/
def index (r : Register) : Nat :=
  match r.block? with
  | some block => block.lowest + (r.number.toNat - block.first)
  | none => 0

/-- No register. -/
def none : Register := ⟨0⟩

/-- The name of a register. -/
def name (r : Register) : String :=
  if r = none then "none"
  else
    match r.block? with
    | some block => block.names.getD (r.number.toNat - block.first) ""
    | .none => "Register(" ++ Text.decimal r.number.toNat ++ ")"

/-- The name of a register in capitals. -/
def upperName (r : Register) : String :=
  r.name.map Char.toUpper

/-- Every register that a block holds, in the order of their numbers. -/
def all : List Register :=
  (List.range 228).map fun i => ⟨(i + 1).toUInt8⟩

/-- The register with the given name, which is not that of no register. -/
def ofName? (name : String) : Option Register :=
  all.find? fun r => r.name == name

/-! ### Registers with a part in addressing or in an operand -/

def al : Register := ⟨1⟩
def ah : Register := ⟨5⟩
def spl : Register := ⟨9⟩
def r8l : Register := ⟨13⟩
def ax : Register := ⟨21⟩
def bx : Register := ⟨24⟩
def bp : Register := ⟨26⟩
def si : Register := ⟨27⟩
def di : Register := ⟨28⟩
def eax : Register := ⟨37⟩
def esp : Register := ⟨41⟩
def ebp : Register := ⟨42⟩
def esi : Register := ⟨43⟩
def edi : Register := ⟨44⟩
def rax : Register := ⟨53⟩
def rsp : Register := ⟨57⟩
def rbp : Register := ⟨58⟩
def rsi : Register := ⟨59⟩
def rdi : Register := ⟨60⟩
def eip : Register := ⟨69⟩
def rip : Register := ⟨70⟩
def es : Register := ⟨71⟩
def cs : Register := ⟨72⟩
def ss : Register := ⟨73⟩
def ds : Register := ⟨74⟩
def fs : Register := ⟨75⟩
def gs : Register := ⟨76⟩
def k0 : Register := ⟨221⟩

end Register

end X86Decoder
