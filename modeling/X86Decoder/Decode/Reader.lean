import X86Decoder.Decode.Fault
import X86Decoder.Instruction.Basic
import X86Decoder.Word

/-!
# Reading an instruction

A reader takes the bytes of one instruction from the front of the data. It counts them, refuses to
read more than the longest instruction has, and keeps its state when it fails, so that the place of
a failure and the prefixes read until then can be told.
-/

namespace X86Decoder

/-- The greatest number of bytes in an instruction. -/
def maxLength : Nat := 15

/-- The state of a reader. -/
structure ReadState where
  /-- The bytes not yet read. -/
  rest : List UInt8
  /-- The number of bytes read. -/
  consumed : Nat := 0
  /-- What the prefixes read so far say. -/
  prefixes : PrefixState := {}
  /-- Whether the memory operand is relative to the instruction pointer. -/
  relative : Bool := false

/-- The state in front of an instruction at the start of the data, whatever was read before. -/
def ReadState.reset (s : ReadState) (data : List UInt8) : ReadState :=
  { s with rest := data, consumed := 0, prefixes := s.prefixes.reset, relative := false }

/-- A computation that reads the bytes of an instruction. -/
abbrev Reader (α : Type) : Type := ExceptT DecodeFault (StateM ReadState) α

namespace Reader

/-- The outcome of a reader and the state it ends in. -/
def runOn {α : Type} (reader : Reader α) (s : ReadState) : Except DecodeFault α × ReadState :=
  reader.run.run s

/-- Fail because of a request outside a function's contract. -/
def misuse {α : Type} (cause : Misuse) : Reader α :=
  throw (.misuse cause)

/-- The answer to a request, which has to be within its contract. -/
def request {α : Type} : Except Misuse α → Reader α
  | .ok a => return a
  | .error cause => misuse cause

/-- Read one byte. The limit on the length is checked before the end of the data. -/
def byte : Reader UInt8 := do
  let s ← get
  if maxLength ≤ s.consumed then throw .tooLong
  else
    match s.rest with
    | [] => throw .truncated
    | b :: rest =>
      set { s with rest := rest, consumed := s.consumed + 1 }
      return b

/-- The next byte, if it can be read, without reading it. -/
def peek? : Reader (Option UInt8) := do
  let s ← get
  return if maxLength ≤ s.consumed then none else s.rest.head?

/-- Read the given number of bytes. -/
def bytes : Nat → Reader (List UInt8)
  | 0 => return []
  | n + 1 => do
    let b ← byte
    let rest ← bytes n
    return b :: rest

/-- Read a number of the given number of bytes, lowest first. A number has eight bytes at most. -/
def number (size : Nat) : Reader UInt64 :=
  if 8 < size then misuse .outOfBounds
  else do
    let bs ← bytes size
    return UInt64.ofNat (Word.littleEndian bs)

/-- How many bytes have been read. -/
def position : Reader Nat := do
  let s ← get
  return s.consumed

/-- What the prefixes read so far say. -/
def prefixes : Reader PrefixState := do
  let s ← get
  return s.prefixes

/-- Whether the memory operand is relative to the instruction pointer. -/
def isRelative : Reader Bool := do
  let s ← get
  return s.relative

/-- Change what the prefixes say. -/
def modifyPrefixes (f : PrefixState → PrefixState) : Reader Unit :=
  modify fun s => { s with prefixes := f s.prefixes }

/-- Record whether the memory operand is relative to the instruction pointer. -/
def setRelative (relative : Bool) : Reader Unit :=
  modify fun s => { s with relative := relative }

/-- Fail because of the prefixes. -/
def refusePrefixes {α : Type} (fault : PrefixFault) : Reader α :=
  throw (.prefixes fault)

/-- Fail because of the ModR/M or SIB byte. -/
def refuseModRM {α : Type} (fault : ModRMFault) : Reader α :=
  throw (.modrm fault)

/-- Fail if there is something wrong with the prefixes. -/
def checkPrefixes : Option PrefixFault → Reader Unit
  | some fault => refusePrefixes fault
  | none => return

end Reader

end X86Decoder
