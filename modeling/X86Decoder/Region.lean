import X86Decoder.Files.Basic
import X86Decoder.Misuse
import X86Decoder.Mode
import X86Decoder.Text.Quoted

/-!
# Regions

A region is a range of the bytes of a file, with the mode and the instruction pointer to decode it
with. Offsets and lengths are signed 64-bit numbers, and sums of them wrap.
-/

namespace X86Decoder

/-- A range of a file. -/
structure Region where
  name : String
  file : String
  offset : Int64
  /-- The number of bytes; zero is all up to the end of the file. -/
  length : Int64
  mode : Mode
  /-- The number of bits of the mode. -/
  modeBits : Int
  /-- The instruction pointer of the first byte. -/
  ip : UInt64

/-- Why a region cannot be read. -/
inductive RegionFault where
  | opening (fault : FileFault)
  /-- The range is empty or does not lie within the file. -/
  | exceeds (name : String) (offset length : Int64) (file : String) (size : Int64)
  /-- The offset lies before the file. -/
  | negativeOffset (name file : String)
  /-- The end of the range wraps, and there are no bytes at its offset. -/
  | endOfFile (name file : String)
  | reading (name : String) (fault : FileFault)
  | misuse (misuse : Misuse)
deriving DecidableEq

namespace RegionFault

/-- What is said of a failure to read a region. -/
def readMessage (name file reason : String) : String :=
  "region " ++ Text.quoted name ++ ": failed to read " ++ file ++ ": " ++ reason

/-- What is said of a fault, if anything. -/
def message? : RegionFault → Option String
  | opening fault => some fault.message
  | exceeds name offset length file size =>
    some ("region " ++ Text.quoted name ++ ": range " ++ Text.signedHex offset.toInt ++ "+"
      ++ Text.signedHex length.toInt ++ " exceeds " ++ file ++ " ("
      ++ Text.signedDecimal size.toInt ++ " bytes)")
  | negativeOffset name file =>
    some (readMessage name file ("readat " ++ file ++ ": negative offset"))
  | endOfFile name file => some (readMessage name file "EOF")
  | reading name fault => some (readMessage name fault.path fault.message)
  | misuse m => m.message?

end RegionFault

namespace Region

/-- The greatest number of bytes that can be asked for at once. -/
def sizeLimit : Int64 := 0x1000000000000

/-- The greatest number of bytes that a machine reads in one step. -/
def stepLimit : Int64 := 0x40000000

/-- The number that stands for the size of a directory. -/
def directorySize : Int64 := 4096

/-- The number of bytes that a region asks for in a file of the given size. -/
def wanted (region : Region) (size : Int64) : Int64 :=
  if region.length = 0 then size - region.offset else region.length

/-- Whether a region does not lie within a file of the given size. -/
def outside (region : Region) (size : Int64) : Bool :=
  let length := region.wanted size
  decide (size < region.offset + length) || decide (length ≤ 0)

/-- The bytes of a region of what stands at its path. -/
def readEntry (region : Region) (entry : FileEntry) : Except RegionFault (List UInt8) :=
  let size : Int64 :=
    match entry with
    | .file content => Int64.ofNat content.length
    | .directory => directorySize
  let length := region.wanted size
  if region.outside size then
    .error (.exceeds region.name region.offset length region.file size)
  else if sizeLimit < length then .error (.misuse .outOfBounds)
  else if region.offset < 0 then .error (.negativeOffset region.name region.file)
  else
    match entry with
    | .directory => .error (.reading region.name ⟨.reading, region.file, .isDirectory⟩)
    | .file content =>
      if region.offset + length < 0 then
        if region.offset + min length stepLimit < 0 then
          .error (.reading region.name ⟨.reading, region.file, .invalidArgument⟩)
        else .error (.endOfFile region.name region.file)
      else .ok ((content.drop region.offset.toInt.toNat).take length.toInt.toNat)

/-- Read the bytes of a region. -/
def read {m : Type → Type} [Monad m] (files : FileReader m) (region : Region) :
    m (Except RegionFault (List UInt8)) := do
  match ← files region.file with
  | .error fault => return .error (.opening fault)
  | .ok entry => return region.readEntry entry

end Region

end X86Decoder
