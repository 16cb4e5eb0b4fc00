import X86Decoder.Text.Numeral

/-!
# Memory sizes

What a memory operand accesses: its total size, and the size and type of each element. A packed
size is named by its total width and its element. A broadcast size is named by the width of the
vector and the single element that is repeated across it.
-/

namespace X86Decoder

/-- The data accessed by a memory operand. -/
inductive MemorySize where
  | unknown
  | uint8
  | uint16
  | uint32
  | uint52
  | uint64
  | uint128
  | uint256
  | uint512
  | int8
  | int16
  | int32
  | int64
  | int128
  | int256
  | int512
  | segPtr16
  | segPtr32
  | segPtr64
  | wordOffset
  | dwordOffset
  | qwordOffset
  | bound16WordWord
  | bound32DwordDword
  | bnd32
  | bnd64
  | fword5
  | fword6
  | fword10
  | float16
  | float32
  | float64
  | float80
  | float128
  | bfloat16
  | fpuEnv14
  | fpuEnv28
  | fpuState94
  | fpuState108
  | fxsave512Byte
  | fxsave64512Byte
  | xsave
  | xsave64
  | bcd
  | packed16UInt8
  | packed16Int8
  | packed32UInt8
  | packed32Int8
  | packed32UInt16
  | packed32Int16
  | packed32BFloat16
  | packed64UInt8
  | packed64Int8
  | packed64UInt16
  | packed64Int16
  | packed64UInt32
  | packed64Int32
  | packed64Float16
  | packed64Float32
  | packed128UInt8
  | packed128Int8
  | packed128UInt16
  | packed128Int16
  | packed128UInt32
  | packed128Int32
  | packed128UInt52
  | packed128UInt64
  | packed128Int64
  | packed128Float16
  | packed128Float32
  | packed128Float64
  | packed128TwoBFloat16
  | packed256UInt8
  | packed256Int8
  | packed256UInt16
  | packed256Int16
  | packed256UInt32
  | packed256Int32
  | packed256UInt52
  | packed256UInt64
  | packed256Int64
  | packed256UInt128
  | packed256Int128
  | packed256Float16
  | packed256Float32
  | packed256Float64
  | packed256Float128
  | packed256TwoBFloat16
  | packed512UInt8
  | packed512Int8
  | packed512UInt16
  | packed512Int16
  | packed512UInt32
  | packed512Int32
  | packed512UInt52
  | packed512UInt64
  | packed512Int64
  | packed512UInt128
  | packed512Float32
  | packed512Float64
  | packed512TwoBFloat16
  | broadcast64UInt32
  | broadcast64Int32
  | broadcast64Float32
  | broadcast128UInt32
  | broadcast128Int32
  | broadcast128UInt52
  | broadcast128UInt64
  | broadcast128Int64
  | broadcast128Float32
  | broadcast128Float64
  | broadcast256UInt32
  | broadcast256Int32
  | broadcast256UInt52
  | broadcast256UInt64
  | broadcast256Int64
  | broadcast256Float32
  | broadcast256Float64
  | broadcast512UInt32
  | broadcast512Int32
  | broadcast512UInt52
  | broadcast512UInt64
  | broadcast512Int64
  | broadcast512Float32
  | broadcast512Float64
  | broadcast128TwoInt16
  | broadcast256TwoInt16
  | broadcast512TwoInt16
  | broadcast128TwoUInt32
  | broadcast256TwoUInt32
  | broadcast512TwoUInt32
  | broadcast128TwoInt32
  | broadcast256TwoInt32
  | broadcast512TwoInt32
  | broadcast128TwoBFloat16
  | broadcast256TwoBFloat16
  | broadcast512TwoBFloat16
  /-- A number that no memory size has. -/
  | other (number : UInt8)
deriving DecidableEq

namespace MemorySize

/-- The facts about a memory size. -/
structure Facts where
  /-- The name of the size. -/
  name : String
  /-- The total number of bytes accessed, or zero if it is not known. -/
  size : Nat
  /-- The size in bytes of each element. -/
  elementSize : Nat
  /-- The memory size of a single element. -/
  elementType : MemorySize
  /-- Whether the elements are signed integers or floating point. -/
  signed : Bool
  /-- Whether a single element is broadcast to every lane of a vector. -/
  broadcast : Bool

/-- The facts about each memory size. -/
def facts : MemorySize → Facts
  | unknown => ⟨"Unknown", 0, 0, unknown, false, false⟩
  | uint8 => ⟨"UInt8", 1, 1, uint8, false, false⟩
  | uint16 => ⟨"UInt16", 2, 2, uint16, false, false⟩
  | uint32 => ⟨"UInt32", 4, 4, uint32, false, false⟩
  | uint52 => ⟨"UInt52", 8, 8, uint52, false, false⟩
  | uint64 => ⟨"UInt64", 8, 8, uint64, false, false⟩
  | uint128 => ⟨"UInt128", 16, 16, uint128, false, false⟩
  | uint256 => ⟨"UInt256", 32, 32, uint256, false, false⟩
  | uint512 => ⟨"UInt512", 64, 64, uint512, false, false⟩
  | int8 => ⟨"Int8", 1, 1, int8, true, false⟩
  | int16 => ⟨"Int16", 2, 2, int16, true, false⟩
  | int32 => ⟨"Int32", 4, 4, int32, true, false⟩
  | int64 => ⟨"Int64", 8, 8, int64, true, false⟩
  | int128 => ⟨"Int128", 16, 16, int128, true, false⟩
  | int256 => ⟨"Int256", 32, 32, int256, true, false⟩
  | int512 => ⟨"Int512", 64, 64, int512, true, false⟩
  | segPtr16 => ⟨"SegPtr16", 4, 4, segPtr16, false, false⟩
  | segPtr32 => ⟨"SegPtr32", 6, 6, segPtr32, false, false⟩
  | segPtr64 => ⟨"SegPtr64", 10, 10, segPtr64, false, false⟩
  | wordOffset => ⟨"WordOffset", 2, 2, wordOffset, false, false⟩
  | dwordOffset => ⟨"DwordOffset", 4, 4, dwordOffset, false, false⟩
  | qwordOffset => ⟨"QwordOffset", 8, 8, qwordOffset, false, false⟩
  | bound16WordWord => ⟨"Bound16_WordWord", 4, 4, bound16WordWord, false, false⟩
  | bound32DwordDword => ⟨"Bound32_DwordDword", 8, 8, bound32DwordDword, false, false⟩
  | bnd32 => ⟨"Bnd32", 8, 8, bnd32, false, false⟩
  | bnd64 => ⟨"Bnd64", 16, 16, bnd64, false, false⟩
  | fword5 => ⟨"Fword5", 5, 5, fword5, false, false⟩
  | fword6 => ⟨"Fword6", 6, 6, fword6, false, false⟩
  | fword10 => ⟨"Fword10", 10, 10, fword10, false, false⟩
  | float16 => ⟨"Float16", 2, 2, float16, true, false⟩
  | float32 => ⟨"Float32", 4, 4, float32, true, false⟩
  | float64 => ⟨"Float64", 8, 8, float64, true, false⟩
  | float80 => ⟨"Float80", 10, 10, float80, true, false⟩
  | float128 => ⟨"Float128", 16, 16, float128, true, false⟩
  | bfloat16 => ⟨"BFloat16", 2, 2, bfloat16, true, false⟩
  | fpuEnv14 => ⟨"FpuEnv14", 14, 14, fpuEnv14, false, false⟩
  | fpuEnv28 => ⟨"FpuEnv28", 28, 28, fpuEnv28, false, false⟩
  | fpuState94 => ⟨"FpuState94", 94, 94, fpuState94, false, false⟩
  | fpuState108 => ⟨"FpuState108", 108, 108, fpuState108, false, false⟩
  | fxsave512Byte => ⟨"Fxsave_512Byte", 512, 512, fxsave512Byte, false, false⟩
  | fxsave64512Byte => ⟨"Fxsave64_512Byte", 512, 512, fxsave64512Byte, false, false⟩
  | xsave => ⟨"Xsave", 0, 0, xsave, false, false⟩
  | xsave64 => ⟨"Xsave64", 0, 0, xsave64, false, false⟩
  | bcd => ⟨"Bcd", 10, 10, bcd, true, false⟩
  | packed16UInt8 => ⟨"Packed16_UInt8", 2, 1, uint8, false, false⟩
  | packed16Int8 => ⟨"Packed16_Int8", 2, 1, int8, true, false⟩
  | packed32UInt8 => ⟨"Packed32_UInt8", 4, 1, uint8, false, false⟩
  | packed32Int8 => ⟨"Packed32_Int8", 4, 1, int8, true, false⟩
  | packed32UInt16 => ⟨"Packed32_UInt16", 4, 2, uint16, false, false⟩
  | packed32Int16 => ⟨"Packed32_Int16", 4, 2, int16, true, false⟩
  | packed32BFloat16 => ⟨"Packed32_BFloat16", 4, 2, bfloat16, true, false⟩
  | packed64UInt8 => ⟨"Packed64_UInt8", 8, 1, uint8, false, false⟩
  | packed64Int8 => ⟨"Packed64_Int8", 8, 1, int8, true, false⟩
  | packed64UInt16 => ⟨"Packed64_UInt16", 8, 2, uint16, false, false⟩
  | packed64Int16 => ⟨"Packed64_Int16", 8, 2, int16, true, false⟩
  | packed64UInt32 => ⟨"Packed64_UInt32", 8, 4, uint32, false, false⟩
  | packed64Int32 => ⟨"Packed64_Int32", 8, 4, int32, true, false⟩
  | packed64Float16 => ⟨"Packed64_Float16", 8, 2, float16, true, false⟩
  | packed64Float32 => ⟨"Packed64_Float32", 8, 4, float32, true, false⟩
  | packed128UInt8 => ⟨"Packed128_UInt8", 16, 1, uint8, false, false⟩
  | packed128Int8 => ⟨"Packed128_Int8", 16, 1, int8, true, false⟩
  | packed128UInt16 => ⟨"Packed128_UInt16", 16, 2, uint16, false, false⟩
  | packed128Int16 => ⟨"Packed128_Int16", 16, 2, int16, true, false⟩
  | packed128UInt32 => ⟨"Packed128_UInt32", 16, 4, uint32, false, false⟩
  | packed128Int32 => ⟨"Packed128_Int32", 16, 4, int32, true, false⟩
  | packed128UInt52 => ⟨"Packed128_UInt52", 16, 8, uint52, false, false⟩
  | packed128UInt64 => ⟨"Packed128_UInt64", 16, 8, uint64, false, false⟩
  | packed128Int64 => ⟨"Packed128_Int64", 16, 8, int64, true, false⟩
  | packed128Float16 => ⟨"Packed128_Float16", 16, 2, float16, true, false⟩
  | packed128Float32 => ⟨"Packed128_Float32", 16, 4, float32, true, false⟩
  | packed128Float64 => ⟨"Packed128_Float64", 16, 8, float64, true, false⟩
  | packed128TwoBFloat16 => ⟨"Packed128_2xBFloat16", 16, 4, packed32BFloat16, true, false⟩
  | packed256UInt8 => ⟨"Packed256_UInt8", 32, 1, uint8, false, false⟩
  | packed256Int8 => ⟨"Packed256_Int8", 32, 1, int8, true, false⟩
  | packed256UInt16 => ⟨"Packed256_UInt16", 32, 2, uint16, false, false⟩
  | packed256Int16 => ⟨"Packed256_Int16", 32, 2, int16, true, false⟩
  | packed256UInt32 => ⟨"Packed256_UInt32", 32, 4, uint32, false, false⟩
  | packed256Int32 => ⟨"Packed256_Int32", 32, 4, int32, true, false⟩
  | packed256UInt52 => ⟨"Packed256_UInt52", 32, 8, uint52, false, false⟩
  | packed256UInt64 => ⟨"Packed256_UInt64", 32, 8, uint64, false, false⟩
  | packed256Int64 => ⟨"Packed256_Int64", 32, 8, int64, true, false⟩
  | packed256UInt128 => ⟨"Packed256_UInt128", 32, 16, uint128, false, false⟩
  | packed256Int128 => ⟨"Packed256_Int128", 32, 16, int128, true, false⟩
  | packed256Float16 => ⟨"Packed256_Float16", 32, 2, float16, true, false⟩
  | packed256Float32 => ⟨"Packed256_Float32", 32, 4, float32, true, false⟩
  | packed256Float64 => ⟨"Packed256_Float64", 32, 8, float64, true, false⟩
  | packed256Float128 => ⟨"Packed256_Float128", 32, 16, float128, true, false⟩
  | packed256TwoBFloat16 => ⟨"Packed256_2xBFloat16", 32, 4, packed32BFloat16, true, false⟩
  | packed512UInt8 => ⟨"Packed512_UInt8", 64, 1, uint8, false, false⟩
  | packed512Int8 => ⟨"Packed512_Int8", 64, 1, int8, true, false⟩
  | packed512UInt16 => ⟨"Packed512_UInt16", 64, 2, uint16, false, false⟩
  | packed512Int16 => ⟨"Packed512_Int16", 64, 2, int16, true, false⟩
  | packed512UInt32 => ⟨"Packed512_UInt32", 64, 4, uint32, false, false⟩
  | packed512Int32 => ⟨"Packed512_Int32", 64, 4, int32, true, false⟩
  | packed512UInt52 => ⟨"Packed512_UInt52", 64, 8, uint52, false, false⟩
  | packed512UInt64 => ⟨"Packed512_UInt64", 64, 8, uint64, false, false⟩
  | packed512Int64 => ⟨"Packed512_Int64", 64, 8, int64, true, false⟩
  | packed512UInt128 => ⟨"Packed512_UInt128", 64, 16, uint128, false, false⟩
  | packed512Float32 => ⟨"Packed512_Float32", 64, 4, float32, true, false⟩
  | packed512Float64 => ⟨"Packed512_Float64", 64, 8, float64, true, false⟩
  | packed512TwoBFloat16 => ⟨"Packed512_2xBFloat16", 64, 4, packed32BFloat16, true, false⟩
  | broadcast64UInt32 => ⟨"Broadcast64_UInt32", 4, 4, uint32, false, true⟩
  | broadcast64Int32 => ⟨"Broadcast64_Int32", 4, 4, int32, true, true⟩
  | broadcast64Float32 => ⟨"Broadcast64_Float32", 4, 4, float32, true, true⟩
  | broadcast128UInt32 => ⟨"Broadcast128_UInt32", 4, 4, uint32, false, true⟩
  | broadcast128Int32 => ⟨"Broadcast128_Int32", 4, 4, int32, true, true⟩
  | broadcast128UInt52 => ⟨"Broadcast128_UInt52", 8, 8, uint52, false, true⟩
  | broadcast128UInt64 => ⟨"Broadcast128_UInt64", 8, 8, uint64, false, true⟩
  | broadcast128Int64 => ⟨"Broadcast128_Int64", 8, 8, int64, true, true⟩
  | broadcast128Float32 => ⟨"Broadcast128_Float32", 4, 4, float32, true, true⟩
  | broadcast128Float64 => ⟨"Broadcast128_Float64", 8, 8, float64, true, true⟩
  | broadcast256UInt32 => ⟨"Broadcast256_UInt32", 4, 4, uint32, false, true⟩
  | broadcast256Int32 => ⟨"Broadcast256_Int32", 4, 4, int32, true, true⟩
  | broadcast256UInt52 => ⟨"Broadcast256_UInt52", 8, 8, uint52, false, true⟩
  | broadcast256UInt64 => ⟨"Broadcast256_UInt64", 8, 8, uint64, false, true⟩
  | broadcast256Int64 => ⟨"Broadcast256_Int64", 8, 8, int64, true, true⟩
  | broadcast256Float32 => ⟨"Broadcast256_Float32", 4, 4, float32, true, true⟩
  | broadcast256Float64 => ⟨"Broadcast256_Float64", 8, 8, float64, true, true⟩
  | broadcast512UInt32 => ⟨"Broadcast512_UInt32", 4, 4, uint32, false, true⟩
  | broadcast512Int32 => ⟨"Broadcast512_Int32", 4, 4, int32, true, true⟩
  | broadcast512UInt52 => ⟨"Broadcast512_UInt52", 8, 8, uint52, false, true⟩
  | broadcast512UInt64 => ⟨"Broadcast512_UInt64", 8, 8, uint64, false, true⟩
  | broadcast512Int64 => ⟨"Broadcast512_Int64", 8, 8, int64, true, true⟩
  | broadcast512Float32 => ⟨"Broadcast512_Float32", 4, 4, float32, true, true⟩
  | broadcast512Float64 => ⟨"Broadcast512_Float64", 8, 8, float64, true, true⟩
  | broadcast128TwoInt16 => ⟨"Broadcast128_2xInt16", 4, 2, int16, true, true⟩
  | broadcast256TwoInt16 => ⟨"Broadcast256_2xInt16", 4, 2, int16, true, true⟩
  | broadcast512TwoInt16 => ⟨"Broadcast512_2xInt16", 4, 2, int16, true, true⟩
  | broadcast128TwoUInt32 => ⟨"Broadcast128_2xUInt32", 8, 4, uint32, false, true⟩
  | broadcast256TwoUInt32 => ⟨"Broadcast256_2xUInt32", 8, 4, uint32, false, true⟩
  | broadcast512TwoUInt32 => ⟨"Broadcast512_2xUInt32", 8, 4, uint32, false, true⟩
  | broadcast128TwoInt32 => ⟨"Broadcast128_2xInt32", 8, 4, int32, true, true⟩
  | broadcast256TwoInt32 => ⟨"Broadcast256_2xInt32", 8, 4, int32, true, true⟩
  | broadcast512TwoInt32 => ⟨"Broadcast512_2xInt32", 8, 4, int32, true, true⟩
  | broadcast128TwoBFloat16 => ⟨"Broadcast128_2xBFloat16", 4, 2, bfloat16, true, true⟩
  | broadcast256TwoBFloat16 => ⟨"Broadcast256_2xBFloat16", 4, 2, bfloat16, true, true⟩
  | broadcast512TwoBFloat16 => ⟨"Broadcast512_2xBFloat16", 4, 2, bfloat16, true, true⟩
  | other n => ⟨"MemorySize(" ++ Text.decimal n.toNat ++ ")", 0, 0, unknown, false, false⟩

/-- Every memory size, in the order of their numbers. -/
def all : List MemorySize :=
  [unknown, uint8, uint16, uint32, uint52, uint64, uint128, uint256, uint512, int8, int16, int32,
   int64, int128, int256, int512, segPtr16, segPtr32, segPtr64, wordOffset, dwordOffset,
   qwordOffset, bound16WordWord, bound32DwordDword, bnd32, bnd64, fword5, fword6, fword10, float16,
   float32, float64, float80, float128, bfloat16, fpuEnv14, fpuEnv28, fpuState94, fpuState108,
   fxsave512Byte, fxsave64512Byte, xsave, xsave64, bcd, packed16UInt8, packed16Int8, packed32UInt8,
   packed32Int8, packed32UInt16, packed32Int16, packed32BFloat16, packed64UInt8, packed64Int8,
   packed64UInt16, packed64Int16, packed64UInt32, packed64Int32, packed64Float16, packed64Float32,
   packed128UInt8, packed128Int8, packed128UInt16, packed128Int16, packed128UInt32, packed128Int32,
   packed128UInt52, packed128UInt64, packed128Int64, packed128Float16, packed128Float32,
   packed128Float64, packed128TwoBFloat16, packed256UInt8, packed256Int8, packed256UInt16,
   packed256Int16, packed256UInt32, packed256Int32, packed256UInt52, packed256UInt64,
   packed256Int64, packed256UInt128, packed256Int128, packed256Float16, packed256Float32,
   packed256Float64, packed256Float128, packed256TwoBFloat16, packed512UInt8, packed512Int8,
   packed512UInt16, packed512Int16, packed512UInt32, packed512Int32, packed512UInt52,
   packed512UInt64, packed512Int64, packed512UInt128, packed512Float32, packed512Float64,
   packed512TwoBFloat16, broadcast64UInt32, broadcast64Int32, broadcast64Float32,
   broadcast128UInt32, broadcast128Int32, broadcast128UInt52, broadcast128UInt64, broadcast128Int64,
   broadcast128Float32, broadcast128Float64, broadcast256UInt32, broadcast256Int32,
   broadcast256UInt52, broadcast256UInt64, broadcast256Int64, broadcast256Float32,
   broadcast256Float64, broadcast512UInt32, broadcast512Int32, broadcast512UInt52,
   broadcast512UInt64, broadcast512Int64, broadcast512Float32, broadcast512Float64,
   broadcast128TwoInt16, broadcast256TwoInt16, broadcast512TwoInt16, broadcast128TwoUInt32,
   broadcast256TwoUInt32, broadcast512TwoUInt32, broadcast128TwoInt32, broadcast256TwoInt32,
   broadcast512TwoInt32, broadcast128TwoBFloat16, broadcast256TwoBFloat16, broadcast512TwoBFloat16]

/-- The memory size with the given number. -/
def ofNumber (n : UInt8) : MemorySize :=
  (all[n.toNat]?).getD (other n)

/-- The number of a memory size. -/
def number : MemorySize → Nat
  | other n => n.toNat
  | size => all.idxOf size

/-- The name of a memory size. -/
def name (size : MemorySize) : String :=
  size.facts.name

/-- Whether a single element is broadcast to every lane of a vector. -/
def isBroadcast (size : MemorySize) : Bool :=
  size.facts.broadcast

/-- Whether the memory holds more than one element. -/
def isPacked (size : MemorySize) : Bool :=
  decide (size.facts.elementSize < size.facts.size)

/-- The memory size with the given name. -/
def ofName? (name : String) : Option MemorySize :=
  all.find? fun size => size.name == name

end MemorySize

end X86Decoder
