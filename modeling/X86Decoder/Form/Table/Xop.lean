import X86Decoder.Form.Entry
import X86Decoder.Form.Vocabulary

/-!
# XOP opcodes

The forms of the three XOP opcode maps.
-/

namespace X86Decoder.Table

open Entry

/-- Opcodes A0 to AF of XOP map 8. -/
def xop8RowA0 : List Entry := rows .xop8
  [xop "XOP_Vpcmov_VX_HX_WX_Is4X" .plain .v128 .none .clear 0xa2 [.VX, .HX, .WX, .Is4X] .uint128,
   xop "XOP_Vpcmov_VY_HY_WY_Is4Y" .plain .v256 .none .clear 0xa2 [.VY, .HY, .WY, .Is4Y] .uint256,
   xop "XOP_Vpcmov_VX_HX_Is4X_WX" .plain .v128 .none .set 0xa2 [.VX, .HX, .Is4X, .WX] .uint128,
   xop "XOP_Vpcmov_VY_HY_Is4Y_WY" .plain .v256 .none .set 0xa2 [.VY, .HY, .Is4Y, .WY] .uint256,
   xop "XOP_Vpperm_VX_HX_WX_Is4X" .plain .v128 .none .clear 0xa3 [.VX, .HX, .WX, .Is4X]
     .packed128UInt8,
   xop "XOP_Vpperm_VX_HX_Is4X_WX" .plain .v128 .none .set 0xa3 [.VX, .HX, .Is4X, .WX]
     .packed128UInt8]

/-- Opcodes C0 to CF of XOP map 8. -/
def xop8RowC0 : List Entry := rows .xop8
  [xop "XOP_Vprotb_VX_WX_Ib" .plain .v128 .none .clear 0xc0 [.VX, .WX, .Ib] .packed128UInt8,
   xop "XOP_Vprotw_VX_WX_Ib" .plain .v128 .none .clear 0xc1 [.VX, .WX, .Ib] .packed128UInt16,
   xop "XOP_Vprotd_VX_WX_Ib" .plain .v128 .none .clear 0xc2 [.VX, .WX, .Ib] .packed128UInt32,
   xop "XOP_Vprotq_VX_WX_Ib" .plain .v128 .none .clear 0xc3 [.VX, .WX, .Ib] .packed128UInt64,
   xop "XOP_Vpcomb_VX_HX_WX_Ib" .plain .v128 .none .clear 0xcc [.VX, .HX, .WX, .Ib] .packed128Int8,
   xop "XOP_Vpcomw_VX_HX_WX_Ib" .plain .v128 .none .clear 0xcd [.VX, .HX, .WX, .Ib] .packed128Int16,
   xop "XOP_Vpcomd_VX_HX_WX_Ib" .plain .v128 .none .clear 0xce [.VX, .HX, .WX, .Ib] .packed128Int32,
   xop "XOP_Vpcomq_VX_HX_WX_Ib" .plain .v128 .none .clear 0xcf [.VX, .HX, .WX, .Ib] .packed128Int64]

/-- Opcodes 00 to 0F of XOP map 9. -/
def xop9Row00 : List Entry := rows .xop9
  [xop "XOP_Blcfill_Hd_Ed" .plain .l0 .none .clear 0x01 [.Hd, .Ed] .uint32 .all [.wig32] (.reg 1),
   xop "XOP_Blcfill_Hq_Eq" .plain .l0 .none .set 0x01 [.Hq, .Eq] .uint64 .only64 [] (.reg 1),
   xop "XOP_Blsfill_Hd_Ed" .plain .l0 .none .clear 0x01 [.Hd, .Ed] .uint32 .all [.wig32] (.reg 2),
   xop "XOP_Blsfill_Hq_Eq" .plain .l0 .none .set 0x01 [.Hq, .Eq] .uint64 .only64 [] (.reg 2)]

/-- Opcodes 80 to 8F of XOP map 9. -/
def xop9Row80 : List Entry := rows .xop9
  [xop "XOP_Vfrczps_VX_WX" .plain .v128 .none .clear 0x80 [.VX, .WX] .packed128Float32,
   xop "XOP_Vfrczps_VY_WY" .plain .v256 .none .clear 0x80 [.VY, .WY] .packed256Float32,
   xop "XOP_Vfrczpd_VX_WX" .plain .v128 .none .clear 0x81 [.VX, .WX] .packed128Float64,
   xop "XOP_Vfrczpd_VY_WY" .plain .v256 .none .clear 0x81 [.VY, .WY] .packed256Float64,
   xop "XOP_Vfrczss_VX_WX" .plain .v128 .none .clear 0x82 [.VX, .WX] .float32,
   xop "XOP_Vfrczsd_VX_WX" .plain .v128 .none .clear 0x83 [.VX, .WX] .float64]

/-- Opcodes 90 to 9F of XOP map 9. -/
def xop9Row90 : List Entry := rows .xop9
  [xop "XOP_Vprotb_VX_WX_HX" .plain .v128 .none .clear 0x90 [.VX, .WX, .HX] .packed128UInt8,
   xop "XOP_Vprotb_VX_HX_WX" .plain .v128 .none .set 0x90 [.VX, .HX, .WX] .packed128UInt8,
   xop "XOP_Vprotw_VX_WX_HX" .plain .v128 .none .clear 0x91 [.VX, .WX, .HX] .packed128UInt16,
   xop "XOP_Vprotw_VX_HX_WX" .plain .v128 .none .set 0x91 [.VX, .HX, .WX] .packed128UInt16]

/-- Opcodes 10 to 1F of XOP map A. -/
def xopARow10 : List Entry := rows .xopA
  [xop "XOP_Bextr_Gd_Ed_Id" .plain .l0 .none .clear 0x10 [.Gd, .Ed, .Id] .uint32 .all [.wig32],
   xop "XOP_Bextr_Gq_Eq_Id" .plain .l0 .none .set 0x10 [.Gq, .Eq, .Id] .uint64 .only64]

end X86Decoder.Table
