import X86Decoder.Form.Entry
import X86Decoder.Form.Vocabulary

/-!
# Opcodes F0 to FF of the 0F map
-/

namespace X86Decoder.Table

open Entry

/-- Opcodes F0 to FF of the 0F map. -/
def map0FF0 : List Entry := rows .map0F
  [legacy "Lddqu_VX_M" .pF2 0xf0 [.VX, .M] .uint128 .all mem,
   vex "VEX_Vlddqu_VX_M" .plain .v128 .pF2 .any 0xf0 [.VX, .M] .uint128 .all mem,
   vex "VEX_Vlddqu_VY_M" .plain .v256 .pF2 .any 0xf0 [.VY, .M] .uint256 .all mem,
   legacy "Psllw_VX_WX" .p66 0xf1 [.VX, .WX] .packed128UInt64,
   legacy "Psllw_P_Q" .np 0xf1 [.P, .Q] .uint64,
   vex "VEX_Vpsllw_VX_HX_WX" .nds .v128 .p66 .any 0xf1 [.VX, .HX, .WX] .packed128UInt64,
   vex "VEX_Vpsllw_VY_HY_WX" .nds .v256 .p66 .any 0xf1 [.VY, .HY, .WX] .packed128UInt64,
   evex "EVEX_Vpsllw_VX_k1z_HX_WX" .nds .v128 .p66 .any 0xf1 [.VX, .HX, .WX] .packed128UInt64
     .mem128 k1z,
   evex "EVEX_Vpsllw_VY_k1z_HY_WX" .nds .v256 .p66 .any 0xf1 [.VY, .HY, .WX] .packed128UInt64
     .mem128 k1z,
   evex "EVEX_Vpsllw_VZ_k1z_HZ_WX" .nds .v512 .p66 .any 0xf1 [.VZ, .HZ, .WX] .packed128UInt64
     .mem128 k1z,
   legacy "Pslld_VX_WX" .p66 0xf2 [.VX, .WX] .packed128UInt64,
   legacy "Pslld_P_Q" .np 0xf2 [.P, .Q] .uint64,
   vex "VEX_Vpslld_VX_HX_WX" .nds .v128 .p66 .any 0xf2 [.VX, .HX, .WX] .packed128UInt64,
   vex "VEX_Vpslld_VY_HY_WX" .nds .v256 .p66 .any 0xf2 [.VY, .HY, .WX] .packed128UInt64,
   evex "EVEX_Vpslld_VX_k1z_HX_WX" .nds .v128 .p66 .clear 0xf2 [.VX, .HX, .WX] .packed128UInt64
     .mem128 k1z,
   evex "EVEX_Vpslld_VY_k1z_HY_WX" .nds .v256 .p66 .clear 0xf2 [.VY, .HY, .WX] .packed128UInt64
     .mem128 k1z,
   evex "EVEX_Vpslld_VZ_k1z_HZ_WX" .nds .v512 .p66 .clear 0xf2 [.VZ, .HZ, .WX] .packed128UInt64
     .mem128 k1z,
   legacy "Psllq_VX_WX" .p66 0xf3 [.VX, .WX] .packed128UInt64,
   legacy "Psllq_P_Q" .np 0xf3 [.P, .Q] .uint64,
   vex "VEX_Vpsllq_VX_HX_WX" .nds .v128 .p66 .any 0xf3 [.VX, .HX, .WX] .packed128UInt64,
   vex "VEX_Vpsllq_VY_HY_WX" .nds .v256 .p66 .any 0xf3 [.VY, .HY, .WX] .packed128UInt64,
   evex "EVEX_Vpsllq_VX_k1z_HX_WX" .nds .v128 .p66 .set 0xf3 [.VX, .HX, .WX] .packed128UInt64
     .mem128 k1z,
   evex "EVEX_Vpsllq_VY_k1z_HY_WX" .nds .v256 .p66 .set 0xf3 [.VY, .HY, .WX] .packed128UInt64
     .mem128 k1z,
   evex "EVEX_Vpsllq_VZ_k1z_HZ_WX" .nds .v512 .p66 .set 0xf3 [.VZ, .HZ, .WX] .packed128UInt64
     .mem128 k1z,
   legacy "Pmuludq_VX_WX" .p66 0xf4 [.VX, .WX] .packed128UInt64,
   legacy "Pmuludq_P_Q" .np 0xf4 [.P, .Q] .uint64,
   vex "VEX_Vpmuludq_VX_HX_WX" .nds .v128 .p66 .any 0xf4 [.VX, .HX, .WX] .packed128UInt64,
   vex "VEX_Vpmuludq_VY_HY_WY" .nds .v256 .p66 .any 0xf4 [.VY, .HY, .WY] .packed256UInt64,
   full "EVEX_Vpmuludq_VX_k1z_HX_WX_b" .nds .v128 .p66 .set 0xf4 [.VX, .HX, .WX] .uint64,
   full "EVEX_Vpmuludq_VY_k1z_HY_WY_b" .nds .v256 .p66 .set 0xf4 [.VY, .HY, .WY] .uint64,
   full "EVEX_Vpmuludq_VZ_k1z_HZ_WZ_b" .nds .v512 .p66 .set 0xf4 [.VZ, .HZ, .WZ] .uint64,
   legacy "Pmaddwd_VX_WX" .p66 0xf5 [.VX, .WX] .packed128Int16,
   legacy "Pmaddwd_P_Q" .np 0xf5 [.P, .Q] .packed64Int16,
   vex "VEX_Vpmaddwd_VX_HX_WX" .nds .v128 .p66 .any 0xf5 [.VX, .HX, .WX] .packed128Int16,
   vex "VEX_Vpmaddwd_VY_HY_WY" .nds .v256 .p66 .any 0xf5 [.VY, .HY, .WY] .packed256Int16,
   fullMem "EVEX_Vpmaddwd_VX_k1z_HX_WX" .nds .v128 .p66 .any 0xf5 [.VX, .HX, .WX] .int16,
   fullMem "EVEX_Vpmaddwd_VY_k1z_HY_WY" .nds .v256 .p66 .any 0xf5 [.VY, .HY, .WY] .int16,
   fullMem "EVEX_Vpmaddwd_VZ_k1z_HZ_WZ" .nds .v512 .p66 .any 0xf5 [.VZ, .HZ, .WZ] .int16,
   legacy "Psadbw_VX_WX" .p66 0xf6 [.VX, .WX] .packed128UInt8,
   legacy "Psadbw_P_Q" .np 0xf6 [.P, .Q] .packed64UInt8,
   vex "VEX_Vpsadbw_VX_HX_WX" .nds .v128 .p66 .any 0xf6 [.VX, .HX, .WX] .packed128UInt8,
   vex "VEX_Vpsadbw_VY_HY_WY" .nds .v256 .p66 .any 0xf6 [.VY, .HY, .WY] .packed256UInt8,
   fullMem "EVEX_Vpsadbw_VX_HX_WX" .nds .v128 .p66 .any 0xf6 [.VX, .HX, .WX] .uint8 [],
   fullMem "EVEX_Vpsadbw_VY_HY_WY" .nds .v256 .p66 .any 0xf6 [.VY, .HY, .WY] .uint8 [],
   fullMem "EVEX_Vpsadbw_VZ_HZ_WZ" .nds .v512 .p66 .any 0xf6 [.VZ, .HZ, .WZ] .uint8 [],
   legacy "Maskmovdqu_rDI_VX_RX" .p66 0xf7 [.rDI, .VX, .RX] .uint128 .all reg,
   legacy "Maskmovq_rDI_P_N" .np 0xf7 [.rDI, .P, .N] .uint64 .all reg,
   vex "VEX_Vmaskmovdqu_rDI_VX_RX" .plain .v128 .p66 .any 0xf7 [.rDI, .VX, .RX] .uint128 .all reg,
   legacy "Psubb_VX_WX" .p66 0xf8 [.VX, .WX] .packed128Int8,
   legacy "Psubb_P_Q" .np 0xf8 [.P, .Q] .packed64Int8,
   vex "VEX_Vpsubb_VX_HX_WX" .nds .v128 .p66 .any 0xf8 [.VX, .HX, .WX] .packed128Int8,
   vex "VEX_Vpsubb_VY_HY_WY" .nds .v256 .p66 .any 0xf8 [.VY, .HY, .WY] .packed256Int8,
   fullMem "EVEX_Vpsubb_VX_k1z_HX_WX" .nds .v128 .p66 .any 0xf8 [.VX, .HX, .WX] .int8,
   fullMem "EVEX_Vpsubb_VY_k1z_HY_WY" .nds .v256 .p66 .any 0xf8 [.VY, .HY, .WY] .int8,
   fullMem "EVEX_Vpsubb_VZ_k1z_HZ_WZ" .nds .v512 .p66 .any 0xf8 [.VZ, .HZ, .WZ] .int8,
   legacy "Psubw_VX_WX" .p66 0xf9 [.VX, .WX] .packed128Int16,
   legacy "Psubw_P_Q" .np 0xf9 [.P, .Q] .packed64Int16,
   vex "VEX_Vpsubw_VX_HX_WX" .nds .v128 .p66 .any 0xf9 [.VX, .HX, .WX] .packed128Int16,
   vex "VEX_Vpsubw_VY_HY_WY" .nds .v256 .p66 .any 0xf9 [.VY, .HY, .WY] .packed256Int16,
   fullMem "EVEX_Vpsubw_VX_k1z_HX_WX" .nds .v128 .p66 .any 0xf9 [.VX, .HX, .WX] .int16,
   fullMem "EVEX_Vpsubw_VY_k1z_HY_WY" .nds .v256 .p66 .any 0xf9 [.VY, .HY, .WY] .int16,
   fullMem "EVEX_Vpsubw_VZ_k1z_HZ_WZ" .nds .v512 .p66 .any 0xf9 [.VZ, .HZ, .WZ] .int16,
   legacy "Psubd_VX_WX" .p66 0xfa [.VX, .WX] .packed128Int32,
   legacy "Psubd_P_Q" .np 0xfa [.P, .Q] .packed64Int32,
   vex "VEX_Vpsubd_VX_HX_WX" .nds .v128 .p66 .any 0xfa [.VX, .HX, .WX] .packed128Int32,
   vex "VEX_Vpsubd_VY_HY_WY" .nds .v256 .p66 .any 0xfa [.VY, .HY, .WY] .packed256Int32,
   full "EVEX_Vpsubd_VX_k1z_HX_WX_b" .nds .v128 .p66 .clear 0xfa [.VX, .HX, .WX] .int32,
   full "EVEX_Vpsubd_VY_k1z_HY_WY_b" .nds .v256 .p66 .clear 0xfa [.VY, .HY, .WY] .int32,
   full "EVEX_Vpsubd_VZ_k1z_HZ_WZ_b" .nds .v512 .p66 .clear 0xfa [.VZ, .HZ, .WZ] .int32,
   legacy "Psubq_VX_WX" .p66 0xfb [.VX, .WX] .packed128Int64,
   legacy "Psubq_P_Q" .np 0xfb [.P, .Q] .int64,
   vex "VEX_Vpsubq_VX_HX_WX" .nds .v128 .p66 .any 0xfb [.VX, .HX, .WX] .packed128Int64,
   vex "VEX_Vpsubq_VY_HY_WY" .nds .v256 .p66 .any 0xfb [.VY, .HY, .WY] .packed256Int64,
   full "EVEX_Vpsubq_VX_k1z_HX_WX_b" .nds .v128 .p66 .set 0xfb [.VX, .HX, .WX] .int64,
   full "EVEX_Vpsubq_VY_k1z_HY_WY_b" .nds .v256 .p66 .set 0xfb [.VY, .HY, .WY] .int64,
   full "EVEX_Vpsubq_VZ_k1z_HZ_WZ_b" .nds .v512 .p66 .set 0xfb [.VZ, .HZ, .WZ] .int64,
   legacy "Paddb_VX_WX" .p66 0xfc [.VX, .WX] .packed128Int8,
   legacy "Paddb_P_Q" .np 0xfc [.P, .Q] .packed64Int8,
   vex "VEX_Vpaddb_VX_HX_WX" .nds .v128 .p66 .any 0xfc [.VX, .HX, .WX] .packed128Int8,
   vex "VEX_Vpaddb_VY_HY_WY" .nds .v256 .p66 .any 0xfc [.VY, .HY, .WY] .packed256Int8,
   fullMem "EVEX_Vpaddb_VX_k1z_HX_WX" .nds .v128 .p66 .any 0xfc [.VX, .HX, .WX] .int8,
   fullMem "EVEX_Vpaddb_VY_k1z_HY_WY" .nds .v256 .p66 .any 0xfc [.VY, .HY, .WY] .int8,
   fullMem "EVEX_Vpaddb_VZ_k1z_HZ_WZ" .nds .v512 .p66 .any 0xfc [.VZ, .HZ, .WZ] .int8,
   legacy "Paddw_VX_WX" .p66 0xfd [.VX, .WX] .packed128Int16,
   legacy "Paddw_P_Q" .np 0xfd [.P, .Q] .packed64Int16,
   vex "VEX_Vpaddw_VX_HX_WX" .nds .v128 .p66 .any 0xfd [.VX, .HX, .WX] .packed128Int16,
   vex "VEX_Vpaddw_VY_HY_WY" .nds .v256 .p66 .any 0xfd [.VY, .HY, .WY] .packed256Int16,
   fullMem "EVEX_Vpaddw_VX_k1z_HX_WX" .nds .v128 .p66 .any 0xfd [.VX, .HX, .WX] .int16,
   fullMem "EVEX_Vpaddw_VY_k1z_HY_WY" .nds .v256 .p66 .any 0xfd [.VY, .HY, .WY] .int16,
   fullMem "EVEX_Vpaddw_VZ_k1z_HZ_WZ" .nds .v512 .p66 .any 0xfd [.VZ, .HZ, .WZ] .int16,
   legacy "Paddd_VX_WX" .p66 0xfe [.VX, .WX] .packed128Int32,
   legacy "Paddd_P_Q" .np 0xfe [.P, .Q] .packed64Int32,
   vex "VEX_Vpaddd_VX_HX_WX" .nds .v128 .p66 .any 0xfe [.VX, .HX, .WX] .packed128Int32,
   vex "VEX_Vpaddd_VY_HY_WY" .nds .v256 .p66 .any 0xfe [.VY, .HY, .WY] .packed256Int32,
   full "EVEX_Vpaddd_VX_k1z_HX_WX_b" .nds .v128 .p66 .clear 0xfe [.VX, .HX, .WX] .int32,
   full "EVEX_Vpaddd_VY_k1z_HY_WY_b" .nds .v256 .p66 .clear 0xfe [.VY, .HY, .WY] .int32,
   full "EVEX_Vpaddd_VZ_k1z_HZ_WZ_b" .nds .v512 .p66 .clear 0xfe [.VZ, .HZ, .WZ] .int32,
   legacy "Ud0_Gq_Eq" .o64 0xff [.Gq, .Eq] .uint64 .only64,
   legacy "Ud0_Gw_Ew" .o16 0xff [.Gw, .Ew] .uint16,
   legacy "Ud0_Gd_Ed" .o32 0xff [.Gd, .Ed] .uint32]

end X86Decoder.Table
