import X86Decoder.Form.Entry
import X86Decoder.Form.Vocabulary

/-!
# Opcodes 30 to 3F of the 0F38 map
-/

namespace X86Decoder.Table

open Entry

/-- Opcodes 30 to 3F of the 0F38 map. -/
def map0F3830 : List Entry := rows .map0F38
  [legacy "Pmovzxbw_VX_WX" .p66 0x30 [.VX, .WX] .packed64UInt8,
   vex "VEX_Vpmovzxbw_VX_WX" .plain .v128 .p66 .any 0x30 [.VX, .WX] .packed64UInt8,
   vex "VEX_Vpmovzxbw_VY_WX" .plain .v256 .p66 .any 0x30 [.VY, .WX] .packed128UInt8,
   evex "EVEX_Vpmovzxbw_VX_k1z_WX" .plain .v128 .p66 .any 0x30 [.VX, .WX] .packed64UInt8
     .halfMem128 k1z,
   evex "EVEX_Vpmovzxbw_VY_k1z_WX" .plain .v256 .p66 .any 0x30 [.VY, .WX] .packed128UInt8
     .halfMem256 k1z,
   evex "EVEX_Vpmovzxbw_VZ_k1z_WY" .plain .v512 .p66 .any 0x30 [.VZ, .WY] .packed256UInt8
     .halfMem512 k1z,
   evex "EVEX_Vpmovwb_WX_k1z_VX" .plain .v128 .pF3 .clear 0x30 [.WX, .VX] .packed64Int8 .halfMem128
     k1z,
   evex "EVEX_Vpmovwb_WX_k1z_VY" .plain .v256 .pF3 .clear 0x30 [.WX, .VY] .packed128Int8
     .halfMem256 k1z,
   evex "EVEX_Vpmovwb_WY_k1z_VZ" .plain .v512 .pF3 .clear 0x30 [.WY, .VZ] .packed256Int8
     .halfMem512 k1z,
   legacy "Pmovzxbd_VX_WX" .p66 0x31 [.VX, .WX] .packed32UInt8,
   vex "VEX_Vpmovzxbd_VX_WX" .plain .v128 .p66 .any 0x31 [.VX, .WX] .packed32UInt8,
   vex "VEX_Vpmovzxbd_VY_WX" .plain .v256 .p66 .any 0x31 [.VY, .WX] .packed64UInt8,
   evex "EVEX_Vpmovzxbd_VX_k1z_WX" .plain .v128 .p66 .any 0x31 [.VX, .WX] .packed32UInt8
     .quarterMem128 k1z,
   evex "EVEX_Vpmovzxbd_VY_k1z_WX" .plain .v256 .p66 .any 0x31 [.VY, .WX] .packed64UInt8
     .quarterMem256 k1z,
   evex "EVEX_Vpmovzxbd_VZ_k1z_WX" .plain .v512 .p66 .any 0x31 [.VZ, .WX] .packed128UInt8
     .quarterMem512 k1z,
   evex "EVEX_Vpmovdb_WX_k1z_VX" .plain .v128 .pF3 .clear 0x31 [.WX, .VX] .packed32Int8
     .quarterMem128 k1z,
   evex "EVEX_Vpmovdb_WX_k1z_VY" .plain .v256 .pF3 .clear 0x31 [.WX, .VY] .packed64Int8
     .quarterMem256 k1z,
   evex "EVEX_Vpmovdb_WX_k1z_VZ" .plain .v512 .pF3 .clear 0x31 [.WX, .VZ] .packed128Int8
     .quarterMem512 k1z,
   legacy "Pmovzxbq_VX_WX" .p66 0x32 [.VX, .WX] .packed16UInt8,
   vex "VEX_Vpmovzxbq_VX_WX" .plain .v128 .p66 .any 0x32 [.VX, .WX] .packed16UInt8,
   vex "VEX_Vpmovzxbq_VY_WX" .plain .v256 .p66 .any 0x32 [.VY, .WX] .packed32UInt8,
   evex "EVEX_Vpmovzxbq_VX_k1z_WX" .plain .v128 .p66 .any 0x32 [.VX, .WX] .packed16UInt8
     .eighthMem128 k1z,
   evex "EVEX_Vpmovzxbq_VY_k1z_WX" .plain .v256 .p66 .any 0x32 [.VY, .WX] .packed32UInt8
     .eighthMem256 k1z,
   evex "EVEX_Vpmovzxbq_VZ_k1z_WX" .plain .v512 .p66 .any 0x32 [.VZ, .WX] .packed64UInt8
     .eighthMem512 k1z,
   evex "EVEX_Vpmovqb_WX_k1z_VX" .plain .v128 .pF3 .clear 0x32 [.WX, .VX] .packed16Int8
     .eighthMem128 k1z,
   evex "EVEX_Vpmovqb_WX_k1z_VY" .plain .v256 .pF3 .clear 0x32 [.WX, .VY] .packed32Int8
     .eighthMem256 k1z,
   evex "EVEX_Vpmovqb_WX_k1z_VZ" .plain .v512 .pF3 .clear 0x32 [.WX, .VZ] .packed64Int8
     .eighthMem512 k1z,
   legacy "Pmovzxwd_VX_WX" .p66 0x33 [.VX, .WX] .packed64UInt16,
   vex "VEX_Vpmovzxwd_VX_WX" .plain .v128 .p66 .any 0x33 [.VX, .WX] .packed64UInt16,
   vex "VEX_Vpmovzxwd_VY_WX" .plain .v256 .p66 .any 0x33 [.VY, .WX] .packed128UInt16,
   evex "EVEX_Vpmovzxwd_VX_k1z_WX" .plain .v128 .p66 .any 0x33 [.VX, .WX] .packed64UInt16
     .halfMem128 k1z,
   evex "EVEX_Vpmovzxwd_VY_k1z_WX" .plain .v256 .p66 .any 0x33 [.VY, .WX] .packed128UInt16
     .halfMem256 k1z,
   evex "EVEX_Vpmovzxwd_VZ_k1z_WY" .plain .v512 .p66 .any 0x33 [.VZ, .WY] .packed256UInt16
     .halfMem512 k1z,
   evex "EVEX_Vpmovdw_WX_k1z_VX" .plain .v128 .pF3 .clear 0x33 [.WX, .VX] .packed64Int16
     .halfMem128 k1z,
   evex "EVEX_Vpmovdw_WX_k1z_VY" .plain .v256 .pF3 .clear 0x33 [.WX, .VY] .packed128Int16
     .halfMem256 k1z,
   evex "EVEX_Vpmovdw_WY_k1z_VZ" .plain .v512 .pF3 .clear 0x33 [.WY, .VZ] .packed256Int16
     .halfMem512 k1z,
   legacy "Pmovzxwq_VX_WX" .p66 0x34 [.VX, .WX] .packed32UInt16,
   vex "VEX_Vpmovzxwq_VX_WX" .plain .v128 .p66 .any 0x34 [.VX, .WX] .packed32UInt16,
   vex "VEX_Vpmovzxwq_VY_WX" .plain .v256 .p66 .any 0x34 [.VY, .WX] .packed64UInt16,
   evex "EVEX_Vpmovzxwq_VX_k1z_WX" .plain .v128 .p66 .any 0x34 [.VX, .WX] .packed32UInt16
     .quarterMem128 k1z,
   evex "EVEX_Vpmovzxwq_VY_k1z_WX" .plain .v256 .p66 .any 0x34 [.VY, .WX] .packed64UInt16
     .quarterMem256 k1z,
   evex "EVEX_Vpmovzxwq_VZ_k1z_WX" .plain .v512 .p66 .any 0x34 [.VZ, .WX] .packed128UInt16
     .quarterMem512 k1z,
   evex "EVEX_Vpmovqw_WX_k1z_VX" .plain .v128 .pF3 .clear 0x34 [.WX, .VX] .packed32Int16
     .quarterMem128 k1z,
   evex "EVEX_Vpmovqw_WX_k1z_VY" .plain .v256 .pF3 .clear 0x34 [.WX, .VY] .packed64Int16
     .quarterMem256 k1z,
   evex "EVEX_Vpmovqw_WX_k1z_VZ" .plain .v512 .pF3 .clear 0x34 [.WX, .VZ] .packed128Int16
     .quarterMem512 k1z,
   legacy "Pmovzxdq_VX_WX" .p66 0x35 [.VX, .WX] .packed64UInt32,
   vex "VEX_Vpmovzxdq_VX_WX" .plain .v128 .p66 .any 0x35 [.VX, .WX] .packed64UInt32,
   vex "VEX_Vpmovzxdq_VY_WX" .plain .v256 .p66 .any 0x35 [.VY, .WX] .packed128UInt32,
   evex "EVEX_Vpmovzxdq_VX_k1z_WX" .plain .v128 .p66 .clear 0x35 [.VX, .WX] .packed64UInt32
     .halfMem128 k1z,
   evex "EVEX_Vpmovzxdq_VY_k1z_WX" .plain .v256 .p66 .clear 0x35 [.VY, .WX] .packed128UInt32
     .halfMem256 k1z,
   evex "EVEX_Vpmovzxdq_VZ_k1z_WY" .plain .v512 .p66 .clear 0x35 [.VZ, .WY] .packed256UInt32
     .halfMem512 k1z,
   evex "EVEX_Vpmovqd_WX_k1z_VX" .plain .v128 .pF3 .clear 0x35 [.WX, .VX] .packed64Int32
     .halfMem128 k1z,
   evex "EVEX_Vpmovqd_WX_k1z_VY" .plain .v256 .pF3 .clear 0x35 [.WX, .VY] .packed128Int32
     .halfMem256 k1z,
   evex "EVEX_Vpmovqd_WY_k1z_VZ" .plain .v512 .pF3 .clear 0x35 [.WY, .VZ] .packed256Int32
     .halfMem512 k1z,
   vex "VEX_Vpermd_VY_HY_WY" .nds .v256 .p66 .clear 0x36 [.VY, .HY, .WY] .packed256Int32,
   full "EVEX_Vpermd_VY_k1z_HY_WY_b" .nds .v256 .p66 .clear 0x36 [.VY, .HY, .WY] .int32,
   full "EVEX_Vpermd_VZ_k1z_HZ_WZ_b" .nds .v512 .p66 .clear 0x36 [.VZ, .HZ, .WZ] .int32,
   full "EVEX_Vpermq_VY_k1z_HY_WY_b" .nds .v256 .p66 .set 0x36 [.VY, .HY, .WY] .int64,
   full "EVEX_Vpermq_VZ_k1z_HZ_WZ_b" .nds .v512 .p66 .set 0x36 [.VZ, .HZ, .WZ] .int64,
   legacy "Pcmpgtq_VX_WX" .p66 0x37 [.VX, .WX] .packed128Int64,
   vex "VEX_Vpcmpgtq_VX_HX_WX" .nds .v128 .p66 .any 0x37 [.VX, .HX, .WX] .packed128Int64,
   vex "VEX_Vpcmpgtq_VY_HY_WY" .nds .v256 .p66 .any 0x37 [.VY, .HY, .WY] .packed256Int64,
   full "EVEX_Vpcmpgtq_VK_k1_HX_WX_b" .nds .v128 .p66 .set 0x37 [.VK, .HX, .WX] .int64 k1b,
   full "EVEX_Vpcmpgtq_VK_k1_HY_WY_b" .nds .v256 .p66 .set 0x37 [.VK, .HY, .WY] .int64 k1b,
   full "EVEX_Vpcmpgtq_VK_k1_HZ_WZ_b" .nds .v512 .p66 .set 0x37 [.VK, .HZ, .WZ] .int64 k1b,
   legacy "Pminsb_VX_WX" .p66 0x38 [.VX, .WX] .packed128Int8,
   vex "VEX_Vpminsb_VX_HX_WX" .nds .v128 .p66 .any 0x38 [.VX, .HX, .WX] .packed128Int8,
   vex "VEX_Vpminsb_VY_HY_WY" .nds .v256 .p66 .any 0x38 [.VY, .HY, .WY] .packed256Int8,
   fullMem "EVEX_Vpminsb_VX_k1z_HX_WX" .nds .v128 .p66 .any 0x38 [.VX, .HX, .WX] .int8,
   fullMem "EVEX_Vpminsb_VY_k1z_HY_WY" .nds .v256 .p66 .any 0x38 [.VY, .HY, .WY] .int8,
   fullMem "EVEX_Vpminsb_VZ_k1z_HZ_WZ" .nds .v512 .p66 .any 0x38 [.VZ, .HZ, .WZ] .int8,
   evex "EVEX_Vpmovm2d_VX_RK" .plain .v128 .pF3 .clear 0x38 [.VX, .RK] .unknown .plain reg,
   evex "EVEX_Vpmovm2d_VY_RK" .plain .v256 .pF3 .clear 0x38 [.VY, .RK] .unknown .plain reg,
   evex "EVEX_Vpmovm2d_VZ_RK" .plain .v512 .pF3 .clear 0x38 [.VZ, .RK] .unknown .plain reg,
   evex "EVEX_Vpmovm2q_VX_RK" .plain .v128 .pF3 .set 0x38 [.VX, .RK] .unknown .plain reg,
   evex "EVEX_Vpmovm2q_VY_RK" .plain .v256 .pF3 .set 0x38 [.VY, .RK] .unknown .plain reg,
   evex "EVEX_Vpmovm2q_VZ_RK" .plain .v512 .pF3 .set 0x38 [.VZ, .RK] .unknown .plain reg,
   legacy "Pminsd_VX_WX" .p66 0x39 [.VX, .WX] .packed128Int32,
   vex "VEX_Vpminsd_VX_HX_WX" .nds .v128 .p66 .any 0x39 [.VX, .HX, .WX] .packed128Int32,
   vex "VEX_Vpminsd_VY_HY_WY" .nds .v256 .p66 .any 0x39 [.VY, .HY, .WY] .packed256Int32,
   full "EVEX_Vpminsd_VX_k1z_HX_WX_b" .nds .v128 .p66 .clear 0x39 [.VX, .HX, .WX] .int32,
   full "EVEX_Vpminsd_VY_k1z_HY_WY_b" .nds .v256 .p66 .clear 0x39 [.VY, .HY, .WY] .int32,
   full "EVEX_Vpminsd_VZ_k1z_HZ_WZ_b" .nds .v512 .p66 .clear 0x39 [.VZ, .HZ, .WZ] .int32,
   full "EVEX_Vpminsq_VX_k1z_HX_WX_b" .nds .v128 .p66 .set 0x39 [.VX, .HX, .WX] .int64,
   full "EVEX_Vpminsq_VY_k1z_HY_WY_b" .nds .v256 .p66 .set 0x39 [.VY, .HY, .WY] .int64,
   full "EVEX_Vpminsq_VZ_k1z_HZ_WZ_b" .nds .v512 .p66 .set 0x39 [.VZ, .HZ, .WZ] .int64,
   evex "EVEX_Vpmovd2m_VK_RX" .plain .v128 .pF3 .clear 0x39 [.VK, .RX] .unknown .plain reg,
   evex "EVEX_Vpmovd2m_VK_RY" .plain .v256 .pF3 .clear 0x39 [.VK, .RY] .unknown .plain reg,
   evex "EVEX_Vpmovd2m_VK_RZ" .plain .v512 .pF3 .clear 0x39 [.VK, .RZ] .unknown .plain reg,
   evex "EVEX_Vpmovq2m_VK_RX" .plain .v128 .pF3 .set 0x39 [.VK, .RX] .unknown .plain reg,
   evex "EVEX_Vpmovq2m_VK_RY" .plain .v256 .pF3 .set 0x39 [.VK, .RY] .unknown .plain reg,
   evex "EVEX_Vpmovq2m_VK_RZ" .plain .v512 .pF3 .set 0x39 [.VK, .RZ] .unknown .plain reg,
   legacy "Pminuw_VX_WX" .p66 0x3a [.VX, .WX] .packed128UInt16,
   vex "VEX_Vpminuw_VX_HX_WX" .nds .v128 .p66 .any 0x3a [.VX, .HX, .WX] .packed128UInt16,
   vex "VEX_Vpminuw_VY_HY_WY" .nds .v256 .p66 .any 0x3a [.VY, .HY, .WY] .packed256UInt16,
   fullMem "EVEX_Vpminuw_VX_k1z_HX_WX" .nds .v128 .p66 .any 0x3a [.VX, .HX, .WX] .uint16,
   fullMem "EVEX_Vpminuw_VY_k1z_HY_WY" .nds .v256 .p66 .any 0x3a [.VY, .HY, .WY] .uint16,
   fullMem "EVEX_Vpminuw_VZ_k1z_HZ_WZ" .nds .v512 .p66 .any 0x3a [.VZ, .HZ, .WZ] .uint16,
   evex "EVEX_Vpbroadcastmw2d_VX_RK" .plain .v128 .pF3 .clear 0x3a [.VX, .RK] .unknown .plain reg,
   evex "EVEX_Vpbroadcastmw2d_VY_RK" .plain .v256 .pF3 .clear 0x3a [.VY, .RK] .unknown .plain reg,
   evex "EVEX_Vpbroadcastmw2d_VZ_RK" .plain .v512 .pF3 .clear 0x3a [.VZ, .RK] .unknown .plain reg,
   legacy "Pminud_VX_WX" .p66 0x3b [.VX, .WX] .packed128UInt32,
   vex "VEX_Vpminud_VX_HX_WX" .nds .v128 .p66 .any 0x3b [.VX, .HX, .WX] .packed128UInt32,
   vex "VEX_Vpminud_VY_HY_WY" .nds .v256 .p66 .any 0x3b [.VY, .HY, .WY] .packed256UInt32,
   full "EVEX_Vpminud_VX_k1z_HX_WX_b" .nds .v128 .p66 .clear 0x3b [.VX, .HX, .WX] .uint32,
   full "EVEX_Vpminud_VY_k1z_HY_WY_b" .nds .v256 .p66 .clear 0x3b [.VY, .HY, .WY] .uint32,
   full "EVEX_Vpminud_VZ_k1z_HZ_WZ_b" .nds .v512 .p66 .clear 0x3b [.VZ, .HZ, .WZ] .uint32,
   full "EVEX_Vpminuq_VX_k1z_HX_WX_b" .nds .v128 .p66 .set 0x3b [.VX, .HX, .WX] .uint64,
   full "EVEX_Vpminuq_VY_k1z_HY_WY_b" .nds .v256 .p66 .set 0x3b [.VY, .HY, .WY] .uint64,
   full "EVEX_Vpminuq_VZ_k1z_HZ_WZ_b" .nds .v512 .p66 .set 0x3b [.VZ, .HZ, .WZ] .uint64,
   legacy "Pmaxsb_VX_WX" .p66 0x3c [.VX, .WX] .packed128Int8,
   vex "VEX_Vpmaxsb_VX_HX_WX" .nds .v128 .p66 .any 0x3c [.VX, .HX, .WX] .packed128Int8,
   vex "VEX_Vpmaxsb_VY_HY_WY" .nds .v256 .p66 .any 0x3c [.VY, .HY, .WY] .packed256Int8,
   fullMem "EVEX_Vpmaxsb_VX_k1z_HX_WX" .nds .v128 .p66 .any 0x3c [.VX, .HX, .WX] .int8,
   fullMem "EVEX_Vpmaxsb_VY_k1z_HY_WY" .nds .v256 .p66 .any 0x3c [.VY, .HY, .WY] .int8,
   fullMem "EVEX_Vpmaxsb_VZ_k1z_HZ_WZ" .nds .v512 .p66 .any 0x3c [.VZ, .HZ, .WZ] .int8,
   legacy "Pmaxsd_VX_WX" .p66 0x3d [.VX, .WX] .packed128Int32,
   vex "VEX_Vpmaxsd_VX_HX_WX" .nds .v128 .p66 .any 0x3d [.VX, .HX, .WX] .packed128Int32,
   vex "VEX_Vpmaxsd_VY_HY_WY" .nds .v256 .p66 .any 0x3d [.VY, .HY, .WY] .packed256Int32,
   full "EVEX_Vpmaxsd_VX_k1z_HX_WX_b" .nds .v128 .p66 .clear 0x3d [.VX, .HX, .WX] .int32,
   full "EVEX_Vpmaxsd_VY_k1z_HY_WY_b" .nds .v256 .p66 .clear 0x3d [.VY, .HY, .WY] .int32,
   full "EVEX_Vpmaxsd_VZ_k1z_HZ_WZ_b" .nds .v512 .p66 .clear 0x3d [.VZ, .HZ, .WZ] .int32,
   full "EVEX_Vpmaxsq_VX_k1z_HX_WX_b" .nds .v128 .p66 .set 0x3d [.VX, .HX, .WX] .int64,
   full "EVEX_Vpmaxsq_VY_k1z_HY_WY_b" .nds .v256 .p66 .set 0x3d [.VY, .HY, .WY] .int64,
   full "EVEX_Vpmaxsq_VZ_k1z_HZ_WZ_b" .nds .v512 .p66 .set 0x3d [.VZ, .HZ, .WZ] .int64,
   legacy "Pmaxuw_VX_WX" .p66 0x3e [.VX, .WX] .packed128UInt16,
   vex "VEX_Vpmaxuw_VX_HX_WX" .nds .v128 .p66 .any 0x3e [.VX, .HX, .WX] .packed128UInt16,
   vex "VEX_Vpmaxuw_VY_HY_WY" .nds .v256 .p66 .any 0x3e [.VY, .HY, .WY] .packed256UInt16,
   fullMem "EVEX_Vpmaxuw_VX_k1z_HX_WX" .nds .v128 .p66 .any 0x3e [.VX, .HX, .WX] .uint16,
   fullMem "EVEX_Vpmaxuw_VY_k1z_HY_WY" .nds .v256 .p66 .any 0x3e [.VY, .HY, .WY] .uint16,
   fullMem "EVEX_Vpmaxuw_VZ_k1z_HZ_WZ" .nds .v512 .p66 .any 0x3e [.VZ, .HZ, .WZ] .uint16,
   legacy "Pmaxud_VX_WX" .p66 0x3f [.VX, .WX] .packed128UInt32,
   vex "VEX_Vpmaxud_VX_HX_WX" .nds .v128 .p66 .any 0x3f [.VX, .HX, .WX] .packed128UInt32,
   vex "VEX_Vpmaxud_VY_HY_WY" .nds .v256 .p66 .any 0x3f [.VY, .HY, .WY] .packed256UInt32,
   full "EVEX_Vpmaxud_VX_k1z_HX_WX_b" .nds .v128 .p66 .clear 0x3f [.VX, .HX, .WX] .uint32,
   full "EVEX_Vpmaxud_VY_k1z_HY_WY_b" .nds .v256 .p66 .clear 0x3f [.VY, .HY, .WY] .uint32,
   full "EVEX_Vpmaxud_VZ_k1z_HZ_WZ_b" .nds .v512 .p66 .clear 0x3f [.VZ, .HZ, .WZ] .uint32,
   full "EVEX_Vpmaxuq_VX_k1z_HX_WX_b" .nds .v128 .p66 .set 0x3f [.VX, .HX, .WX] .uint64,
   full "EVEX_Vpmaxuq_VY_k1z_HY_WY_b" .nds .v256 .p66 .set 0x3f [.VY, .HY, .WY] .uint64,
   full "EVEX_Vpmaxuq_VZ_k1z_HZ_WZ_b" .nds .v512 .p66 .set 0x3f [.VZ, .HZ, .WZ] .uint64]

end X86Decoder.Table
