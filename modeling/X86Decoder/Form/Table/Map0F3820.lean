import X86Decoder.Form.Entry
import X86Decoder.Form.Vocabulary

/-!
# Opcodes 20 to 2F of the 0F38 map
-/

namespace X86Decoder.Table

open Entry

/-- Opcodes 20 to 2F of the 0F38 map. -/
def map0F3820 : List Entry := rows .map0F38
  [legacy "Pmovsxbw_VX_WX" .p66 0x20 [.VX, .WX] .packed64Int8,
   vex "VEX_Vpmovsxbw_VX_WX" .plain .v128 .p66 .any 0x20 [.VX, .WX] .packed64Int8,
   vex "VEX_Vpmovsxbw_VY_WX" .plain .v256 .p66 .any 0x20 [.VY, .WX] .packed128Int8,
   evex "EVEX_Vpmovsxbw_VX_k1z_WX" .plain .v128 .p66 .any 0x20 [.VX, .WX] .packed64Int8 .halfMem128
     k1z,
   evex "EVEX_Vpmovsxbw_VY_k1z_WX" .plain .v256 .p66 .any 0x20 [.VY, .WX] .packed128Int8
     .halfMem256 k1z,
   evex "EVEX_Vpmovsxbw_VZ_k1z_WY" .plain .v512 .p66 .any 0x20 [.VZ, .WY] .packed256Int8
     .halfMem512 k1z,
   evex "EVEX_Vpmovswb_WX_k1z_VX" .plain .v128 .pF3 .clear 0x20 [.WX, .VX] .packed64Int8
     .halfMem128 k1z,
   evex "EVEX_Vpmovswb_WX_k1z_VY" .plain .v256 .pF3 .clear 0x20 [.WX, .VY] .packed128Int8
     .halfMem256 k1z,
   evex "EVEX_Vpmovswb_WY_k1z_VZ" .plain .v512 .pF3 .clear 0x20 [.WY, .VZ] .packed256Int8
     .halfMem512 k1z,
   legacy "Pmovsxbd_VX_WX" .p66 0x21 [.VX, .WX] .packed32Int8,
   vex "VEX_Vpmovsxbd_VX_WX" .plain .v128 .p66 .any 0x21 [.VX, .WX] .packed32Int8,
   vex "VEX_Vpmovsxbd_VY_WX" .plain .v256 .p66 .any 0x21 [.VY, .WX] .packed64Int8,
   evex "EVEX_Vpmovsxbd_VX_k1z_WX" .plain .v128 .p66 .any 0x21 [.VX, .WX] .packed32Int8
     .quarterMem128 k1z,
   evex "EVEX_Vpmovsxbd_VY_k1z_WX" .plain .v256 .p66 .any 0x21 [.VY, .WX] .packed64Int8
     .quarterMem256 k1z,
   evex "EVEX_Vpmovsxbd_VZ_k1z_WX" .plain .v512 .p66 .any 0x21 [.VZ, .WX] .packed128Int8
     .quarterMem512 k1z,
   evex "EVEX_Vpmovsdb_WX_k1z_VX" .plain .v128 .pF3 .clear 0x21 [.WX, .VX] .packed32Int8
     .quarterMem128 k1z,
   evex "EVEX_Vpmovsdb_WX_k1z_VY" .plain .v256 .pF3 .clear 0x21 [.WX, .VY] .packed64Int8
     .quarterMem256 k1z,
   evex "EVEX_Vpmovsdb_WX_k1z_VZ" .plain .v512 .pF3 .clear 0x21 [.WX, .VZ] .packed128Int8
     .quarterMem512 k1z,
   legacy "Pmovsxbq_VX_WX" .p66 0x22 [.VX, .WX] .packed16Int8,
   vex "VEX_Vpmovsxbq_VX_WX" .plain .v128 .p66 .any 0x22 [.VX, .WX] .packed16Int8,
   vex "VEX_Vpmovsxbq_VY_WX" .plain .v256 .p66 .any 0x22 [.VY, .WX] .packed32Int8,
   evex "EVEX_Vpmovsxbq_VX_k1z_WX" .plain .v128 .p66 .any 0x22 [.VX, .WX] .packed16Int8
     .eighthMem128 k1z,
   evex "EVEX_Vpmovsxbq_VY_k1z_WX" .plain .v256 .p66 .any 0x22 [.VY, .WX] .packed32Int8
     .eighthMem256 k1z,
   evex "EVEX_Vpmovsxbq_VZ_k1z_WX" .plain .v512 .p66 .any 0x22 [.VZ, .WX] .packed64Int8
     .eighthMem512 k1z,
   evex "EVEX_Vpmovsqb_WX_k1z_VX" .plain .v128 .pF3 .clear 0x22 [.WX, .VX] .packed16Int8
     .eighthMem128 k1z,
   evex "EVEX_Vpmovsqb_WX_k1z_VY" .plain .v256 .pF3 .clear 0x22 [.WX, .VY] .packed32Int8
     .eighthMem256 k1z,
   evex "EVEX_Vpmovsqb_WX_k1z_VZ" .plain .v512 .pF3 .clear 0x22 [.WX, .VZ] .packed64Int8
     .eighthMem512 k1z,
   legacy "Pmovsxwd_VX_WX" .p66 0x23 [.VX, .WX] .packed64Int16,
   vex "VEX_Vpmovsxwd_VX_WX" .plain .v128 .p66 .any 0x23 [.VX, .WX] .packed64Int16,
   vex "VEX_Vpmovsxwd_VY_WX" .plain .v256 .p66 .any 0x23 [.VY, .WX] .packed128Int16,
   evex "EVEX_Vpmovsxwd_VX_k1z_WX" .plain .v128 .p66 .any 0x23 [.VX, .WX] .packed64Int16
     .halfMem128 k1z,
   evex "EVEX_Vpmovsxwd_VY_k1z_WX" .plain .v256 .p66 .any 0x23 [.VY, .WX] .packed128Int16
     .halfMem256 k1z,
   evex "EVEX_Vpmovsxwd_VZ_k1z_WY" .plain .v512 .p66 .any 0x23 [.VZ, .WY] .packed256Int16
     .halfMem512 k1z,
   evex "EVEX_Vpmovsdw_WX_k1z_VX" .plain .v128 .pF3 .clear 0x23 [.WX, .VX] .packed64Int16
     .halfMem128 k1z,
   evex "EVEX_Vpmovsdw_WX_k1z_VY" .plain .v256 .pF3 .clear 0x23 [.WX, .VY] .packed128Int16
     .halfMem256 k1z,
   evex "EVEX_Vpmovsdw_WY_k1z_VZ" .plain .v512 .pF3 .clear 0x23 [.WY, .VZ] .packed256Int16
     .halfMem512 k1z,
   legacy "Pmovsxwq_VX_WX" .p66 0x24 [.VX, .WX] .packed32Int16,
   vex "VEX_Vpmovsxwq_VX_WX" .plain .v128 .p66 .any 0x24 [.VX, .WX] .packed32Int16,
   vex "VEX_Vpmovsxwq_VY_WX" .plain .v256 .p66 .any 0x24 [.VY, .WX] .packed64Int16,
   evex "EVEX_Vpmovsxwq_VX_k1z_WX" .plain .v128 .p66 .any 0x24 [.VX, .WX] .packed32Int16
     .quarterMem128 k1z,
   evex "EVEX_Vpmovsxwq_VY_k1z_WX" .plain .v256 .p66 .any 0x24 [.VY, .WX] .packed64Int16
     .quarterMem256 k1z,
   evex "EVEX_Vpmovsxwq_VZ_k1z_WX" .plain .v512 .p66 .any 0x24 [.VZ, .WX] .packed128Int16
     .quarterMem512 k1z,
   evex "EVEX_Vpmovsqw_WX_k1z_VX" .plain .v128 .pF3 .clear 0x24 [.WX, .VX] .packed32Int16
     .quarterMem128 k1z,
   evex "EVEX_Vpmovsqw_WX_k1z_VY" .plain .v256 .pF3 .clear 0x24 [.WX, .VY] .packed64Int16
     .quarterMem256 k1z,
   evex "EVEX_Vpmovsqw_WX_k1z_VZ" .plain .v512 .pF3 .clear 0x24 [.WX, .VZ] .packed128Int16
     .quarterMem512 k1z,
   legacy "Pmovsxdq_VX_WX" .p66 0x25 [.VX, .WX] .packed64Int32,
   vex "VEX_Vpmovsxdq_VX_WX" .plain .v128 .p66 .any 0x25 [.VX, .WX] .packed64Int32,
   vex "VEX_Vpmovsxdq_VY_WX" .plain .v256 .p66 .any 0x25 [.VY, .WX] .packed128Int32,
   evex "EVEX_Vpmovsxdq_VX_k1z_WX" .plain .v128 .p66 .clear 0x25 [.VX, .WX] .packed64Int32
     .halfMem128 k1z,
   evex "EVEX_Vpmovsxdq_VY_k1z_WX" .plain .v256 .p66 .clear 0x25 [.VY, .WX] .packed128Int32
     .halfMem256 k1z,
   evex "EVEX_Vpmovsxdq_VZ_k1z_WY" .plain .v512 .p66 .clear 0x25 [.VZ, .WY] .packed256Int32
     .halfMem512 k1z,
   evex "EVEX_Vpmovsqd_WX_k1z_VX" .plain .v128 .pF3 .clear 0x25 [.WX, .VX] .packed64Int32
     .halfMem128 k1z,
   evex "EVEX_Vpmovsqd_WX_k1z_VY" .plain .v256 .pF3 .clear 0x25 [.WX, .VY] .packed128Int32
     .halfMem256 k1z,
   evex "EVEX_Vpmovsqd_WY_k1z_VZ" .plain .v512 .pF3 .clear 0x25 [.WY, .VZ] .packed256Int32
     .halfMem512 k1z,
   fullMem "EVEX_Vptestmb_VK_k1_HX_WX" .nds .v128 .p66 .clear 0x26 [.VK, .HX, .WX] .uint8 k1,
   fullMem "EVEX_Vptestmb_VK_k1_HY_WY" .nds .v256 .p66 .clear 0x26 [.VK, .HY, .WY] .uint8 k1,
   fullMem "EVEX_Vptestmb_VK_k1_HZ_WZ" .nds .v512 .p66 .clear 0x26 [.VK, .HZ, .WZ] .uint8 k1,
   fullMem "EVEX_Vptestmw_VK_k1_HX_WX" .nds .v128 .p66 .set 0x26 [.VK, .HX, .WX] .uint16 k1,
   fullMem "EVEX_Vptestmw_VK_k1_HY_WY" .nds .v256 .p66 .set 0x26 [.VK, .HY, .WY] .uint16 k1,
   fullMem "EVEX_Vptestmw_VK_k1_HZ_WZ" .nds .v512 .p66 .set 0x26 [.VK, .HZ, .WZ] .uint16 k1,
   fullMem "EVEX_Vptestnmb_VK_k1_HX_WX" .nds .v128 .pF3 .clear 0x26 [.VK, .HX, .WX] .uint8 k1,
   fullMem "EVEX_Vptestnmb_VK_k1_HY_WY" .nds .v256 .pF3 .clear 0x26 [.VK, .HY, .WY] .uint8 k1,
   fullMem "EVEX_Vptestnmb_VK_k1_HZ_WZ" .nds .v512 .pF3 .clear 0x26 [.VK, .HZ, .WZ] .uint8 k1,
   fullMem "EVEX_Vptestnmw_VK_k1_HX_WX" .nds .v128 .pF3 .set 0x26 [.VK, .HX, .WX] .uint16 k1,
   fullMem "EVEX_Vptestnmw_VK_k1_HY_WY" .nds .v256 .pF3 .set 0x26 [.VK, .HY, .WY] .uint16 k1,
   fullMem "EVEX_Vptestnmw_VK_k1_HZ_WZ" .nds .v512 .pF3 .set 0x26 [.VK, .HZ, .WZ] .uint16 k1,
   full "EVEX_Vptestmd_VK_k1_HX_WX_b" .nds .v128 .p66 .clear 0x27 [.VK, .HX, .WX] .uint32 k1b,
   full "EVEX_Vptestmd_VK_k1_HY_WY_b" .nds .v256 .p66 .clear 0x27 [.VK, .HY, .WY] .uint32 k1b,
   full "EVEX_Vptestmd_VK_k1_HZ_WZ_b" .nds .v512 .p66 .clear 0x27 [.VK, .HZ, .WZ] .uint32 k1b,
   full "EVEX_Vptestmq_VK_k1_HX_WX_b" .nds .v128 .p66 .set 0x27 [.VK, .HX, .WX] .uint64 k1b,
   full "EVEX_Vptestmq_VK_k1_HY_WY_b" .nds .v256 .p66 .set 0x27 [.VK, .HY, .WY] .uint64 k1b,
   full "EVEX_Vptestmq_VK_k1_HZ_WZ_b" .nds .v512 .p66 .set 0x27 [.VK, .HZ, .WZ] .uint64 k1b,
   full "EVEX_Vptestnmd_VK_k1_HX_WX_b" .nds .v128 .pF3 .clear 0x27 [.VK, .HX, .WX] .uint32 k1b,
   full "EVEX_Vptestnmd_VK_k1_HY_WY_b" .nds .v256 .pF3 .clear 0x27 [.VK, .HY, .WY] .uint32 k1b,
   full "EVEX_Vptestnmd_VK_k1_HZ_WZ_b" .nds .v512 .pF3 .clear 0x27 [.VK, .HZ, .WZ] .uint32 k1b,
   full "EVEX_Vptestnmq_VK_k1_HX_WX_b" .nds .v128 .pF3 .set 0x27 [.VK, .HX, .WX] .uint64 k1b,
   full "EVEX_Vptestnmq_VK_k1_HY_WY_b" .nds .v256 .pF3 .set 0x27 [.VK, .HY, .WY] .uint64 k1b,
   full "EVEX_Vptestnmq_VK_k1_HZ_WZ_b" .nds .v512 .pF3 .set 0x27 [.VK, .HZ, .WZ] .uint64 k1b,
   legacy "Pmuldq_VX_WX" .p66 0x28 [.VX, .WX] .packed128Int32,
   vex "VEX_Vpmuldq_VX_HX_WX" .nds .v128 .p66 .any 0x28 [.VX, .HX, .WX] .packed128Int32,
   vex "VEX_Vpmuldq_VY_HY_WY" .nds .v256 .p66 .any 0x28 [.VY, .HY, .WY] .packed256Int32,
   evex "EVEX_Vpmuldq_VX_k1z_HX_WX_b" .nds .v128 .p66 .set 0x28 [.VX, .HX, .WX] .packed128Int32
     .full128 k1zb .broadcast128Int64,
   evex "EVEX_Vpmuldq_VY_k1z_HY_WY_b" .nds .v256 .p66 .set 0x28 [.VY, .HY, .WY] .packed256Int32
     .full256 k1zb .broadcast256Int64,
   evex "EVEX_Vpmuldq_VZ_k1z_HZ_WZ_b" .nds .v512 .p66 .set 0x28 [.VZ, .HZ, .WZ] .packed512Int32
     .full512 k1zb .broadcast512Int64,
   evex "EVEX_Vpmovm2b_VX_RK" .plain .v128 .pF3 .clear 0x28 [.VX, .RK] .unknown .plain reg,
   evex "EVEX_Vpmovm2b_VY_RK" .plain .v256 .pF3 .clear 0x28 [.VY, .RK] .unknown .plain reg,
   evex "EVEX_Vpmovm2b_VZ_RK" .plain .v512 .pF3 .clear 0x28 [.VZ, .RK] .unknown .plain reg,
   evex "EVEX_Vpmovm2w_VX_RK" .plain .v128 .pF3 .set 0x28 [.VX, .RK] .unknown .plain reg,
   evex "EVEX_Vpmovm2w_VY_RK" .plain .v256 .pF3 .set 0x28 [.VY, .RK] .unknown .plain reg,
   evex "EVEX_Vpmovm2w_VZ_RK" .plain .v512 .pF3 .set 0x28 [.VZ, .RK] .unknown .plain reg,
   legacy "Pcmpeqq_VX_WX" .p66 0x29 [.VX, .WX] .packed128Int64,
   vex "VEX_Vpcmpeqq_VX_HX_WX" .nds .v128 .p66 .any 0x29 [.VX, .HX, .WX] .packed128Int64,
   vex "VEX_Vpcmpeqq_VY_HY_WY" .nds .v256 .p66 .any 0x29 [.VY, .HY, .WY] .packed256Int64,
   full "EVEX_Vpcmpeqq_VK_k1_HX_WX_b" .nds .v128 .p66 .set 0x29 [.VK, .HX, .WX] .int64 k1b,
   full "EVEX_Vpcmpeqq_VK_k1_HY_WY_b" .nds .v256 .p66 .set 0x29 [.VK, .HY, .WY] .int64 k1b,
   full "EVEX_Vpcmpeqq_VK_k1_HZ_WZ_b" .nds .v512 .p66 .set 0x29 [.VK, .HZ, .WZ] .int64 k1b,
   evex "EVEX_Vpmovb2m_VK_RX" .plain .v128 .pF3 .clear 0x29 [.VK, .RX] .unknown .plain reg,
   evex "EVEX_Vpmovb2m_VK_RY" .plain .v256 .pF3 .clear 0x29 [.VK, .RY] .unknown .plain reg,
   evex "EVEX_Vpmovb2m_VK_RZ" .plain .v512 .pF3 .clear 0x29 [.VK, .RZ] .unknown .plain reg,
   evex "EVEX_Vpmovw2m_VK_RX" .plain .v128 .pF3 .set 0x29 [.VK, .RX] .unknown .plain reg,
   evex "EVEX_Vpmovw2m_VK_RY" .plain .v256 .pF3 .set 0x29 [.VK, .RY] .unknown .plain reg,
   evex "EVEX_Vpmovw2m_VK_RZ" .plain .v512 .pF3 .set 0x29 [.VK, .RZ] .unknown .plain reg,
   legacy "Movntdqa_VX_M" .p66 0x2a [.VX, .M] .uint128 .all mem,
   vex "VEX_Vmovntdqa_VX_M" .plain .v128 .p66 .any 0x2a [.VX, .M] .uint128 .all mem,
   vex "VEX_Vmovntdqa_VY_M" .plain .v256 .p66 .any 0x2a [.VY, .M] .uint256 .all mem,
   evex "EVEX_Vmovntdqa_VX_M" .plain .v128 .p66 .clear 0x2a [.VX, .M] .uint128 .fullMem128 mem,
   evex "EVEX_Vmovntdqa_VY_M" .plain .v256 .p66 .clear 0x2a [.VY, .M] .uint256 .fullMem256 mem,
   evex "EVEX_Vmovntdqa_VZ_M" .plain .v512 .p66 .clear 0x2a [.VZ, .M] .uint512 .fullMem512 mem,
   evex "EVEX_Vpbroadcastmb2q_VX_RK" .plain .v128 .pF3 .set 0x2a [.VX, .RK] .unknown .plain reg,
   evex "EVEX_Vpbroadcastmb2q_VY_RK" .plain .v256 .pF3 .set 0x2a [.VY, .RK] .unknown .plain reg,
   evex "EVEX_Vpbroadcastmb2q_VZ_RK" .plain .v512 .pF3 .set 0x2a [.VZ, .RK] .unknown .plain reg,
   legacy "Packusdw_VX_WX" .p66 0x2b [.VX, .WX] .packed128Int32,
   vex "VEX_Vpackusdw_VX_HX_WX" .nds .v128 .p66 .any 0x2b [.VX, .HX, .WX] .packed128Int32,
   vex "VEX_Vpackusdw_VY_HY_WY" .nds .v256 .p66 .any 0x2b [.VY, .HY, .WY] .packed256Int32,
   full "EVEX_Vpackusdw_VX_k1z_HX_WX_b" .nds .v128 .p66 .clear 0x2b [.VX, .HX, .WX] .int32,
   full "EVEX_Vpackusdw_VY_k1z_HY_WY_b" .nds .v256 .p66 .clear 0x2b [.VY, .HY, .WY] .int32,
   full "EVEX_Vpackusdw_VZ_k1z_HZ_WZ_b" .nds .v512 .p66 .clear 0x2b [.VZ, .HZ, .WZ] .int32,
   vex "VEX_Vmaskmovps_VX_HX_M" .nds .v128 .p66 .clear 0x2c [.VX, .HX, .M] .packed128Float32 .all
     mem,
   vex "VEX_Vmaskmovps_VY_HY_M" .nds .v256 .p66 .clear 0x2c [.VY, .HY, .M] .packed256Float32 .all
     mem,
   full "EVEX_Vscalefps_VX_k1z_HX_WX_b" .nds .v128 .p66 .clear 0x2c [.VX, .HX, .WX] .float32,
   full "EVEX_Vscalefps_VY_k1z_HY_WY_b" .nds .v256 .p66 .clear 0x2c [.VY, .HY, .WY] .float32,
   full "EVEX_Vscalefps_VZ_k1z_HZ_WZ_er_b" .nds .v512 .p66 .clear 0x2c [.VZ, .HZ, .WZ] .float32
     k1zbEr,
   full "EVEX_Vscalefpd_VX_k1z_HX_WX_b" .nds .v128 .p66 .set 0x2c [.VX, .HX, .WX] .float64,
   full "EVEX_Vscalefpd_VY_k1z_HY_WY_b" .nds .v256 .p66 .set 0x2c [.VY, .HY, .WY] .float64,
   full "EVEX_Vscalefpd_VZ_k1z_HZ_WZ_er_b" .nds .v512 .p66 .set 0x2c [.VZ, .HZ, .WZ] .float64
     k1zbEr,
   vex "VEX_Vmaskmovpd_VX_HX_M" .nds .v128 .p66 .clear 0x2d [.VX, .HX, .M] .packed128Float64 .all
     mem,
   vex "VEX_Vmaskmovpd_VY_HY_M" .nds .v256 .p66 .clear 0x2d [.VY, .HY, .M] .packed256Float64 .all
     mem,
   evex "EVEX_Vscalefss_VX_k1z_HX_WX_er" .nds .lig .p66 .clear 0x2d [.VX, .HX, .WX] .float32
     .oneScalar k1zEr,
   evex "EVEX_Vscalefsd_VX_k1z_HX_WX_er" .nds .lig .p66 .set 0x2d [.VX, .HX, .WX] .float64
     .oneScalar k1zEr,
   vex "VEX_Vmaskmovps_M_HX_VX" .nds .v128 .p66 .clear 0x2e [.M, .HX, .VX] .packed128Float32 .all
     mem,
   vex "VEX_Vmaskmovps_M_HY_VY" .nds .v256 .p66 .clear 0x2e [.M, .HY, .VY] .packed256Float32 .all
     mem,
   vex "VEX_Vmaskmovpd_M_HX_VX" .nds .v128 .p66 .clear 0x2f [.M, .HX, .VX] .packed128Float64 .all
     mem,
   vex "VEX_Vmaskmovpd_M_HY_VY" .nds .v256 .p66 .clear 0x2f [.M, .HY, .VY] .packed256Float64 .all
     mem]

end X86Decoder.Table
