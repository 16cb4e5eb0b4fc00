import X86Decoder.Form.Entry
import X86Decoder.Form.Vocabulary

/-!
# Opcodes 70 to 7F of the 0F map
-/

namespace X86Decoder.Table

open Entry

/-- Opcodes 70 to 7F of the 0F map. -/
def map0F70 : List Entry := rows .map0F
  [legacy "Pshufd_VX_WX_Ib" .p66 0x70 [.VX, .WX, .Ib] .packed128Int32,
   legacy "Pshufhw_VX_WX_Ib" .pF3 0x70 [.VX, .WX, .Ib] .packed128Int16,
   legacy "Pshuflw_VX_WX_Ib" .pF2 0x70 [.VX, .WX, .Ib] .packed128Int16,
   legacy "Pshufw_P_Q_Ib" .np 0x70 [.P, .Q, .Ib] .packed64Int16,
   vex "VEX_Vpshufd_VX_WX_Ib" .plain .v128 .p66 .any 0x70 [.VX, .WX, .Ib] .packed128Int32,
   vex "VEX_Vpshufd_VY_WY_Ib" .plain .v256 .p66 .any 0x70 [.VY, .WY, .Ib] .packed256Int32,
   vex "VEX_Vpshufhw_VX_WX_Ib" .plain .v128 .pF3 .any 0x70 [.VX, .WX, .Ib] .packed128Int16,
   vex "VEX_Vpshufhw_VY_WY_Ib" .plain .v256 .pF3 .any 0x70 [.VY, .WY, .Ib] .packed256Int16,
   vex "VEX_Vpshuflw_VX_WX_Ib" .plain .v128 .pF2 .any 0x70 [.VX, .WX, .Ib] .packed128Int16,
   vex "VEX_Vpshuflw_VY_WY_Ib" .plain .v256 .pF2 .any 0x70 [.VY, .WY, .Ib] .packed256Int16,
   full "EVEX_Vpshufd_VX_k1z_WX_Ib_b" .plain .v128 .p66 .clear 0x70 [.VX, .WX, .Ib] .int32,
   full "EVEX_Vpshufd_VY_k1z_WY_Ib_b" .plain .v256 .p66 .clear 0x70 [.VY, .WY, .Ib] .int32,
   full "EVEX_Vpshufd_VZ_k1z_WZ_Ib_b" .plain .v512 .p66 .clear 0x70 [.VZ, .WZ, .Ib] .int32,
   fullMem "EVEX_Vpshufhw_VX_k1z_WX_Ib" .plain .v128 .pF3 .any 0x70 [.VX, .WX, .Ib] .int16,
   fullMem "EVEX_Vpshufhw_VY_k1z_WY_Ib" .plain .v256 .pF3 .any 0x70 [.VY, .WY, .Ib] .int16,
   fullMem "EVEX_Vpshufhw_VZ_k1z_WZ_Ib" .plain .v512 .pF3 .any 0x70 [.VZ, .WZ, .Ib] .int16,
   fullMem "EVEX_Vpshuflw_VX_k1z_WX_Ib" .plain .v128 .pF2 .any 0x70 [.VX, .WX, .Ib] .int16,
   fullMem "EVEX_Vpshuflw_VY_k1z_WY_Ib" .plain .v256 .pF2 .any 0x70 [.VY, .WY, .Ib] .int16,
   fullMem "EVEX_Vpshuflw_VZ_k1z_WZ_Ib" .plain .v512 .pF2 .any 0x70 [.VZ, .WZ, .Ib] .int16,
   group "Psrlw_RX_Ib" .p66 0x71 (.reg 2) [.RX, .Ib] .unknown .all reg,
   group "Psrlw_N_Ib" .np 0x71 (.reg 2) [.N, .Ib] .unknown .all reg,
   vex "VEX_Vpsrlw_HX_RX_Ib" .ndd .v128 .p66 .any 0x71 [.HX, .RX, .Ib] .unknown .all reg (.reg 2),
   vex "VEX_Vpsrlw_HY_RY_Ib" .ndd .v256 .p66 .any 0x71 [.HY, .RY, .Ib] .unknown .all reg (.reg 2),
   fullMem "EVEX_Vpsrlw_HX_k1z_WX_Ib" .ndd .v128 .p66 .any 0x71 [.HX, .WX, .Ib] .uint16 k1z
     (.reg 2),
   fullMem "EVEX_Vpsrlw_HY_k1z_WY_Ib" .ndd .v256 .p66 .any 0x71 [.HY, .WY, .Ib] .uint16 k1z
     (.reg 2),
   fullMem "EVEX_Vpsrlw_HZ_k1z_WZ_Ib" .ndd .v512 .p66 .any 0x71 [.HZ, .WZ, .Ib] .uint16 k1z
     (.reg 2),
   group "Psraw_RX_Ib" .p66 0x71 (.reg 4) [.RX, .Ib] .unknown .all reg,
   group "Psraw_N_Ib" .np 0x71 (.reg 4) [.N, .Ib] .unknown .all reg,
   vex "VEX_Vpsraw_HX_RX_Ib" .ndd .v128 .p66 .any 0x71 [.HX, .RX, .Ib] .unknown .all reg (.reg 4),
   vex "VEX_Vpsraw_HY_RY_Ib" .ndd .v256 .p66 .any 0x71 [.HY, .RY, .Ib] .unknown .all reg (.reg 4),
   fullMem "EVEX_Vpsraw_HX_k1z_WX_Ib" .ndd .v128 .p66 .any 0x71 [.HX, .WX, .Ib] .int16 k1z (.reg 4),
   fullMem "EVEX_Vpsraw_HY_k1z_WY_Ib" .ndd .v256 .p66 .any 0x71 [.HY, .WY, .Ib] .int16 k1z (.reg 4),
   fullMem "EVEX_Vpsraw_HZ_k1z_WZ_Ib" .ndd .v512 .p66 .any 0x71 [.HZ, .WZ, .Ib] .int16 k1z (.reg 4),
   group "Psllw_RX_Ib" .p66 0x71 (.reg 6) [.RX, .Ib] .unknown .all reg,
   group "Psllw_N_Ib" .np 0x71 (.reg 6) [.N, .Ib] .unknown .all reg,
   vex "VEX_Vpsllw_HX_RX_Ib" .ndd .v128 .p66 .any 0x71 [.HX, .RX, .Ib] .unknown .all reg (.reg 6),
   vex "VEX_Vpsllw_HY_RY_Ib" .ndd .v256 .p66 .any 0x71 [.HY, .RY, .Ib] .unknown .all reg (.reg 6),
   fullMem "EVEX_Vpsllw_HX_k1z_WX_Ib" .ndd .v128 .p66 .any 0x71 [.HX, .WX, .Ib] .uint16 k1z
     (.reg 6),
   fullMem "EVEX_Vpsllw_HY_k1z_WY_Ib" .ndd .v256 .p66 .any 0x71 [.HY, .WY, .Ib] .uint16 k1z
     (.reg 6),
   fullMem "EVEX_Vpsllw_HZ_k1z_WZ_Ib" .ndd .v512 .p66 .any 0x71 [.HZ, .WZ, .Ib] .uint16 k1z
     (.reg 6),
   full "EVEX_Vprord_HX_k1z_WX_Ib_b" .ndd .v128 .p66 .clear 0x72 [.HX, .WX, .Ib] .uint32 k1zb
     (.reg 0),
   full "EVEX_Vprord_HY_k1z_WY_Ib_b" .ndd .v256 .p66 .clear 0x72 [.HY, .WY, .Ib] .uint32 k1zb
     (.reg 0),
   full "EVEX_Vprord_HZ_k1z_WZ_Ib_b" .ndd .v512 .p66 .clear 0x72 [.HZ, .WZ, .Ib] .uint32 k1zb
     (.reg 0),
   full "EVEX_Vprorq_HX_k1z_WX_Ib_b" .ndd .v128 .p66 .set 0x72 [.HX, .WX, .Ib] .uint64 k1zb
     (.reg 0),
   full "EVEX_Vprorq_HY_k1z_WY_Ib_b" .ndd .v256 .p66 .set 0x72 [.HY, .WY, .Ib] .uint64 k1zb
     (.reg 0),
   full "EVEX_Vprorq_HZ_k1z_WZ_Ib_b" .ndd .v512 .p66 .set 0x72 [.HZ, .WZ, .Ib] .uint64 k1zb
     (.reg 0),
   full "EVEX_Vprold_HX_k1z_WX_Ib_b" .ndd .v128 .p66 .clear 0x72 [.HX, .WX, .Ib] .uint32 k1zb
     (.reg 1),
   full "EVEX_Vprold_HY_k1z_WY_Ib_b" .ndd .v256 .p66 .clear 0x72 [.HY, .WY, .Ib] .uint32 k1zb
     (.reg 1),
   full "EVEX_Vprold_HZ_k1z_WZ_Ib_b" .ndd .v512 .p66 .clear 0x72 [.HZ, .WZ, .Ib] .uint32 k1zb
     (.reg 1),
   full "EVEX_Vprolq_HX_k1z_WX_Ib_b" .ndd .v128 .p66 .set 0x72 [.HX, .WX, .Ib] .uint64 k1zb
     (.reg 1),
   full "EVEX_Vprolq_HY_k1z_WY_Ib_b" .ndd .v256 .p66 .set 0x72 [.HY, .WY, .Ib] .uint64 k1zb
     (.reg 1),
   full "EVEX_Vprolq_HZ_k1z_WZ_Ib_b" .ndd .v512 .p66 .set 0x72 [.HZ, .WZ, .Ib] .uint64 k1zb
     (.reg 1),
   group "Psrld_RX_Ib" .p66 0x72 (.reg 2) [.RX, .Ib] .unknown .all reg,
   group "Psrld_N_Ib" .np 0x72 (.reg 2) [.N, .Ib] .unknown .all reg,
   vex "VEX_Vpsrld_HX_RX_Ib" .ndd .v128 .p66 .any 0x72 [.HX, .RX, .Ib] .unknown .all reg (.reg 2),
   vex "VEX_Vpsrld_HY_RY_Ib" .ndd .v256 .p66 .any 0x72 [.HY, .RY, .Ib] .unknown .all reg (.reg 2),
   full "EVEX_Vpsrld_HX_k1z_WX_Ib_b" .ndd .v128 .p66 .clear 0x72 [.HX, .WX, .Ib] .uint32 k1zb
     (.reg 2),
   full "EVEX_Vpsrld_HY_k1z_WY_Ib_b" .ndd .v256 .p66 .clear 0x72 [.HY, .WY, .Ib] .uint32 k1zb
     (.reg 2),
   full "EVEX_Vpsrld_HZ_k1z_WZ_Ib_b" .ndd .v512 .p66 .clear 0x72 [.HZ, .WZ, .Ib] .uint32 k1zb
     (.reg 2),
   group "Psrad_RX_Ib" .p66 0x72 (.reg 4) [.RX, .Ib] .unknown .all reg,
   group "Psrad_N_Ib" .np 0x72 (.reg 4) [.N, .Ib] .unknown .all reg,
   vex "VEX_Vpsrad_HX_RX_Ib" .ndd .v128 .p66 .any 0x72 [.HX, .RX, .Ib] .unknown .all reg (.reg 4),
   vex "VEX_Vpsrad_HY_RY_Ib" .ndd .v256 .p66 .any 0x72 [.HY, .RY, .Ib] .unknown .all reg (.reg 4),
   full "EVEX_Vpsrad_HX_k1z_WX_Ib_b" .ndd .v128 .p66 .clear 0x72 [.HX, .WX, .Ib] .int32 k1zb
     (.reg 4),
   full "EVEX_Vpsrad_HY_k1z_WY_Ib_b" .ndd .v256 .p66 .clear 0x72 [.HY, .WY, .Ib] .int32 k1zb
     (.reg 4),
   full "EVEX_Vpsrad_HZ_k1z_WZ_Ib_b" .ndd .v512 .p66 .clear 0x72 [.HZ, .WZ, .Ib] .int32 k1zb
     (.reg 4),
   full "EVEX_Vpsraq_HX_k1z_WX_Ib_b" .ndd .v128 .p66 .set 0x72 [.HX, .WX, .Ib] .int64 k1zb (.reg 4),
   full "EVEX_Vpsraq_HY_k1z_WY_Ib_b" .ndd .v256 .p66 .set 0x72 [.HY, .WY, .Ib] .int64 k1zb (.reg 4),
   full "EVEX_Vpsraq_HZ_k1z_WZ_Ib_b" .ndd .v512 .p66 .set 0x72 [.HZ, .WZ, .Ib] .int64 k1zb (.reg 4),
   group "Pslld_RX_Ib" .p66 0x72 (.reg 6) [.RX, .Ib] .unknown .all reg,
   group "Pslld_N_Ib" .np 0x72 (.reg 6) [.N, .Ib] .unknown .all reg,
   vex "VEX_Vpslld_HX_RX_Ib" .ndd .v128 .p66 .any 0x72 [.HX, .RX, .Ib] .unknown .all reg (.reg 6),
   vex "VEX_Vpslld_HY_RY_Ib" .ndd .v256 .p66 .any 0x72 [.HY, .RY, .Ib] .unknown .all reg (.reg 6),
   full "EVEX_Vpslld_HX_k1z_WX_Ib_b" .ndd .v128 .p66 .clear 0x72 [.HX, .WX, .Ib] .uint32 k1zb
     (.reg 6),
   full "EVEX_Vpslld_HY_k1z_WY_Ib_b" .ndd .v256 .p66 .clear 0x72 [.HY, .WY, .Ib] .uint32 k1zb
     (.reg 6),
   full "EVEX_Vpslld_HZ_k1z_WZ_Ib_b" .ndd .v512 .p66 .clear 0x72 [.HZ, .WZ, .Ib] .uint32 k1zb
     (.reg 6),
   group "Psrlq_RX_Ib" .p66 0x73 (.reg 2) [.RX, .Ib] .unknown .all reg,
   group "Psrlq_N_Ib" .np 0x73 (.reg 2) [.N, .Ib] .unknown .all reg,
   vex "VEX_Vpsrlq_HX_RX_Ib" .ndd .v128 .p66 .any 0x73 [.HX, .RX, .Ib] .unknown .all reg (.reg 2),
   vex "VEX_Vpsrlq_HY_RY_Ib" .ndd .v256 .p66 .any 0x73 [.HY, .RY, .Ib] .unknown .all reg (.reg 2),
   full "EVEX_Vpsrlq_HX_k1z_WX_Ib_b" .ndd .v128 .p66 .set 0x73 [.HX, .WX, .Ib] .uint64 k1zb
     (.reg 2),
   full "EVEX_Vpsrlq_HY_k1z_WY_Ib_b" .ndd .v256 .p66 .set 0x73 [.HY, .WY, .Ib] .uint64 k1zb
     (.reg 2),
   full "EVEX_Vpsrlq_HZ_k1z_WZ_Ib_b" .ndd .v512 .p66 .set 0x73 [.HZ, .WZ, .Ib] .uint64 k1zb
     (.reg 2),
   group "Psrldq_RX_Ib" .p66 0x73 (.reg 3) [.RX, .Ib] .unknown .all reg,
   vex "VEX_Vpsrldq_HX_RX_Ib" .ndd .v128 .p66 .any 0x73 [.HX, .RX, .Ib] .unknown .all reg (.reg 3),
   vex "VEX_Vpsrldq_HY_RY_Ib" .ndd .v256 .p66 .any 0x73 [.HY, .RY, .Ib] .unknown .all reg (.reg 3),
   evex "EVEX_Vpsrldq_HX_WX_Ib" .ndd .v128 .p66 .any 0x73 [.HX, .WX, .Ib] .uint128 .fullMem128 []
     .unknown .all (.reg 3),
   evex "EVEX_Vpsrldq_HY_WY_Ib" .ndd .v256 .p66 .any 0x73 [.HY, .WY, .Ib] .packed256UInt128
     .fullMem256 [] .unknown .all (.reg 3),
   evex "EVEX_Vpsrldq_HZ_WZ_Ib" .ndd .v512 .p66 .any 0x73 [.HZ, .WZ, .Ib] .packed512UInt128
     .fullMem512 [] .unknown .all (.reg 3),
   group "Psllq_RX_Ib" .p66 0x73 (.reg 6) [.RX, .Ib] .unknown .all reg,
   group "Psllq_N_Ib" .np 0x73 (.reg 6) [.N, .Ib] .unknown .all reg,
   vex "VEX_Vpsllq_HX_RX_Ib" .ndd .v128 .p66 .any 0x73 [.HX, .RX, .Ib] .unknown .all reg (.reg 6),
   vex "VEX_Vpsllq_HY_RY_Ib" .ndd .v256 .p66 .any 0x73 [.HY, .RY, .Ib] .unknown .all reg (.reg 6),
   full "EVEX_Vpsllq_HX_k1z_WX_Ib_b" .ndd .v128 .p66 .set 0x73 [.HX, .WX, .Ib] .uint64 k1zb
     (.reg 6),
   full "EVEX_Vpsllq_HY_k1z_WY_Ib_b" .ndd .v256 .p66 .set 0x73 [.HY, .WY, .Ib] .uint64 k1zb
     (.reg 6),
   full "EVEX_Vpsllq_HZ_k1z_WZ_Ib_b" .ndd .v512 .p66 .set 0x73 [.HZ, .WZ, .Ib] .uint64 k1zb
     (.reg 6),
   group "Pslldq_RX_Ib" .p66 0x73 (.reg 7) [.RX, .Ib] .unknown .all reg,
   vex "VEX_Vpslldq_HX_RX_Ib" .ndd .v128 .p66 .any 0x73 [.HX, .RX, .Ib] .unknown .all reg (.reg 7),
   vex "VEX_Vpslldq_HY_RY_Ib" .ndd .v256 .p66 .any 0x73 [.HY, .RY, .Ib] .unknown .all reg (.reg 7),
   evex "EVEX_Vpslldq_HX_WX_Ib" .ndd .v128 .p66 .any 0x73 [.HX, .WX, .Ib] .uint128 .fullMem128 []
     .unknown .all (.reg 7),
   evex "EVEX_Vpslldq_HY_WY_Ib" .ndd .v256 .p66 .any 0x73 [.HY, .WY, .Ib] .packed256UInt128
     .fullMem256 [] .unknown .all (.reg 7),
   evex "EVEX_Vpslldq_HZ_WZ_Ib" .ndd .v512 .p66 .any 0x73 [.HZ, .WZ, .Ib] .packed512UInt128
     .fullMem512 [] .unknown .all (.reg 7),
   legacy "Pcmpeqb_VX_WX" .p66 0x74 [.VX, .WX] .packed128Int8,
   legacy "Pcmpeqb_P_Q" .np 0x74 [.P, .Q] .packed64Int8,
   vex "VEX_Vpcmpeqb_VX_HX_WX" .nds .v128 .p66 .any 0x74 [.VX, .HX, .WX] .packed128Int8,
   vex "VEX_Vpcmpeqb_VY_HY_WY" .nds .v256 .p66 .any 0x74 [.VY, .HY, .WY] .packed256Int8,
   fullMem "EVEX_Vpcmpeqb_VK_k1_HX_WX" .nds .v128 .p66 .any 0x74 [.VK, .HX, .WX] .int8 k1,
   fullMem "EVEX_Vpcmpeqb_VK_k1_HY_WY" .nds .v256 .p66 .any 0x74 [.VK, .HY, .WY] .int8 k1,
   fullMem "EVEX_Vpcmpeqb_VK_k1_HZ_WZ" .nds .v512 .p66 .any 0x74 [.VK, .HZ, .WZ] .int8 k1,
   legacy "Pcmpeqw_VX_WX" .p66 0x75 [.VX, .WX] .packed128Int16,
   legacy "Pcmpeqw_P_Q" .np 0x75 [.P, .Q] .packed64Int16,
   vex "VEX_Vpcmpeqw_VX_HX_WX" .nds .v128 .p66 .any 0x75 [.VX, .HX, .WX] .packed128Int16,
   vex "VEX_Vpcmpeqw_VY_HY_WY" .nds .v256 .p66 .any 0x75 [.VY, .HY, .WY] .packed256Int16,
   fullMem "EVEX_Vpcmpeqw_VK_k1_HX_WX" .nds .v128 .p66 .any 0x75 [.VK, .HX, .WX] .int16 k1,
   fullMem "EVEX_Vpcmpeqw_VK_k1_HY_WY" .nds .v256 .p66 .any 0x75 [.VK, .HY, .WY] .int16 k1,
   fullMem "EVEX_Vpcmpeqw_VK_k1_HZ_WZ" .nds .v512 .p66 .any 0x75 [.VK, .HZ, .WZ] .int16 k1,
   legacy "Pcmpeqd_VX_WX" .p66 0x76 [.VX, .WX] .packed128Int32,
   legacy "Pcmpeqd_P_Q" .np 0x76 [.P, .Q] .packed64Int32,
   vex "VEX_Vpcmpeqd_VX_HX_WX" .nds .v128 .p66 .any 0x76 [.VX, .HX, .WX] .packed128Int32,
   vex "VEX_Vpcmpeqd_VY_HY_WY" .nds .v256 .p66 .any 0x76 [.VY, .HY, .WY] .packed256Int32,
   full "EVEX_Vpcmpeqd_VK_k1_HX_WX_b" .nds .v128 .p66 .clear 0x76 [.VK, .HX, .WX] .int32 k1b,
   full "EVEX_Vpcmpeqd_VK_k1_HY_WY_b" .nds .v256 .p66 .clear 0x76 [.VK, .HY, .WY] .int32 k1b,
   full "EVEX_Vpcmpeqd_VK_k1_HZ_WZ_b" .nds .v512 .p66 .clear 0x76 [.VK, .HZ, .WZ] .int32 k1b,
   bare "Emms" .free 0x77 [],
   vex "VEX_Vzeroupper" .plain .v128 .none .any 0x77 [] .unknown .all [] .absent,
   vex "VEX_Vzeroall" .plain .v256 .none .any 0x77 [] .unknown .all [] .absent,
   legacy "Vmread_Eq_Gq" .o64 0x78 [.Eq, .Gq] .uint64 .only64,
   legacy "Vmread_Ed_Gd" .free 0x78 [.Ed, .Gd] .uint32,
   legacy "Vmwrite_Gq_Eq" .o64 0x79 [.Gq, .Eq] .uint64 .only64,
   legacy "Vmwrite_Gd_Ed" .free 0x79 [.Gd, .Ed] .uint32,
   full "EVEX_Vcvttps2udq_VX_k1z_WX_b" .plain .v128 .none .clear 0x78 [.VX, .WX] .float32,
   full "EVEX_Vcvttps2udq_VY_k1z_WY_b" .plain .v256 .none .clear 0x78 [.VY, .WY] .float32,
   full "EVEX_Vcvttps2udq_VZ_k1z_WZ_sae_b" .plain .v512 .none .clear 0x78 [.VZ, .WZ] .float32
     k1zbSae,
   full "EVEX_Vcvttpd2udq_VX_k1z_WX_b" .plain .v128 .none .set 0x78 [.VX, .WX] .float64,
   full "EVEX_Vcvttpd2udq_VX_k1z_WY_b" .plain .v256 .none .set 0x78 [.VX, .WY] .float64,
   full "EVEX_Vcvttpd2udq_VY_k1z_WZ_sae_b" .plain .v512 .none .set 0x78 [.VY, .WZ] .float64 k1zbSae,
   evex "EVEX_Vcvttps2uqq_VX_k1z_WX_b" .plain .v128 .p66 .clear 0x78 [.VX, .WX] .packed64Float32
     .half128 k1zb .broadcast64Float32,
   evex "EVEX_Vcvttps2uqq_VY_k1z_WX_b" .plain .v256 .p66 .clear 0x78 [.VY, .WX] .packed128Float32
     .half256 k1zb .broadcast128Float32,
   evex "EVEX_Vcvttps2uqq_VZ_k1z_WY_sae_b" .plain .v512 .p66 .clear 0x78 [.VZ, .WY]
     .packed256Float32 .half512 k1zbSae .broadcast256Float32,
   full "EVEX_Vcvttpd2uqq_VX_k1z_WX_b" .plain .v128 .p66 .set 0x78 [.VX, .WX] .float64,
   full "EVEX_Vcvttpd2uqq_VY_k1z_WY_b" .plain .v256 .p66 .set 0x78 [.VY, .WY] .float64,
   full "EVEX_Vcvttpd2uqq_VZ_k1z_WZ_sae_b" .plain .v512 .p66 .set 0x78 [.VZ, .WZ] .float64 k1zbSae,
   evex "EVEX_Vcvttss2usi_Gd_WX_sae" .plain .lig .pF3 .clear 0x78 [.Gd, .WX] .float32 .oneFixed4
     [.sae, .wig32],
   evex "EVEX_Vcvttss2usi_Gq_WX_sae" .plain .lig .pF3 .set 0x78 [.Gq, .WX] .float32 .oneFixed4
     [.sae] .unknown .only64,
   evex "EVEX_Vcvttsd2usi_Gd_WX_sae" .plain .lig .pF2 .clear 0x78 [.Gd, .WX] .float64 .oneFixed8
     [.sae, .wig32],
   evex "EVEX_Vcvttsd2usi_Gq_WX_sae" .plain .lig .pF2 .set 0x78 [.Gq, .WX] .float64 .oneFixed8
     [.sae] .unknown .only64,
   full "EVEX_Vcvtps2udq_VX_k1z_WX_b" .plain .v128 .none .clear 0x79 [.VX, .WX] .float32,
   full "EVEX_Vcvtps2udq_VY_k1z_WY_b" .plain .v256 .none .clear 0x79 [.VY, .WY] .float32,
   full "EVEX_Vcvtps2udq_VZ_k1z_WZ_er_b" .plain .v512 .none .clear 0x79 [.VZ, .WZ] .float32 k1zbEr,
   full "EVEX_Vcvtpd2udq_VX_k1z_WX_b" .plain .v128 .none .set 0x79 [.VX, .WX] .float64,
   full "EVEX_Vcvtpd2udq_VX_k1z_WY_b" .plain .v256 .none .set 0x79 [.VX, .WY] .float64,
   full "EVEX_Vcvtpd2udq_VY_k1z_WZ_er_b" .plain .v512 .none .set 0x79 [.VY, .WZ] .float64 k1zbEr,
   evex "EVEX_Vcvtps2uqq_VX_k1z_WX_b" .plain .v128 .p66 .clear 0x79 [.VX, .WX] .packed64Float32
     .half128 k1zb .broadcast64Float32,
   evex "EVEX_Vcvtps2uqq_VY_k1z_WX_b" .plain .v256 .p66 .clear 0x79 [.VY, .WX] .packed128Float32
     .half256 k1zb .broadcast128Float32,
   evex "EVEX_Vcvtps2uqq_VZ_k1z_WY_er_b" .plain .v512 .p66 .clear 0x79 [.VZ, .WY] .packed256Float32
     .half512 k1zbEr .broadcast256Float32,
   full "EVEX_Vcvtpd2uqq_VX_k1z_WX_b" .plain .v128 .p66 .set 0x79 [.VX, .WX] .float64,
   full "EVEX_Vcvtpd2uqq_VY_k1z_WY_b" .plain .v256 .p66 .set 0x79 [.VY, .WY] .float64,
   full "EVEX_Vcvtpd2uqq_VZ_k1z_WZ_er_b" .plain .v512 .p66 .set 0x79 [.VZ, .WZ] .float64 k1zbEr,
   evex "EVEX_Vcvtss2usi_Gd_WX_er" .plain .lig .pF3 .clear 0x79 [.Gd, .WX] .float32 .oneFixed4
     [.rounding, .wig32],
   evex "EVEX_Vcvtss2usi_Gq_WX_er" .plain .lig .pF3 .set 0x79 [.Gq, .WX] .float32 .oneFixed4
     [.rounding] .unknown .only64,
   evex "EVEX_Vcvtsd2usi_Gd_WX_er" .plain .lig .pF2 .clear 0x79 [.Gd, .WX] .float64 .oneFixed8
     [.rounding, .wig32],
   evex "EVEX_Vcvtsd2usi_Gq_WX_er" .plain .lig .pF2 .set 0x79 [.Gq, .WX] .float64 .oneFixed8
     [.rounding] .unknown .only64,
   evex "EVEX_Vcvttps2qq_VX_k1z_WX_b" .plain .v128 .p66 .clear 0x7a [.VX, .WX] .packed64Float32
     .half128 k1zb .broadcast64Float32,
   evex "EVEX_Vcvttps2qq_VY_k1z_WX_b" .plain .v256 .p66 .clear 0x7a [.VY, .WX] .packed128Float32
     .half256 k1zb .broadcast128Float32,
   evex "EVEX_Vcvttps2qq_VZ_k1z_WY_sae_b" .plain .v512 .p66 .clear 0x7a [.VZ, .WY]
     .packed256Float32 .half512 k1zbSae .broadcast256Float32,
   full "EVEX_Vcvttpd2qq_VX_k1z_WX_b" .plain .v128 .p66 .set 0x7a [.VX, .WX] .float64,
   full "EVEX_Vcvttpd2qq_VY_k1z_WY_b" .plain .v256 .p66 .set 0x7a [.VY, .WY] .float64,
   full "EVEX_Vcvttpd2qq_VZ_k1z_WZ_sae_b" .plain .v512 .p66 .set 0x7a [.VZ, .WZ] .float64 k1zbSae,
   evex "EVEX_Vcvtudq2pd_VX_k1z_WX_b" .plain .v128 .pF3 .clear 0x7a [.VX, .WX] .packed64UInt32
     .half128 k1zb .broadcast64UInt32,
   evex "EVEX_Vcvtudq2pd_VY_k1z_WX_b" .plain .v256 .pF3 .clear 0x7a [.VY, .WX] .packed128UInt32
     .half256 k1zb .broadcast128UInt32,
   evex "EVEX_Vcvtudq2pd_VZ_k1z_WY_b" .plain .v512 .pF3 .clear 0x7a [.VZ, .WY] .packed256UInt32
     .half512 k1zb .broadcast256UInt32,
   full "EVEX_Vcvtuqq2pd_VX_k1z_WX_b" .plain .v128 .pF3 .set 0x7a [.VX, .WX] .uint64,
   full "EVEX_Vcvtuqq2pd_VY_k1z_WY_b" .plain .v256 .pF3 .set 0x7a [.VY, .WY] .uint64,
   full "EVEX_Vcvtuqq2pd_VZ_k1z_WZ_er_b" .plain .v512 .pF3 .set 0x7a [.VZ, .WZ] .uint64 k1zbEr,
   full "EVEX_Vcvtudq2ps_VX_k1z_WX_b" .plain .v128 .pF2 .clear 0x7a [.VX, .WX] .uint32,
   full "EVEX_Vcvtudq2ps_VY_k1z_WY_b" .plain .v256 .pF2 .clear 0x7a [.VY, .WY] .uint32,
   full "EVEX_Vcvtudq2ps_VZ_k1z_WZ_er_b" .plain .v512 .pF2 .clear 0x7a [.VZ, .WZ] .uint32 k1zbEr,
   full "EVEX_Vcvtuqq2ps_VX_k1z_WX_b" .plain .v128 .pF2 .set 0x7a [.VX, .WX] .uint64,
   full "EVEX_Vcvtuqq2ps_VX_k1z_WY_b" .plain .v256 .pF2 .set 0x7a [.VX, .WY] .uint64,
   full "EVEX_Vcvtuqq2ps_VY_k1z_WZ_er_b" .plain .v512 .pF2 .set 0x7a [.VY, .WZ] .uint64 k1zbEr,
   evex "EVEX_Vcvtps2qq_VX_k1z_WX_b" .plain .v128 .p66 .clear 0x7b [.VX, .WX] .packed64Float32
     .half128 k1zb .broadcast64Float32,
   evex "EVEX_Vcvtps2qq_VY_k1z_WX_b" .plain .v256 .p66 .clear 0x7b [.VY, .WX] .packed128Float32
     .half256 k1zb .broadcast128Float32,
   evex "EVEX_Vcvtps2qq_VZ_k1z_WY_er_b" .plain .v512 .p66 .clear 0x7b [.VZ, .WY] .packed256Float32
     .half512 k1zbEr .broadcast256Float32,
   full "EVEX_Vcvtpd2qq_VX_k1z_WX_b" .plain .v128 .p66 .set 0x7b [.VX, .WX] .float64,
   full "EVEX_Vcvtpd2qq_VY_k1z_WY_b" .plain .v256 .p66 .set 0x7b [.VY, .WY] .float64,
   full "EVEX_Vcvtpd2qq_VZ_k1z_WZ_er_b" .plain .v512 .p66 .set 0x7b [.VZ, .WZ] .float64 k1zbEr,
   evex "EVEX_Vcvtusi2ss_VX_HX_Ed_er" .nds .lig .pF3 .clear 0x7b [.VX, .HX, .Ed] .uint32 .oneFixed
     [.rounding, .wig32],
   evex "EVEX_Vcvtusi2ss_VX_HX_Eq_er" .nds .lig .pF3 .set 0x7b [.VX, .HX, .Eq] .uint64 .oneFixed
     [.rounding] .unknown .only64,
   evex "EVEX_Vcvtusi2sd_VX_HX_Ed" .nds .lig .pF2 .clear 0x7b [.VX, .HX, .Ed] .uint32 .oneFixed
     [.wig32],
   evex "EVEX_Vcvtusi2sd_VX_HX_Eq_er" .nds .lig .pF2 .set 0x7b [.VX, .HX, .Eq] .uint64 .oneFixed
     [.rounding] .unknown .only64,
   legacy "Haddpd_VX_WX" .p66 0x7c [.VX, .WX] .packed128Float64,
   legacy "Haddps_VX_WX" .pF2 0x7c [.VX, .WX] .packed128Float32,
   vex "VEX_Vhaddpd_VX_HX_WX" .nds .v128 .p66 .any 0x7c [.VX, .HX, .WX] .packed128Float64,
   vex "VEX_Vhaddpd_VY_HY_WY" .nds .v256 .p66 .any 0x7c [.VY, .HY, .WY] .packed256Float64,
   vex "VEX_Vhaddps_VX_HX_WX" .nds .v128 .pF2 .any 0x7c [.VX, .HX, .WX] .packed128Float32,
   vex "VEX_Vhaddps_VY_HY_WY" .nds .v256 .pF2 .any 0x7c [.VY, .HY, .WY] .packed256Float32,
   legacy "Hsubpd_VX_WX" .p66 0x7d [.VX, .WX] .packed128Float64,
   legacy "Hsubps_VX_WX" .pF2 0x7d [.VX, .WX] .packed128Float32,
   vex "VEX_Vhsubpd_VX_HX_WX" .nds .v128 .p66 .any 0x7d [.VX, .HX, .WX] .packed128Float64,
   vex "VEX_Vhsubpd_VY_HY_WY" .nds .v256 .p66 .any 0x7d [.VY, .HY, .WY] .packed256Float64,
   vex "VEX_Vhsubps_VX_HX_WX" .nds .v128 .pF2 .any 0x7d [.VX, .HX, .WX] .packed128Float32,
   vex "VEX_Vhsubps_VY_HY_WY" .nds .v256 .pF2 .any 0x7d [.VY, .HY, .WY] .packed256Float32,
   legacy "Movq_Eq_VX" .o64p66 0x7e [.Eq, .VX] .uint64 .only64,
   legacy "Movd_Ed_VX" .p66 0x7e [.Ed, .VX] .uint32,
   legacy "Movq_VX_WX" .pF3 0x7e [.VX, .WX] .uint64,
   legacy "Movq_Eq_P" .o64 0x7e [.Eq, .P] .uint64 .only64,
   legacy "Movd_Ed_P" .np 0x7e [.Ed, .P] .uint32,
   vex "VEX_Vmovd_Ed_VX" .plain .v128 .p66 .clear 0x7e [.Ed, .VX] .uint32 .all [.wig32],
   vex "VEX_Vmovq_Eq_VX" .plain .v128 .p66 .set 0x7e [.Eq, .VX] .uint64 .only64,
   vex "VEX_Vmovq_VX_WX" .plain .v128 .pF3 .any 0x7e [.VX, .WX] .uint64,
   evex "EVEX_Vmovd_Ed_VX" .plain .v128 .p66 .clear 0x7e [.Ed, .VX] .uint32 .oneScalar [.wig32],
   evex "EVEX_Vmovq_Eq_VX" .plain .v128 .p66 .set 0x7e [.Eq, .VX] .uint64 .oneScalar [] .unknown
     .only64,
   evex "EVEX_Vmovq_VX_WX" .plain .v128 .pF3 .set 0x7e [.VX, .WX] .uint64 .oneScalar,
   legacy "Movdqa_WX_VX" .p66 0x7f [.WX, .VX] .packed128Int32,
   legacy "Movdqu_WX_VX" .pF3 0x7f [.WX, .VX] .packed128Int32,
   legacy "Movq_Q_P" .np 0x7f [.Q, .P] .packed64Int32,
   vex "VEX_Vmovdqa_WX_VX" .plain .v128 .p66 .any 0x7f [.WX, .VX] .packed128Int32,
   vex "VEX_Vmovdqa_WY_VY" .plain .v256 .p66 .any 0x7f [.WY, .VY] .packed256Int32,
   vex "VEX_Vmovdqu_WX_VX" .plain .v128 .pF3 .any 0x7f [.WX, .VX] .packed128Int32,
   vex "VEX_Vmovdqu_WY_VY" .plain .v256 .pF3 .any 0x7f [.WY, .VY] .packed256Int32,
   fullMem "EVEX_Vmovdqa32_WX_k1z_VX" .plain .v128 .p66 .clear 0x7f [.WX, .VX] .int32,
   fullMem "EVEX_Vmovdqa32_WY_k1z_VY" .plain .v256 .p66 .clear 0x7f [.WY, .VY] .int32,
   fullMem "EVEX_Vmovdqa32_WZ_k1z_VZ" .plain .v512 .p66 .clear 0x7f [.WZ, .VZ] .int32,
   fullMem "EVEX_Vmovdqa64_WX_k1z_VX" .plain .v128 .p66 .set 0x7f [.WX, .VX] .int32,
   fullMem "EVEX_Vmovdqa64_WY_k1z_VY" .plain .v256 .p66 .set 0x7f [.WY, .VY] .int32,
   fullMem "EVEX_Vmovdqa64_WZ_k1z_VZ" .plain .v512 .p66 .set 0x7f [.WZ, .VZ] .int32,
   fullMem "EVEX_Vmovdqu32_WX_k1z_VX" .plain .v128 .pF3 .clear 0x7f [.WX, .VX] .int32,
   fullMem "EVEX_Vmovdqu32_WY_k1z_VY" .plain .v256 .pF3 .clear 0x7f [.WY, .VY] .int32,
   fullMem "EVEX_Vmovdqu32_WZ_k1z_VZ" .plain .v512 .pF3 .clear 0x7f [.WZ, .VZ] .int32,
   fullMem "EVEX_Vmovdqu64_WX_k1z_VX" .plain .v128 .pF3 .set 0x7f [.WX, .VX] .int64,
   fullMem "EVEX_Vmovdqu64_WY_k1z_VY" .plain .v256 .pF3 .set 0x7f [.WY, .VY] .int64,
   fullMem "EVEX_Vmovdqu64_WZ_k1z_VZ" .plain .v512 .pF3 .set 0x7f [.WZ, .VZ] .int64,
   fullMem "EVEX_Vmovdqu8_WX_k1z_VX" .plain .v128 .pF2 .clear 0x7f [.WX, .VX] .int8,
   fullMem "EVEX_Vmovdqu8_WY_k1z_VY" .plain .v256 .pF2 .clear 0x7f [.WY, .VY] .int8,
   fullMem "EVEX_Vmovdqu8_WZ_k1z_VZ" .plain .v512 .pF2 .clear 0x7f [.WZ, .VZ] .int8,
   fullMem "EVEX_Vmovdqu16_WX_k1z_VX" .plain .v128 .pF2 .set 0x7f [.WX, .VX] .int16,
   fullMem "EVEX_Vmovdqu16_WY_k1z_VY" .plain .v256 .pF2 .set 0x7f [.WY, .VY] .int16,
   fullMem "EVEX_Vmovdqu16_WZ_k1z_VZ" .plain .v512 .pF2 .set 0x7f [.WZ, .VZ] .int16]

end X86Decoder.Table
