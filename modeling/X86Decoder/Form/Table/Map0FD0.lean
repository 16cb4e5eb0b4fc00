import X86Decoder.Form.Entry
import X86Decoder.Form.Vocabulary

/-!
# Opcodes D0 to DF of the 0F map
-/

namespace X86Decoder.Table

open Entry

/-- Opcodes D0 to DF of the 0F map. -/
def map0FD0 : List Entry := rows .map0F
  [legacy "Addsubpd_VX_WX" .p66 0xd0 [.VX, .WX] .packed128Float64,
   legacy "Addsubps_VX_WX" .pF2 0xd0 [.VX, .WX] .packed128Float32,
   vex "VEX_Vaddsubpd_VX_HX_WX" .nds .v128 .p66 .any 0xd0 [.VX, .HX, .WX] .packed128Float64,
   vex "VEX_Vaddsubpd_VY_HY_WY" .nds .v256 .p66 .any 0xd0 [.VY, .HY, .WY] .packed256Float64,
   vex "VEX_Vaddsubps_VX_HX_WX" .nds .v128 .pF2 .any 0xd0 [.VX, .HX, .WX] .packed128Float32,
   vex "VEX_Vaddsubps_VY_HY_WY" .nds .v256 .pF2 .any 0xd0 [.VY, .HY, .WY] .packed256Float32,
   legacy "Psrlw_VX_WX" .p66 0xd1 [.VX, .WX] .packed128UInt64,
   legacy "Psrlw_P_Q" .np 0xd1 [.P, .Q] .uint64,
   vex "VEX_Vpsrlw_VX_HX_WX" .nds .v128 .p66 .any 0xd1 [.VX, .HX, .WX] .packed128UInt64,
   vex "VEX_Vpsrlw_VY_HY_WX" .nds .v256 .p66 .any 0xd1 [.VY, .HY, .WX] .packed128UInt64,
   evex "EVEX_Vpsrlw_VX_k1z_HX_WX" .nds .v128 .p66 .any 0xd1 [.VX, .HX, .WX] .packed128UInt64
     .mem128 k1z,
   evex "EVEX_Vpsrlw_VY_k1z_HY_WX" .nds .v256 .p66 .any 0xd1 [.VY, .HY, .WX] .packed128UInt64
     .mem128 k1z,
   evex "EVEX_Vpsrlw_VZ_k1z_HZ_WX" .nds .v512 .p66 .any 0xd1 [.VZ, .HZ, .WX] .packed128UInt64
     .mem128 k1z,
   legacy "Psrld_VX_WX" .p66 0xd2 [.VX, .WX] .packed128UInt64,
   legacy "Psrld_P_Q" .np 0xd2 [.P, .Q] .uint64,
   vex "VEX_Vpsrld_VX_HX_WX" .nds .v128 .p66 .any 0xd2 [.VX, .HX, .WX] .packed128UInt64,
   vex "VEX_Vpsrld_VY_HY_WX" .nds .v256 .p66 .any 0xd2 [.VY, .HY, .WX] .packed128UInt64,
   evex "EVEX_Vpsrld_VX_k1z_HX_WX" .nds .v128 .p66 .clear 0xd2 [.VX, .HX, .WX] .packed128UInt64
     .mem128 k1z,
   evex "EVEX_Vpsrld_VY_k1z_HY_WX" .nds .v256 .p66 .clear 0xd2 [.VY, .HY, .WX] .packed128UInt64
     .mem128 k1z,
   evex "EVEX_Vpsrld_VZ_k1z_HZ_WX" .nds .v512 .p66 .clear 0xd2 [.VZ, .HZ, .WX] .packed128UInt64
     .mem128 k1z,
   legacy "Psrlq_VX_WX" .p66 0xd3 [.VX, .WX] .packed128UInt64,
   legacy "Psrlq_P_Q" .np 0xd3 [.P, .Q] .uint64,
   vex "VEX_Vpsrlq_VX_HX_WX" .nds .v128 .p66 .any 0xd3 [.VX, .HX, .WX] .packed128UInt64,
   vex "VEX_Vpsrlq_VY_HY_WX" .nds .v256 .p66 .any 0xd3 [.VY, .HY, .WX] .packed128UInt64,
   evex "EVEX_Vpsrlq_VX_k1z_HX_WX" .nds .v128 .p66 .set 0xd3 [.VX, .HX, .WX] .packed128UInt64
     .mem128 k1z,
   evex "EVEX_Vpsrlq_VY_k1z_HY_WX" .nds .v256 .p66 .set 0xd3 [.VY, .HY, .WX] .packed128UInt64
     .mem128 k1z,
   evex "EVEX_Vpsrlq_VZ_k1z_HZ_WX" .nds .v512 .p66 .set 0xd3 [.VZ, .HZ, .WX] .packed128UInt64
     .mem128 k1z,
   legacy "Paddq_VX_WX" .p66 0xd4 [.VX, .WX] .packed128UInt64,
   legacy "Paddq_P_Q" .np 0xd4 [.P, .Q] .uint64,
   vex "VEX_Vpaddq_VX_HX_WX" .nds .v128 .p66 .any 0xd4 [.VX, .HX, .WX] .packed128UInt64,
   vex "VEX_Vpaddq_VY_HY_WY" .nds .v256 .p66 .any 0xd4 [.VY, .HY, .WY] .packed256UInt64,
   full "EVEX_Vpaddq_VX_k1z_HX_WX_b" .nds .v128 .p66 .set 0xd4 [.VX, .HX, .WX] .uint64,
   full "EVEX_Vpaddq_VY_k1z_HY_WY_b" .nds .v256 .p66 .set 0xd4 [.VY, .HY, .WY] .uint64,
   full "EVEX_Vpaddq_VZ_k1z_HZ_WZ_b" .nds .v512 .p66 .set 0xd4 [.VZ, .HZ, .WZ] .uint64,
   legacy "Pmullw_VX_WX" .p66 0xd5 [.VX, .WX] .packed128Int16,
   legacy "Pmullw_P_Q" .np 0xd5 [.P, .Q] .packed64Int16,
   vex "VEX_Vpmullw_VX_HX_WX" .nds .v128 .p66 .any 0xd5 [.VX, .HX, .WX] .packed128Int16,
   vex "VEX_Vpmullw_VY_HY_WY" .nds .v256 .p66 .any 0xd5 [.VY, .HY, .WY] .packed256Int16,
   fullMem "EVEX_Vpmullw_VX_k1z_HX_WX" .nds .v128 .p66 .any 0xd5 [.VX, .HX, .WX] .int16,
   fullMem "EVEX_Vpmullw_VY_k1z_HY_WY" .nds .v256 .p66 .any 0xd5 [.VY, .HY, .WY] .int16,
   fullMem "EVEX_Vpmullw_VZ_k1z_HZ_WZ" .nds .v512 .p66 .any 0xd5 [.VZ, .HZ, .WZ] .int16,
   legacy "Movq_WX_VX" .p66 0xd6 [.WX, .VX] .uint64,
   legacy "Movq2dq_VX_N" .pF3 0xd6 [.VX, .N] .unknown .all reg,
   legacy "Movdq2q_P_RX" .pF2 0xd6 [.P, .RX] .unknown .all reg,
   vex "VEX_Vmovq_WX_VX" .plain .v128 .p66 .any 0xd6 [.WX, .VX] .uint64,
   evex "EVEX_Vmovq_WX_VX" .plain .v128 .p66 .set 0xd6 [.WX, .VX] .uint64 .oneScalar,
   legacy "Pmovmskb_Gq_RX" .o64p66 0xd7 [.Gq, .RX] .unknown .only64 reg,
   legacy "Pmovmskb_Gd_RX" .p66 0xd7 [.Gd, .RX] .unknown .all reg,
   legacy "Pmovmskb_Gq_N" .o64 0xd7 [.Gq, .N] .unknown .only64 reg,
   legacy "Pmovmskb_Gd_N" .np 0xd7 [.Gd, .N] .unknown .all reg,
   vex "VEX_Vpmovmskb_Gd_RX" .plain .v128 .p66 .clear 0xd7 [.Gd, .RX] .unknown .all
     [.wig32, .registerOnly],
   vex "VEX_Vpmovmskb_Gq_RX" .plain .v128 .p66 .set 0xd7 [.Gq, .RX] .unknown .only64 reg,
   vex "VEX_Vpmovmskb_Gd_RY" .plain .v256 .p66 .clear 0xd7 [.Gd, .RY] .unknown .all
     [.wig32, .registerOnly],
   vex "VEX_Vpmovmskb_Gq_RY" .plain .v256 .p66 .set 0xd7 [.Gq, .RY] .unknown .only64 reg,
   legacy "Psubusb_VX_WX" .p66 0xd8 [.VX, .WX] .packed128UInt8,
   legacy "Psubusb_P_Q" .np 0xd8 [.P, .Q] .packed64UInt8,
   vex "VEX_Vpsubusb_VX_HX_WX" .nds .v128 .p66 .any 0xd8 [.VX, .HX, .WX] .packed128UInt8,
   vex "VEX_Vpsubusb_VY_HY_WY" .nds .v256 .p66 .any 0xd8 [.VY, .HY, .WY] .packed256UInt8,
   fullMem "EVEX_Vpsubusb_VX_k1z_HX_WX" .nds .v128 .p66 .any 0xd8 [.VX, .HX, .WX] .uint8,
   fullMem "EVEX_Vpsubusb_VY_k1z_HY_WY" .nds .v256 .p66 .any 0xd8 [.VY, .HY, .WY] .uint8,
   fullMem "EVEX_Vpsubusb_VZ_k1z_HZ_WZ" .nds .v512 .p66 .any 0xd8 [.VZ, .HZ, .WZ] .uint8,
   legacy "Psubusw_VX_WX" .p66 0xd9 [.VX, .WX] .packed128UInt16,
   legacy "Psubusw_P_Q" .np 0xd9 [.P, .Q] .packed64UInt16,
   vex "VEX_Vpsubusw_VX_HX_WX" .nds .v128 .p66 .any 0xd9 [.VX, .HX, .WX] .packed128UInt16,
   vex "VEX_Vpsubusw_VY_HY_WY" .nds .v256 .p66 .any 0xd9 [.VY, .HY, .WY] .packed256UInt16,
   fullMem "EVEX_Vpsubusw_VX_k1z_HX_WX" .nds .v128 .p66 .any 0xd9 [.VX, .HX, .WX] .uint16,
   fullMem "EVEX_Vpsubusw_VY_k1z_HY_WY" .nds .v256 .p66 .any 0xd9 [.VY, .HY, .WY] .uint16,
   fullMem "EVEX_Vpsubusw_VZ_k1z_HZ_WZ" .nds .v512 .p66 .any 0xd9 [.VZ, .HZ, .WZ] .uint16,
   legacy "Pminub_VX_WX" .p66 0xda [.VX, .WX] .packed128UInt8,
   legacy "Pminub_P_Q" .np 0xda [.P, .Q] .packed64UInt8,
   vex "VEX_Vpminub_VX_HX_WX" .nds .v128 .p66 .any 0xda [.VX, .HX, .WX] .packed128UInt8,
   vex "VEX_Vpminub_VY_HY_WY" .nds .v256 .p66 .any 0xda [.VY, .HY, .WY] .packed256UInt8,
   fullMem "EVEX_Vpminub_VX_k1z_HX_WX" .nds .v128 .p66 .any 0xda [.VX, .HX, .WX] .uint8,
   fullMem "EVEX_Vpminub_VY_k1z_HY_WY" .nds .v256 .p66 .any 0xda [.VY, .HY, .WY] .uint8,
   fullMem "EVEX_Vpminub_VZ_k1z_HZ_WZ" .nds .v512 .p66 .any 0xda [.VZ, .HZ, .WZ] .uint8,
   legacy "Pand_VX_WX" .p66 0xdb [.VX, .WX] .packed128UInt64,
   legacy "Pand_P_Q" .np 0xdb [.P, .Q] .uint64,
   vex "VEX_Vpand_VX_HX_WX" .nds .v128 .p66 .any 0xdb [.VX, .HX, .WX] .packed128UInt64,
   vex "VEX_Vpand_VY_HY_WY" .nds .v256 .p66 .any 0xdb [.VY, .HY, .WY] .packed256UInt64,
   full "EVEX_Vpandd_VX_k1z_HX_WX_b" .nds .v128 .p66 .clear 0xdb [.VX, .HX, .WX] .uint32,
   full "EVEX_Vpandd_VY_k1z_HY_WY_b" .nds .v256 .p66 .clear 0xdb [.VY, .HY, .WY] .uint32,
   full "EVEX_Vpandd_VZ_k1z_HZ_WZ_b" .nds .v512 .p66 .clear 0xdb [.VZ, .HZ, .WZ] .uint32,
   full "EVEX_Vpandq_VX_k1z_HX_WX_b" .nds .v128 .p66 .set 0xdb [.VX, .HX, .WX] .uint64,
   full "EVEX_Vpandq_VY_k1z_HY_WY_b" .nds .v256 .p66 .set 0xdb [.VY, .HY, .WY] .uint64,
   full "EVEX_Vpandq_VZ_k1z_HZ_WZ_b" .nds .v512 .p66 .set 0xdb [.VZ, .HZ, .WZ] .uint64,
   legacy "Paddusb_VX_WX" .p66 0xdc [.VX, .WX] .packed128UInt8,
   legacy "Paddusb_P_Q" .np 0xdc [.P, .Q] .packed64UInt8,
   vex "VEX_Vpaddusb_VX_HX_WX" .nds .v128 .p66 .any 0xdc [.VX, .HX, .WX] .packed128UInt8,
   vex "VEX_Vpaddusb_VY_HY_WY" .nds .v256 .p66 .any 0xdc [.VY, .HY, .WY] .packed256UInt8,
   fullMem "EVEX_Vpaddusb_VX_k1z_HX_WX" .nds .v128 .p66 .any 0xdc [.VX, .HX, .WX] .uint8,
   fullMem "EVEX_Vpaddusb_VY_k1z_HY_WY" .nds .v256 .p66 .any 0xdc [.VY, .HY, .WY] .uint8,
   fullMem "EVEX_Vpaddusb_VZ_k1z_HZ_WZ" .nds .v512 .p66 .any 0xdc [.VZ, .HZ, .WZ] .uint8,
   legacy "Paddusw_VX_WX" .p66 0xdd [.VX, .WX] .packed128UInt16,
   legacy "Paddusw_P_Q" .np 0xdd [.P, .Q] .packed64UInt16,
   vex "VEX_Vpaddusw_VX_HX_WX" .nds .v128 .p66 .any 0xdd [.VX, .HX, .WX] .packed128UInt16,
   vex "VEX_Vpaddusw_VY_HY_WY" .nds .v256 .p66 .any 0xdd [.VY, .HY, .WY] .packed256UInt16,
   fullMem "EVEX_Vpaddusw_VX_k1z_HX_WX" .nds .v128 .p66 .any 0xdd [.VX, .HX, .WX] .uint16,
   fullMem "EVEX_Vpaddusw_VY_k1z_HY_WY" .nds .v256 .p66 .any 0xdd [.VY, .HY, .WY] .uint16,
   fullMem "EVEX_Vpaddusw_VZ_k1z_HZ_WZ" .nds .v512 .p66 .any 0xdd [.VZ, .HZ, .WZ] .uint16,
   legacy "Pmaxub_VX_WX" .p66 0xde [.VX, .WX] .packed128UInt8,
   legacy "Pmaxub_P_Q" .np 0xde [.P, .Q] .packed64UInt8,
   vex "VEX_Vpmaxub_VX_HX_WX" .nds .v128 .p66 .any 0xde [.VX, .HX, .WX] .packed128UInt8,
   vex "VEX_Vpmaxub_VY_HY_WY" .nds .v256 .p66 .any 0xde [.VY, .HY, .WY] .packed256UInt8,
   fullMem "EVEX_Vpmaxub_VX_k1z_HX_WX" .nds .v128 .p66 .any 0xde [.VX, .HX, .WX] .uint8,
   fullMem "EVEX_Vpmaxub_VY_k1z_HY_WY" .nds .v256 .p66 .any 0xde [.VY, .HY, .WY] .uint8,
   fullMem "EVEX_Vpmaxub_VZ_k1z_HZ_WZ" .nds .v512 .p66 .any 0xde [.VZ, .HZ, .WZ] .uint8,
   legacy "Pandn_VX_WX" .p66 0xdf [.VX, .WX] .packed128UInt64,
   legacy "Pandn_P_Q" .np 0xdf [.P, .Q] .uint64,
   vex "VEX_Vpandn_VX_HX_WX" .nds .v128 .p66 .any 0xdf [.VX, .HX, .WX] .packed128UInt64,
   vex "VEX_Vpandn_VY_HY_WY" .nds .v256 .p66 .any 0xdf [.VY, .HY, .WY] .packed256UInt64,
   full "EVEX_Vpandnd_VX_k1z_HX_WX_b" .nds .v128 .p66 .clear 0xdf [.VX, .HX, .WX] .uint32,
   full "EVEX_Vpandnd_VY_k1z_HY_WY_b" .nds .v256 .p66 .clear 0xdf [.VY, .HY, .WY] .uint32,
   full "EVEX_Vpandnd_VZ_k1z_HZ_WZ_b" .nds .v512 .p66 .clear 0xdf [.VZ, .HZ, .WZ] .uint32,
   full "EVEX_Vpandnq_VX_k1z_HX_WX_b" .nds .v128 .p66 .set 0xdf [.VX, .HX, .WX] .uint64,
   full "EVEX_Vpandnq_VY_k1z_HY_WY_b" .nds .v256 .p66 .set 0xdf [.VY, .HY, .WY] .uint64,
   full "EVEX_Vpandnq_VZ_k1z_HZ_WZ_b" .nds .v512 .p66 .set 0xdf [.VZ, .HZ, .WZ] .uint64]

end X86Decoder.Table
