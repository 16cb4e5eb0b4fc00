import X86Decoder.Form.Entry
import X86Decoder.Form.Vocabulary

/-!
# Opcodes E0 to EF of the 0F map
-/

namespace X86Decoder.Table

open Entry

/-- Opcodes E0 to EF of the 0F map. -/
def map0FE0 : List Entry := rows .map0F
  [legacy "Pavgb_VX_WX" .p66 0xe0 [.VX, .WX] .packed128UInt8,
   legacy "Pavgb_P_Q" .np 0xe0 [.P, .Q] .packed64UInt8,
   vex "VEX_Vpavgb_VX_HX_WX" .nds .v128 .p66 .any 0xe0 [.VX, .HX, .WX] .packed128UInt8,
   vex "VEX_Vpavgb_VY_HY_WY" .nds .v256 .p66 .any 0xe0 [.VY, .HY, .WY] .packed256UInt8,
   fullMem "EVEX_Vpavgb_VX_k1z_HX_WX" .nds .v128 .p66 .any 0xe0 [.VX, .HX, .WX] .uint8,
   fullMem "EVEX_Vpavgb_VY_k1z_HY_WY" .nds .v256 .p66 .any 0xe0 [.VY, .HY, .WY] .uint8,
   fullMem "EVEX_Vpavgb_VZ_k1z_HZ_WZ" .nds .v512 .p66 .any 0xe0 [.VZ, .HZ, .WZ] .uint8,
   legacy "Psraw_VX_WX" .p66 0xe1 [.VX, .WX] .packed128UInt64,
   legacy "Psraw_P_Q" .np 0xe1 [.P, .Q] .uint64,
   vex "VEX_Vpsraw_VX_HX_WX" .nds .v128 .p66 .any 0xe1 [.VX, .HX, .WX] .packed128UInt64,
   vex "VEX_Vpsraw_VY_HY_WX" .nds .v256 .p66 .any 0xe1 [.VY, .HY, .WX] .packed128UInt64,
   evex "EVEX_Vpsraw_VX_k1z_HX_WX" .nds .v128 .p66 .any 0xe1 [.VX, .HX, .WX] .packed128UInt64
     .mem128 k1z,
   evex "EVEX_Vpsraw_VY_k1z_HY_WX" .nds .v256 .p66 .any 0xe1 [.VY, .HY, .WX] .packed128UInt64
     .mem128 k1z,
   evex "EVEX_Vpsraw_VZ_k1z_HZ_WX" .nds .v512 .p66 .any 0xe1 [.VZ, .HZ, .WX] .packed128UInt64
     .mem128 k1z,
   legacy "Psrad_VX_WX" .p66 0xe2 [.VX, .WX] .packed128UInt64,
   legacy "Psrad_P_Q" .np 0xe2 [.P, .Q] .uint64,
   vex "VEX_Vpsrad_VX_HX_WX" .nds .v128 .p66 .any 0xe2 [.VX, .HX, .WX] .packed128UInt64,
   vex "VEX_Vpsrad_VY_HY_WX" .nds .v256 .p66 .any 0xe2 [.VY, .HY, .WX] .packed128UInt64,
   evex "EVEX_Vpsrad_VX_k1z_HX_WX" .nds .v128 .p66 .clear 0xe2 [.VX, .HX, .WX] .packed128UInt64
     .mem128 k1z,
   evex "EVEX_Vpsrad_VY_k1z_HY_WX" .nds .v256 .p66 .clear 0xe2 [.VY, .HY, .WX] .packed128UInt64
     .mem128 k1z,
   evex "EVEX_Vpsrad_VZ_k1z_HZ_WX" .nds .v512 .p66 .clear 0xe2 [.VZ, .HZ, .WX] .packed128UInt64
     .mem128 k1z,
   evex "EVEX_Vpsraq_VX_k1z_HX_WX" .nds .v128 .p66 .set 0xe2 [.VX, .HX, .WX] .packed128UInt64
     .mem128 k1z,
   evex "EVEX_Vpsraq_VY_k1z_HY_WX" .nds .v256 .p66 .set 0xe2 [.VY, .HY, .WX] .packed128UInt64
     .mem128 k1z,
   evex "EVEX_Vpsraq_VZ_k1z_HZ_WX" .nds .v512 .p66 .set 0xe2 [.VZ, .HZ, .WX] .packed128UInt64
     .mem128 k1z,
   legacy "Pavgw_VX_WX" .p66 0xe3 [.VX, .WX] .packed128UInt16,
   legacy "Pavgw_P_Q" .np 0xe3 [.P, .Q] .packed64UInt16,
   vex "VEX_Vpavgw_VX_HX_WX" .nds .v128 .p66 .any 0xe3 [.VX, .HX, .WX] .packed128UInt16,
   vex "VEX_Vpavgw_VY_HY_WY" .nds .v256 .p66 .any 0xe3 [.VY, .HY, .WY] .packed256UInt16,
   fullMem "EVEX_Vpavgw_VX_k1z_HX_WX" .nds .v128 .p66 .any 0xe3 [.VX, .HX, .WX] .uint16,
   fullMem "EVEX_Vpavgw_VY_k1z_HY_WY" .nds .v256 .p66 .any 0xe3 [.VY, .HY, .WY] .uint16,
   fullMem "EVEX_Vpavgw_VZ_k1z_HZ_WZ" .nds .v512 .p66 .any 0xe3 [.VZ, .HZ, .WZ] .uint16,
   legacy "Pmulhuw_VX_WX" .p66 0xe4 [.VX, .WX] .packed128UInt16,
   legacy "Pmulhuw_P_Q" .np 0xe4 [.P, .Q] .packed64UInt16,
   vex "VEX_Vpmulhuw_VX_HX_WX" .nds .v128 .p66 .any 0xe4 [.VX, .HX, .WX] .packed128UInt16,
   vex "VEX_Vpmulhuw_VY_HY_WY" .nds .v256 .p66 .any 0xe4 [.VY, .HY, .WY] .packed256UInt16,
   fullMem "EVEX_Vpmulhuw_VX_k1z_HX_WX" .nds .v128 .p66 .any 0xe4 [.VX, .HX, .WX] .uint16,
   fullMem "EVEX_Vpmulhuw_VY_k1z_HY_WY" .nds .v256 .p66 .any 0xe4 [.VY, .HY, .WY] .uint16,
   fullMem "EVEX_Vpmulhuw_VZ_k1z_HZ_WZ" .nds .v512 .p66 .any 0xe4 [.VZ, .HZ, .WZ] .uint16,
   legacy "Pmulhw_VX_WX" .p66 0xe5 [.VX, .WX] .packed128Int16,
   legacy "Pmulhw_P_Q" .np 0xe5 [.P, .Q] .packed64Int16,
   vex "VEX_Vpmulhw_VX_HX_WX" .nds .v128 .p66 .any 0xe5 [.VX, .HX, .WX] .packed128Int16,
   vex "VEX_Vpmulhw_VY_HY_WY" .nds .v256 .p66 .any 0xe5 [.VY, .HY, .WY] .packed256Int16,
   fullMem "EVEX_Vpmulhw_VX_k1z_HX_WX" .nds .v128 .p66 .any 0xe5 [.VX, .HX, .WX] .int16,
   fullMem "EVEX_Vpmulhw_VY_k1z_HY_WY" .nds .v256 .p66 .any 0xe5 [.VY, .HY, .WY] .int16,
   fullMem "EVEX_Vpmulhw_VZ_k1z_HZ_WZ" .nds .v512 .p66 .any 0xe5 [.VZ, .HZ, .WZ] .int16,
   legacy "Cvttpd2dq_VX_WX" .p66 0xe6 [.VX, .WX] .packed128Float64,
   legacy "Cvtdq2pd_VX_WX" .pF3 0xe6 [.VX, .WX] .packed64Int32,
   legacy "Cvtpd2dq_VX_WX" .pF2 0xe6 [.VX, .WX] .packed128Float64,
   vex "VEX_Vcvttpd2dq_VX_WX" .plain .v128 .p66 .any 0xe6 [.VX, .WX] .packed128Float64,
   vex "VEX_Vcvttpd2dq_VX_WY" .plain .v256 .p66 .any 0xe6 [.VX, .WY] .packed256Float64,
   vex "VEX_Vcvtdq2pd_VX_WX" .plain .v128 .pF3 .any 0xe6 [.VX, .WX] .packed64Int32,
   vex "VEX_Vcvtdq2pd_VY_WX" .plain .v256 .pF3 .any 0xe6 [.VY, .WX] .packed128Int32,
   vex "VEX_Vcvtpd2dq_VX_WX" .plain .v128 .pF2 .any 0xe6 [.VX, .WX] .packed128Float64,
   vex "VEX_Vcvtpd2dq_VX_WY" .plain .v256 .pF2 .any 0xe6 [.VX, .WY] .packed256Float64,
   full "EVEX_Vcvttpd2dq_VX_k1z_WX_b" .plain .v128 .p66 .set 0xe6 [.VX, .WX] .float64,
   full "EVEX_Vcvttpd2dq_VX_k1z_WY_b" .plain .v256 .p66 .set 0xe6 [.VX, .WY] .float64,
   full "EVEX_Vcvttpd2dq_VY_k1z_WZ_sae_b" .plain .v512 .p66 .set 0xe6 [.VY, .WZ] .float64 k1zbSae,
   evex "EVEX_Vcvtdq2pd_VX_k1z_WX_b" .plain .v128 .pF3 .clear 0xe6 [.VX, .WX] .packed64Int32
     .half128 k1zb .broadcast64Int32,
   evex "EVEX_Vcvtdq2pd_VY_k1z_WX_b" .plain .v256 .pF3 .clear 0xe6 [.VY, .WX] .packed128Int32
     .half256 k1zb .broadcast128Int32,
   evex "EVEX_Vcvtdq2pd_VZ_k1z_WY_b" .plain .v512 .pF3 .clear 0xe6 [.VZ, .WY] .packed256Int32
     .half512 k1zb .broadcast256Int32,
   full "EVEX_Vcvtqq2pd_VX_k1z_WX_b" .plain .v128 .pF3 .set 0xe6 [.VX, .WX] .int64,
   full "EVEX_Vcvtqq2pd_VY_k1z_WY_b" .plain .v256 .pF3 .set 0xe6 [.VY, .WY] .int64,
   full "EVEX_Vcvtqq2pd_VZ_k1z_WZ_er_b" .plain .v512 .pF3 .set 0xe6 [.VZ, .WZ] .int64 k1zbEr,
   full "EVEX_Vcvtpd2dq_VX_k1z_WX_b" .plain .v128 .pF2 .set 0xe6 [.VX, .WX] .float64,
   full "EVEX_Vcvtpd2dq_VX_k1z_WY_b" .plain .v256 .pF2 .set 0xe6 [.VX, .WY] .float64,
   full "EVEX_Vcvtpd2dq_VY_k1z_WZ_er_b" .plain .v512 .pF2 .set 0xe6 [.VY, .WZ] .float64 k1zbEr,
   legacy "Movntdq_M_VX" .p66 0xe7 [.M, .VX] .packed128Int32 .all mem,
   legacy "Movntq_M_P" .np 0xe7 [.M, .P] .packed64Int32 .all mem,
   vex "VEX_Vmovntdq_M_VX" .plain .v128 .p66 .any 0xe7 [.M, .VX] .packed128Int32 .all mem,
   vex "VEX_Vmovntdq_M_VY" .plain .v256 .p66 .any 0xe7 [.M, .VY] .packed256Int32 .all mem,
   fullMem "EVEX_Vmovntdq_M_VX" .plain .v128 .p66 .clear 0xe7 [.M, .VX] .int32 mem,
   fullMem "EVEX_Vmovntdq_M_VY" .plain .v256 .p66 .clear 0xe7 [.M, .VY] .int32 mem,
   fullMem "EVEX_Vmovntdq_M_VZ" .plain .v512 .p66 .clear 0xe7 [.M, .VZ] .int32 mem,
   legacy "Psubsb_VX_WX" .p66 0xe8 [.VX, .WX] .packed128Int8,
   legacy "Psubsb_P_Q" .np 0xe8 [.P, .Q] .packed64Int8,
   vex "VEX_Vpsubsb_VX_HX_WX" .nds .v128 .p66 .any 0xe8 [.VX, .HX, .WX] .packed128Int8,
   vex "VEX_Vpsubsb_VY_HY_WY" .nds .v256 .p66 .any 0xe8 [.VY, .HY, .WY] .packed256Int8,
   fullMem "EVEX_Vpsubsb_VX_k1z_HX_WX" .nds .v128 .p66 .any 0xe8 [.VX, .HX, .WX] .int8,
   fullMem "EVEX_Vpsubsb_VY_k1z_HY_WY" .nds .v256 .p66 .any 0xe8 [.VY, .HY, .WY] .int8,
   fullMem "EVEX_Vpsubsb_VZ_k1z_HZ_WZ" .nds .v512 .p66 .any 0xe8 [.VZ, .HZ, .WZ] .int8,
   legacy "Psubsw_VX_WX" .p66 0xe9 [.VX, .WX] .packed128Int16,
   legacy "Psubsw_P_Q" .np 0xe9 [.P, .Q] .packed64Int16,
   vex "VEX_Vpsubsw_VX_HX_WX" .nds .v128 .p66 .any 0xe9 [.VX, .HX, .WX] .packed128Int16,
   vex "VEX_Vpsubsw_VY_HY_WY" .nds .v256 .p66 .any 0xe9 [.VY, .HY, .WY] .packed256Int16,
   fullMem "EVEX_Vpsubsw_VX_k1z_HX_WX" .nds .v128 .p66 .any 0xe9 [.VX, .HX, .WX] .int16,
   fullMem "EVEX_Vpsubsw_VY_k1z_HY_WY" .nds .v256 .p66 .any 0xe9 [.VY, .HY, .WY] .int16,
   fullMem "EVEX_Vpsubsw_VZ_k1z_HZ_WZ" .nds .v512 .p66 .any 0xe9 [.VZ, .HZ, .WZ] .int16,
   legacy "Pminsw_VX_WX" .p66 0xea [.VX, .WX] .packed128Int16,
   legacy "Pminsw_P_Q" .np 0xea [.P, .Q] .packed64Int16,
   vex "VEX_Vpminsw_VX_HX_WX" .nds .v128 .p66 .any 0xea [.VX, .HX, .WX] .packed128Int16,
   vex "VEX_Vpminsw_VY_HY_WY" .nds .v256 .p66 .any 0xea [.VY, .HY, .WY] .packed256Int16,
   fullMem "EVEX_Vpminsw_VX_k1z_HX_WX" .nds .v128 .p66 .any 0xea [.VX, .HX, .WX] .int16,
   fullMem "EVEX_Vpminsw_VY_k1z_HY_WY" .nds .v256 .p66 .any 0xea [.VY, .HY, .WY] .int16,
   fullMem "EVEX_Vpminsw_VZ_k1z_HZ_WZ" .nds .v512 .p66 .any 0xea [.VZ, .HZ, .WZ] .int16,
   legacy "Por_VX_WX" .p66 0xeb [.VX, .WX] .packed128UInt64,
   legacy "Por_P_Q" .np 0xeb [.P, .Q] .uint64,
   vex "VEX_Vpor_VX_HX_WX" .nds .v128 .p66 .any 0xeb [.VX, .HX, .WX] .packed128UInt64,
   vex "VEX_Vpor_VY_HY_WY" .nds .v256 .p66 .any 0xeb [.VY, .HY, .WY] .packed256UInt64,
   full "EVEX_Vpord_VX_k1z_HX_WX_b" .nds .v128 .p66 .clear 0xeb [.VX, .HX, .WX] .uint32,
   full "EVEX_Vpord_VY_k1z_HY_WY_b" .nds .v256 .p66 .clear 0xeb [.VY, .HY, .WY] .uint32,
   full "EVEX_Vpord_VZ_k1z_HZ_WZ_b" .nds .v512 .p66 .clear 0xeb [.VZ, .HZ, .WZ] .uint32,
   full "EVEX_Vporq_VX_k1z_HX_WX_b" .nds .v128 .p66 .set 0xeb [.VX, .HX, .WX] .uint64,
   full "EVEX_Vporq_VY_k1z_HY_WY_b" .nds .v256 .p66 .set 0xeb [.VY, .HY, .WY] .uint64,
   full "EVEX_Vporq_VZ_k1z_HZ_WZ_b" .nds .v512 .p66 .set 0xeb [.VZ, .HZ, .WZ] .uint64,
   legacy "Paddsb_VX_WX" .p66 0xec [.VX, .WX] .packed128Int8,
   legacy "Paddsb_P_Q" .np 0xec [.P, .Q] .packed64Int8,
   vex "VEX_Vpaddsb_VX_HX_WX" .nds .v128 .p66 .any 0xec [.VX, .HX, .WX] .packed128Int8,
   vex "VEX_Vpaddsb_VY_HY_WY" .nds .v256 .p66 .any 0xec [.VY, .HY, .WY] .packed256Int8,
   fullMem "EVEX_Vpaddsb_VX_k1z_HX_WX" .nds .v128 .p66 .any 0xec [.VX, .HX, .WX] .int8,
   fullMem "EVEX_Vpaddsb_VY_k1z_HY_WY" .nds .v256 .p66 .any 0xec [.VY, .HY, .WY] .int8,
   fullMem "EVEX_Vpaddsb_VZ_k1z_HZ_WZ" .nds .v512 .p66 .any 0xec [.VZ, .HZ, .WZ] .int8,
   legacy "Paddsw_VX_WX" .p66 0xed [.VX, .WX] .packed128Int16,
   legacy "Paddsw_P_Q" .np 0xed [.P, .Q] .packed64Int16,
   vex "VEX_Vpaddsw_VX_HX_WX" .nds .v128 .p66 .any 0xed [.VX, .HX, .WX] .packed128Int16,
   vex "VEX_Vpaddsw_VY_HY_WY" .nds .v256 .p66 .any 0xed [.VY, .HY, .WY] .packed256Int16,
   fullMem "EVEX_Vpaddsw_VX_k1z_HX_WX" .nds .v128 .p66 .any 0xed [.VX, .HX, .WX] .int16,
   fullMem "EVEX_Vpaddsw_VY_k1z_HY_WY" .nds .v256 .p66 .any 0xed [.VY, .HY, .WY] .int16,
   fullMem "EVEX_Vpaddsw_VZ_k1z_HZ_WZ" .nds .v512 .p66 .any 0xed [.VZ, .HZ, .WZ] .int16,
   legacy "Pmaxsw_VX_WX" .p66 0xee [.VX, .WX] .packed128Int16,
   legacy "Pmaxsw_P_Q" .np 0xee [.P, .Q] .packed64Int16,
   vex "VEX_Vpmaxsw_VX_HX_WX" .nds .v128 .p66 .any 0xee [.VX, .HX, .WX] .packed128Int16,
   vex "VEX_Vpmaxsw_VY_HY_WY" .nds .v256 .p66 .any 0xee [.VY, .HY, .WY] .packed256Int16,
   fullMem "EVEX_Vpmaxsw_VX_k1z_HX_WX" .nds .v128 .p66 .any 0xee [.VX, .HX, .WX] .int16,
   fullMem "EVEX_Vpmaxsw_VY_k1z_HY_WY" .nds .v256 .p66 .any 0xee [.VY, .HY, .WY] .int16,
   fullMem "EVEX_Vpmaxsw_VZ_k1z_HZ_WZ" .nds .v512 .p66 .any 0xee [.VZ, .HZ, .WZ] .int16,
   legacy "Pxor_VX_WX" .p66 0xef [.VX, .WX] .packed128UInt64,
   legacy "Pxor_P_Q" .np 0xef [.P, .Q] .uint64,
   vex "VEX_Vpxor_VX_HX_WX" .nds .v128 .p66 .any 0xef [.VX, .HX, .WX] .packed128UInt64,
   vex "VEX_Vpxor_VY_HY_WY" .nds .v256 .p66 .any 0xef [.VY, .HY, .WY] .packed256UInt64,
   full "EVEX_Vpxord_VX_k1z_HX_WX_b" .nds .v128 .p66 .clear 0xef [.VX, .HX, .WX] .uint32,
   full "EVEX_Vpxord_VY_k1z_HY_WY_b" .nds .v256 .p66 .clear 0xef [.VY, .HY, .WY] .uint32,
   full "EVEX_Vpxord_VZ_k1z_HZ_WZ_b" .nds .v512 .p66 .clear 0xef [.VZ, .HZ, .WZ] .uint32,
   full "EVEX_Vpxorq_VX_k1z_HX_WX_b" .nds .v128 .p66 .set 0xef [.VX, .HX, .WX] .uint64,
   full "EVEX_Vpxorq_VY_k1z_HY_WY_b" .nds .v256 .p66 .set 0xef [.VY, .HY, .WY] .uint64,
   full "EVEX_Vpxorq_VZ_k1z_HZ_WZ_b" .nds .v512 .p66 .set 0xef [.VZ, .HZ, .WZ] .uint64]

end X86Decoder.Table
