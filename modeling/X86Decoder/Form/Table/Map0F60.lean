import X86Decoder.Form.Entry
import X86Decoder.Form.Vocabulary

/-!
# Opcodes 60 to 6F of the 0F map
-/

namespace X86Decoder.Table

open Entry

/-- Opcodes 60 to 6F of the 0F map. -/
def map0F60 : List Entry := rows .map0F
  [legacy "Punpcklbw_VX_WX" .p66 0x60 [.VX, .WX] .packed128Int8,
   legacy "Punpcklbw_P_Q" .np 0x60 [.P, .Q] .packed32Int8,
   vex "VEX_Vpunpcklbw_VX_HX_WX" .nds .v128 .p66 .any 0x60 [.VX, .HX, .WX] .packed128Int8,
   vex "VEX_Vpunpcklbw_VY_HY_WY" .nds .v256 .p66 .any 0x60 [.VY, .HY, .WY] .packed256Int8,
   fullMem "EVEX_Vpunpcklbw_VX_k1z_HX_WX" .nds .v128 .p66 .any 0x60 [.VX, .HX, .WX] .int8,
   fullMem "EVEX_Vpunpcklbw_VY_k1z_HY_WY" .nds .v256 .p66 .any 0x60 [.VY, .HY, .WY] .int8,
   fullMem "EVEX_Vpunpcklbw_VZ_k1z_HZ_WZ" .nds .v512 .p66 .any 0x60 [.VZ, .HZ, .WZ] .int8,
   legacy "Punpcklwd_VX_WX" .p66 0x61 [.VX, .WX] .packed128Int16,
   legacy "Punpcklwd_P_Q" .np 0x61 [.P, .Q] .packed32Int16,
   vex "VEX_Vpunpcklwd_VX_HX_WX" .nds .v128 .p66 .any 0x61 [.VX, .HX, .WX] .packed128Int16,
   vex "VEX_Vpunpcklwd_VY_HY_WY" .nds .v256 .p66 .any 0x61 [.VY, .HY, .WY] .packed256Int16,
   fullMem "EVEX_Vpunpcklwd_VX_k1z_HX_WX" .nds .v128 .p66 .any 0x61 [.VX, .HX, .WX] .int16,
   fullMem "EVEX_Vpunpcklwd_VY_k1z_HY_WY" .nds .v256 .p66 .any 0x61 [.VY, .HY, .WY] .int16,
   fullMem "EVEX_Vpunpcklwd_VZ_k1z_HZ_WZ" .nds .v512 .p66 .any 0x61 [.VZ, .HZ, .WZ] .int16,
   legacy "Punpckldq_VX_WX" .p66 0x62 [.VX, .WX] .packed128Int32,
   legacy "Punpckldq_P_Q" .np 0x62 [.P, .Q] .int32,
   vex "VEX_Vpunpckldq_VX_HX_WX" .nds .v128 .p66 .any 0x62 [.VX, .HX, .WX] .packed128Int32,
   vex "VEX_Vpunpckldq_VY_HY_WY" .nds .v256 .p66 .any 0x62 [.VY, .HY, .WY] .packed256Int32,
   full "EVEX_Vpunpckldq_VX_k1z_HX_WX_b" .nds .v128 .p66 .clear 0x62 [.VX, .HX, .WX] .int32,
   full "EVEX_Vpunpckldq_VY_k1z_HY_WY_b" .nds .v256 .p66 .clear 0x62 [.VY, .HY, .WY] .int32,
   full "EVEX_Vpunpckldq_VZ_k1z_HZ_WZ_b" .nds .v512 .p66 .clear 0x62 [.VZ, .HZ, .WZ] .int32,
   legacy "Packsswb_VX_WX" .p66 0x63 [.VX, .WX] .packed128Int16,
   legacy "Packsswb_P_Q" .np 0x63 [.P, .Q] .packed64Int16,
   vex "VEX_Vpacksswb_VX_HX_WX" .nds .v128 .p66 .any 0x63 [.VX, .HX, .WX] .packed128Int16,
   vex "VEX_Vpacksswb_VY_HY_WY" .nds .v256 .p66 .any 0x63 [.VY, .HY, .WY] .packed256Int16,
   fullMem "EVEX_Vpacksswb_VX_k1z_HX_WX" .nds .v128 .p66 .any 0x63 [.VX, .HX, .WX] .int16,
   fullMem "EVEX_Vpacksswb_VY_k1z_HY_WY" .nds .v256 .p66 .any 0x63 [.VY, .HY, .WY] .int16,
   fullMem "EVEX_Vpacksswb_VZ_k1z_HZ_WZ" .nds .v512 .p66 .any 0x63 [.VZ, .HZ, .WZ] .int16,
   legacy "Pcmpgtb_VX_WX" .p66 0x64 [.VX, .WX] .packed128Int8,
   legacy "Pcmpgtb_P_Q" .np 0x64 [.P, .Q] .packed64Int8,
   vex "VEX_Vpcmpgtb_VX_HX_WX" .nds .v128 .p66 .any 0x64 [.VX, .HX, .WX] .packed128Int8,
   vex "VEX_Vpcmpgtb_VY_HY_WY" .nds .v256 .p66 .any 0x64 [.VY, .HY, .WY] .packed256Int8,
   fullMem "EVEX_Vpcmpgtb_VK_k1_HX_WX" .nds .v128 .p66 .any 0x64 [.VK, .HX, .WX] .int8 k1,
   fullMem "EVEX_Vpcmpgtb_VK_k1_HY_WY" .nds .v256 .p66 .any 0x64 [.VK, .HY, .WY] .int8 k1,
   fullMem "EVEX_Vpcmpgtb_VK_k1_HZ_WZ" .nds .v512 .p66 .any 0x64 [.VK, .HZ, .WZ] .int8 k1,
   legacy "Pcmpgtw_VX_WX" .p66 0x65 [.VX, .WX] .packed128Int16,
   legacy "Pcmpgtw_P_Q" .np 0x65 [.P, .Q] .packed64Int16,
   vex "VEX_Vpcmpgtw_VX_HX_WX" .nds .v128 .p66 .any 0x65 [.VX, .HX, .WX] .packed128Int16,
   vex "VEX_Vpcmpgtw_VY_HY_WY" .nds .v256 .p66 .any 0x65 [.VY, .HY, .WY] .packed256Int16,
   fullMem "EVEX_Vpcmpgtw_VK_k1_HX_WX" .nds .v128 .p66 .any 0x65 [.VK, .HX, .WX] .int16 k1,
   fullMem "EVEX_Vpcmpgtw_VK_k1_HY_WY" .nds .v256 .p66 .any 0x65 [.VK, .HY, .WY] .int16 k1,
   fullMem "EVEX_Vpcmpgtw_VK_k1_HZ_WZ" .nds .v512 .p66 .any 0x65 [.VK, .HZ, .WZ] .int16 k1,
   legacy "Pcmpgtd_VX_WX" .p66 0x66 [.VX, .WX] .packed128Int32,
   legacy "Pcmpgtd_P_Q" .np 0x66 [.P, .Q] .packed64Int32,
   vex "VEX_Vpcmpgtd_VX_HX_WX" .nds .v128 .p66 .any 0x66 [.VX, .HX, .WX] .packed128Int32,
   vex "VEX_Vpcmpgtd_VY_HY_WY" .nds .v256 .p66 .any 0x66 [.VY, .HY, .WY] .packed256Int32,
   full "EVEX_Vpcmpgtd_VK_k1_HX_WX_b" .nds .v128 .p66 .clear 0x66 [.VK, .HX, .WX] .int32 k1b,
   full "EVEX_Vpcmpgtd_VK_k1_HY_WY_b" .nds .v256 .p66 .clear 0x66 [.VK, .HY, .WY] .int32 k1b,
   full "EVEX_Vpcmpgtd_VK_k1_HZ_WZ_b" .nds .v512 .p66 .clear 0x66 [.VK, .HZ, .WZ] .int32 k1b,
   legacy "Packuswb_VX_WX" .p66 0x67 [.VX, .WX] .packed128Int16,
   legacy "Packuswb_P_Q" .np 0x67 [.P, .Q] .packed64Int16,
   vex "VEX_Vpackuswb_VX_HX_WX" .nds .v128 .p66 .any 0x67 [.VX, .HX, .WX] .packed128Int16,
   vex "VEX_Vpackuswb_VY_HY_WY" .nds .v256 .p66 .any 0x67 [.VY, .HY, .WY] .packed256Int16,
   fullMem "EVEX_Vpackuswb_VX_k1z_HX_WX" .nds .v128 .p66 .any 0x67 [.VX, .HX, .WX] .int16,
   fullMem "EVEX_Vpackuswb_VY_k1z_HY_WY" .nds .v256 .p66 .any 0x67 [.VY, .HY, .WY] .int16,
   fullMem "EVEX_Vpackuswb_VZ_k1z_HZ_WZ" .nds .v512 .p66 .any 0x67 [.VZ, .HZ, .WZ] .int16,
   legacy "Punpckhbw_VX_WX" .p66 0x68 [.VX, .WX] .packed128Int8,
   legacy "Punpckhbw_P_Q" .np 0x68 [.P, .Q] .packed64Int8,
   vex "VEX_Vpunpckhbw_VX_HX_WX" .nds .v128 .p66 .any 0x68 [.VX, .HX, .WX] .packed128Int8,
   vex "VEX_Vpunpckhbw_VY_HY_WY" .nds .v256 .p66 .any 0x68 [.VY, .HY, .WY] .packed256Int8,
   fullMem "EVEX_Vpunpckhbw_VX_k1z_HX_WX" .nds .v128 .p66 .any 0x68 [.VX, .HX, .WX] .int8,
   fullMem "EVEX_Vpunpckhbw_VY_k1z_HY_WY" .nds .v256 .p66 .any 0x68 [.VY, .HY, .WY] .int8,
   fullMem "EVEX_Vpunpckhbw_VZ_k1z_HZ_WZ" .nds .v512 .p66 .any 0x68 [.VZ, .HZ, .WZ] .int8,
   legacy "Punpckhwd_VX_WX" .p66 0x69 [.VX, .WX] .packed128Int16,
   legacy "Punpckhwd_P_Q" .np 0x69 [.P, .Q] .packed64Int16,
   vex "VEX_Vpunpckhwd_VX_HX_WX" .nds .v128 .p66 .any 0x69 [.VX, .HX, .WX] .packed128Int16,
   vex "VEX_Vpunpckhwd_VY_HY_WY" .nds .v256 .p66 .any 0x69 [.VY, .HY, .WY] .packed256Int16,
   fullMem "EVEX_Vpunpckhwd_VX_k1z_HX_WX" .nds .v128 .p66 .any 0x69 [.VX, .HX, .WX] .int16,
   fullMem "EVEX_Vpunpckhwd_VY_k1z_HY_WY" .nds .v256 .p66 .any 0x69 [.VY, .HY, .WY] .int16,
   fullMem "EVEX_Vpunpckhwd_VZ_k1z_HZ_WZ" .nds .v512 .p66 .any 0x69 [.VZ, .HZ, .WZ] .int16,
   legacy "Punpckhdq_VX_WX" .p66 0x6a [.VX, .WX] .packed128Int32,
   legacy "Punpckhdq_P_Q" .np 0x6a [.P, .Q] .packed64Int32,
   vex "VEX_Vpunpckhdq_VX_HX_WX" .nds .v128 .p66 .any 0x6a [.VX, .HX, .WX] .packed128Int32,
   vex "VEX_Vpunpckhdq_VY_HY_WY" .nds .v256 .p66 .any 0x6a [.VY, .HY, .WY] .packed256Int32,
   full "EVEX_Vpunpckhdq_VX_k1z_HX_WX_b" .nds .v128 .p66 .clear 0x6a [.VX, .HX, .WX] .int32,
   full "EVEX_Vpunpckhdq_VY_k1z_HY_WY_b" .nds .v256 .p66 .clear 0x6a [.VY, .HY, .WY] .int32,
   full "EVEX_Vpunpckhdq_VZ_k1z_HZ_WZ_b" .nds .v512 .p66 .clear 0x6a [.VZ, .HZ, .WZ] .int32,
   legacy "Packssdw_VX_WX" .p66 0x6b [.VX, .WX] .packed128Int32,
   legacy "Packssdw_P_Q" .np 0x6b [.P, .Q] .packed64Int32,
   vex "VEX_Vpackssdw_VX_HX_WX" .nds .v128 .p66 .any 0x6b [.VX, .HX, .WX] .packed128Int32,
   vex "VEX_Vpackssdw_VY_HY_WY" .nds .v256 .p66 .any 0x6b [.VY, .HY, .WY] .packed256Int32,
   full "EVEX_Vpackssdw_VX_k1z_HX_WX_b" .nds .v128 .p66 .clear 0x6b [.VX, .HX, .WX] .int32,
   full "EVEX_Vpackssdw_VY_k1z_HY_WY_b" .nds .v256 .p66 .clear 0x6b [.VY, .HY, .WY] .int32,
   full "EVEX_Vpackssdw_VZ_k1z_HZ_WZ_b" .nds .v512 .p66 .clear 0x6b [.VZ, .HZ, .WZ] .int32,
   legacy "Punpcklqdq_VX_WX" .p66 0x6c [.VX, .WX] .packed128Int64,
   vex "VEX_Vpunpcklqdq_VX_HX_WX" .nds .v128 .p66 .any 0x6c [.VX, .HX, .WX] .packed128Int64,
   vex "VEX_Vpunpcklqdq_VY_HY_WY" .nds .v256 .p66 .any 0x6c [.VY, .HY, .WY] .packed256Int64,
   full "EVEX_Vpunpcklqdq_VX_k1z_HX_WX_b" .nds .v128 .p66 .set 0x6c [.VX, .HX, .WX] .int64,
   full "EVEX_Vpunpcklqdq_VY_k1z_HY_WY_b" .nds .v256 .p66 .set 0x6c [.VY, .HY, .WY] .int64,
   full "EVEX_Vpunpcklqdq_VZ_k1z_HZ_WZ_b" .nds .v512 .p66 .set 0x6c [.VZ, .HZ, .WZ] .int64,
   legacy "Punpckhqdq_VX_WX" .p66 0x6d [.VX, .WX] .packed128Int64,
   vex "VEX_Vpunpckhqdq_VX_HX_WX" .nds .v128 .p66 .any 0x6d [.VX, .HX, .WX] .packed128Int64,
   vex "VEX_Vpunpckhqdq_VY_HY_WY" .nds .v256 .p66 .any 0x6d [.VY, .HY, .WY] .packed256Int64,
   full "EVEX_Vpunpckhqdq_VX_k1z_HX_WX_b" .nds .v128 .p66 .set 0x6d [.VX, .HX, .WX] .int64,
   full "EVEX_Vpunpckhqdq_VY_k1z_HY_WY_b" .nds .v256 .p66 .set 0x6d [.VY, .HY, .WY] .int64,
   full "EVEX_Vpunpckhqdq_VZ_k1z_HZ_WZ_b" .nds .v512 .p66 .set 0x6d [.VZ, .HZ, .WZ] .int64,
   legacy "Movq_VX_Eq" .o64p66 0x6e [.VX, .Eq] .uint64 .only64,
   legacy "Movd_VX_Ed" .p66 0x6e [.VX, .Ed] .uint32,
   legacy "Movq_P_Eq" .o64 0x6e [.P, .Eq] .uint64 .only64,
   legacy "Movd_P_Ed" .np 0x6e [.P, .Ed] .uint32,
   vex "VEX_Vmovd_VX_Ed" .plain .v128 .p66 .clear 0x6e [.VX, .Ed] .uint32 .all [.wig32],
   vex "VEX_Vmovq_VX_Eq" .plain .v128 .p66 .set 0x6e [.VX, .Eq] .uint64 .only64,
   evex "EVEX_Vmovd_VX_Ed" .plain .v128 .p66 .clear 0x6e [.VX, .Ed] .uint32 .oneScalar [.wig32],
   evex "EVEX_Vmovq_VX_Eq" .plain .v128 .p66 .set 0x6e [.VX, .Eq] .uint64 .oneScalar [] .unknown
     .only64,
   legacy "Movdqa_VX_WX" .p66 0x6f [.VX, .WX] .packed128Int32,
   legacy "Movdqu_VX_WX" .pF3 0x6f [.VX, .WX] .packed128Int32,
   legacy "Movq_P_Q" .np 0x6f [.P, .Q] .packed64Int32,
   vex "VEX_Vmovdqa_VX_WX" .plain .v128 .p66 .any 0x6f [.VX, .WX] .packed128Int32,
   vex "VEX_Vmovdqa_VY_WY" .plain .v256 .p66 .any 0x6f [.VY, .WY] .packed256Int32,
   vex "VEX_Vmovdqu_VX_WX" .plain .v128 .pF3 .any 0x6f [.VX, .WX] .packed128Int32,
   vex "VEX_Vmovdqu_VY_WY" .plain .v256 .pF3 .any 0x6f [.VY, .WY] .packed256Int32,
   fullMem "EVEX_Vmovdqa32_VX_k1z_WX" .plain .v128 .p66 .clear 0x6f [.VX, .WX] .int32,
   fullMem "EVEX_Vmovdqa32_VY_k1z_WY" .plain .v256 .p66 .clear 0x6f [.VY, .WY] .int32,
   fullMem "EVEX_Vmovdqa32_VZ_k1z_WZ" .plain .v512 .p66 .clear 0x6f [.VZ, .WZ] .int32,
   fullMem "EVEX_Vmovdqa64_VX_k1z_WX" .plain .v128 .p66 .set 0x6f [.VX, .WX] .int32,
   fullMem "EVEX_Vmovdqa64_VY_k1z_WY" .plain .v256 .p66 .set 0x6f [.VY, .WY] .int32,
   fullMem "EVEX_Vmovdqa64_VZ_k1z_WZ" .plain .v512 .p66 .set 0x6f [.VZ, .WZ] .int32,
   fullMem "EVEX_Vmovdqu32_VX_k1z_WX" .plain .v128 .pF3 .clear 0x6f [.VX, .WX] .int32,
   fullMem "EVEX_Vmovdqu32_VY_k1z_WY" .plain .v256 .pF3 .clear 0x6f [.VY, .WY] .int32,
   fullMem "EVEX_Vmovdqu32_VZ_k1z_WZ" .plain .v512 .pF3 .clear 0x6f [.VZ, .WZ] .int32,
   fullMem "EVEX_Vmovdqu64_VX_k1z_WX" .plain .v128 .pF3 .set 0x6f [.VX, .WX] .int64,
   fullMem "EVEX_Vmovdqu64_VY_k1z_WY" .plain .v256 .pF3 .set 0x6f [.VY, .WY] .int64,
   fullMem "EVEX_Vmovdqu64_VZ_k1z_WZ" .plain .v512 .pF3 .set 0x6f [.VZ, .WZ] .int64,
   fullMem "EVEX_Vmovdqu8_VX_k1z_WX" .plain .v128 .pF2 .clear 0x6f [.VX, .WX] .int8,
   fullMem "EVEX_Vmovdqu8_VY_k1z_WY" .plain .v256 .pF2 .clear 0x6f [.VY, .WY] .int8,
   fullMem "EVEX_Vmovdqu8_VZ_k1z_WZ" .plain .v512 .pF2 .clear 0x6f [.VZ, .WZ] .int8,
   fullMem "EVEX_Vmovdqu16_VX_k1z_WX" .plain .v128 .pF2 .set 0x6f [.VX, .WX] .int16,
   fullMem "EVEX_Vmovdqu16_VY_k1z_WY" .plain .v256 .pF2 .set 0x6f [.VY, .WY] .int16,
   fullMem "EVEX_Vmovdqu16_VZ_k1z_WZ" .plain .v512 .pF2 .set 0x6f [.VZ, .WZ] .int16]

end X86Decoder.Table
