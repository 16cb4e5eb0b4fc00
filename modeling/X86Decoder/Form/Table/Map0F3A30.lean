import X86Decoder.Form.Entry
import X86Decoder.Form.Vocabulary

/-!
# Opcodes 30 to FF of the 0F3A map
-/

namespace X86Decoder.Table

open Entry

/-- Opcodes 30 to 3F of the 0F3A map. -/
def map0F3A30 : List Entry := rows .map0F3A
  [vex "VEX_Kshiftrw_VK_RK_Ib" .plain .l0 .p66 .set 0x30 [.VK, .RK, .Ib] .unknown .all reg,
   vex "VEX_Kshiftrb_VK_RK_Ib" .plain .l0 .p66 .clear 0x30 [.VK, .RK, .Ib] .unknown .all reg,
   vex "VEX_Kshiftrq_VK_RK_Ib" .plain .l0 .p66 .set 0x31 [.VK, .RK, .Ib] .unknown .all reg,
   vex "VEX_Kshiftrd_VK_RK_Ib" .plain .l0 .p66 .clear 0x31 [.VK, .RK, .Ib] .unknown .all reg,
   vex "VEX_Kshiftlw_VK_RK_Ib" .plain .l0 .p66 .set 0x32 [.VK, .RK, .Ib] .unknown .all reg,
   vex "VEX_Kshiftlb_VK_RK_Ib" .plain .l0 .p66 .clear 0x32 [.VK, .RK, .Ib] .unknown .all reg,
   vex "VEX_Kshiftlq_VK_RK_Ib" .plain .l0 .p66 .set 0x33 [.VK, .RK, .Ib] .unknown .all reg,
   vex "VEX_Kshiftld_VK_RK_Ib" .plain .l0 .p66 .clear 0x33 [.VK, .RK, .Ib] .unknown .all reg,
   vex "VEX_Vinserti128_VY_HY_WX_Ib" .nds .v256 .p66 .clear 0x38 [.VY, .HY, .WX, .Ib] .int128,
   evex "EVEX_Vinserti32x4_VY_k1z_HY_WX_Ib" .nds .v256 .p66 .clear 0x38 [.VY, .HY, .WX, .Ib]
     .packed128Int32 .four k1z,
   evex "EVEX_Vinserti32x4_VZ_k1z_HZ_WX_Ib" .nds .v512 .p66 .clear 0x38 [.VZ, .HZ, .WX, .Ib]
     .packed128Int32 .four k1z,
   evex "EVEX_Vinserti64x2_VY_k1z_HY_WX_Ib" .nds .v256 .p66 .set 0x38 [.VY, .HY, .WX, .Ib]
     .packed128Int64 .two k1z,
   evex "EVEX_Vinserti64x2_VZ_k1z_HZ_WX_Ib" .nds .v512 .p66 .set 0x38 [.VZ, .HZ, .WX, .Ib]
     .packed128Int64 .two k1z,
   vex "VEX_Vextracti128_WX_VY_Ib" .plain .v256 .p66 .clear 0x39 [.WX, .VY, .Ib] .int128,
   evex "EVEX_Vextracti32x4_WX_k1z_VY_Ib" .plain .v256 .p66 .clear 0x39 [.WX, .VY, .Ib]
     .packed128Int32 .four k1z,
   evex "EVEX_Vextracti32x4_WX_k1z_VZ_Ib" .plain .v512 .p66 .clear 0x39 [.WX, .VZ, .Ib]
     .packed128Int32 .four k1z,
   evex "EVEX_Vextracti64x2_WX_k1z_VY_Ib" .plain .v256 .p66 .set 0x39 [.WX, .VY, .Ib]
     .packed128Int64 .two k1z,
   evex "EVEX_Vextracti64x2_WX_k1z_VZ_Ib" .plain .v512 .p66 .set 0x39 [.WX, .VZ, .Ib]
     .packed128Int64 .two k1z,
   evex "EVEX_Vinserti32x8_VZ_k1z_HZ_WY_Ib" .nds .v512 .p66 .clear 0x3a [.VZ, .HZ, .WY, .Ib]
     .packed256Int32 .eight k1z,
   evex "EVEX_Vinserti64x4_VZ_k1z_HZ_WY_Ib" .nds .v512 .p66 .set 0x3a [.VZ, .HZ, .WY, .Ib]
     .packed256Int64 .four k1z,
   evex "EVEX_Vextracti32x8_WY_k1z_VZ_Ib" .plain .v512 .p66 .clear 0x3b [.WY, .VZ, .Ib]
     .packed256Int32 .eight k1z,
   evex "EVEX_Vextracti64x4_WY_k1z_VZ_Ib" .plain .v512 .p66 .set 0x3b [.WY, .VZ, .Ib]
     .packed256Int64 .four k1z,
   fullMem "EVEX_Vpcmpub_VK_k1_HX_WX_Ib" .nds .v128 .p66 .clear 0x3e [.VK, .HX, .WX, .Ib] .uint8 k1,
   fullMem "EVEX_Vpcmpub_VK_k1_HY_WY_Ib" .nds .v256 .p66 .clear 0x3e [.VK, .HY, .WY, .Ib] .uint8 k1,
   fullMem "EVEX_Vpcmpub_VK_k1_HZ_WZ_Ib" .nds .v512 .p66 .clear 0x3e [.VK, .HZ, .WZ, .Ib] .uint8 k1,
   fullMem "EVEX_Vpcmpuw_VK_k1_HX_WX_Ib" .nds .v128 .p66 .set 0x3e [.VK, .HX, .WX, .Ib] .uint16 k1,
   fullMem "EVEX_Vpcmpuw_VK_k1_HY_WY_Ib" .nds .v256 .p66 .set 0x3e [.VK, .HY, .WY, .Ib] .uint16 k1,
   fullMem "EVEX_Vpcmpuw_VK_k1_HZ_WZ_Ib" .nds .v512 .p66 .set 0x3e [.VK, .HZ, .WZ, .Ib] .uint16 k1,
   fullMem "EVEX_Vpcmpb_VK_k1_HX_WX_Ib" .nds .v128 .p66 .clear 0x3f [.VK, .HX, .WX, .Ib] .int8 k1,
   fullMem "EVEX_Vpcmpb_VK_k1_HY_WY_Ib" .nds .v256 .p66 .clear 0x3f [.VK, .HY, .WY, .Ib] .int8 k1,
   fullMem "EVEX_Vpcmpb_VK_k1_HZ_WZ_Ib" .nds .v512 .p66 .clear 0x3f [.VK, .HZ, .WZ, .Ib] .int8 k1,
   fullMem "EVEX_Vpcmpw_VK_k1_HX_WX_Ib" .nds .v128 .p66 .set 0x3f [.VK, .HX, .WX, .Ib] .int16 k1,
   fullMem "EVEX_Vpcmpw_VK_k1_HY_WY_Ib" .nds .v256 .p66 .set 0x3f [.VK, .HY, .WY, .Ib] .int16 k1,
   fullMem "EVEX_Vpcmpw_VK_k1_HZ_WZ_Ib" .nds .v512 .p66 .set 0x3f [.VK, .HZ, .WZ, .Ib] .int16 k1]

/-- Opcodes 40 to 4F of the 0F3A map. -/
def map0F3A40 : List Entry := rows .map0F3A
  [legacy "Dpps_VX_WX_Ib" .p66 0x40 [.VX, .WX, .Ib] .packed128Float32,
   vex "VEX_Vdpps_VX_HX_WX_Ib" .nds .v128 .p66 .any 0x40 [.VX, .HX, .WX, .Ib] .packed128Float32,
   vex "VEX_Vdpps_VY_HY_WY_Ib" .nds .v256 .p66 .any 0x40 [.VY, .HY, .WY, .Ib] .packed256Float32,
   legacy "Dppd_VX_WX_Ib" .p66 0x41 [.VX, .WX, .Ib] .packed128Float64,
   vex "VEX_Vdppd_VX_HX_WX_Ib" .nds .v128 .p66 .any 0x41 [.VX, .HX, .WX, .Ib] .packed128Float64,
   legacy "Mpsadbw_VX_WX_Ib" .p66 0x42 [.VX, .WX, .Ib] .packed128UInt8,
   vex "VEX_Vmpsadbw_VX_HX_WX_Ib" .nds .v128 .p66 .any 0x42 [.VX, .HX, .WX, .Ib] .packed128UInt8,
   vex "VEX_Vmpsadbw_VY_HY_WY_Ib" .nds .v256 .p66 .any 0x42 [.VY, .HY, .WY, .Ib] .packed256UInt8,
   fullMem "EVEX_Vdbpsadbw_VX_k1z_HX_WX_Ib" .nds .v128 .p66 .clear 0x42 [.VX, .HX, .WX, .Ib] .uint8,
   fullMem "EVEX_Vdbpsadbw_VY_k1z_HY_WY_Ib" .nds .v256 .p66 .clear 0x42 [.VY, .HY, .WY, .Ib] .uint8,
   fullMem "EVEX_Vdbpsadbw_VZ_k1z_HZ_WZ_Ib" .nds .v512 .p66 .clear 0x42 [.VZ, .HZ, .WZ, .Ib] .uint8,
   full "EVEX_Vshufi32x4_VY_k1z_HY_WY_Ib_b" .nds .v256 .p66 .clear 0x43 [.VY, .HY, .WY, .Ib] .int32,
   full "EVEX_Vshufi32x4_VZ_k1z_HZ_WZ_Ib_b" .nds .v512 .p66 .clear 0x43 [.VZ, .HZ, .WZ, .Ib] .int32,
   full "EVEX_Vshufi64x2_VY_k1z_HY_WY_Ib_b" .nds .v256 .p66 .set 0x43 [.VY, .HY, .WY, .Ib] .int64,
   full "EVEX_Vshufi64x2_VZ_k1z_HZ_WZ_Ib_b" .nds .v512 .p66 .set 0x43 [.VZ, .HZ, .WZ, .Ib] .int64,
   legacy "Pclmulqdq_VX_WX_Ib" .p66 0x44 [.VX, .WX, .Ib] .packed128UInt64,
   vex "VEX_Vpclmulqdq_VX_HX_WX_Ib" .nds .v128 .p66 .any 0x44 [.VX, .HX, .WX, .Ib] .packed128UInt64,
   vex "VEX_Vperm2i128_VY_HY_WY_Ib" .nds .v256 .p66 .clear 0x46 [.VY, .HY, .WY, .Ib]
     .packed256Int128,
   vex "VEX_Vblendvps_VX_HX_WX_Is4X" .nds .v128 .p66 .clear 0x4a [.VX, .HX, .WX, .Is4X]
     .packed128Float32,
   vex "VEX_Vblendvps_VY_HY_WY_Is4Y" .nds .v256 .p66 .clear 0x4a [.VY, .HY, .WY, .Is4Y]
     .packed256Float32,
   vex "VEX_Vblendvpd_VX_HX_WX_Is4X" .nds .v128 .p66 .clear 0x4b [.VX, .HX, .WX, .Is4X]
     .packed128Float64,
   vex "VEX_Vblendvpd_VY_HY_WY_Is4Y" .nds .v256 .p66 .clear 0x4b [.VY, .HY, .WY, .Is4Y]
     .packed256Float64,
   vex "VEX_Vpblendvb_VX_HX_WX_Is4X" .nds .v128 .p66 .clear 0x4c [.VX, .HX, .WX, .Is4X]
     .packed128Int8,
   vex "VEX_Vpblendvb_VY_HY_WY_Is4Y" .nds .v256 .p66 .clear 0x4c [.VY, .HY, .WY, .Is4Y]
     .packed256Int8]

/-- Opcodes 50 to 5F of the 0F3A map. -/
def map0F3A50 : List Entry := rows .map0F3A
  [full "EVEX_Vrangeps_VX_k1z_HX_WX_Ib_b" .nds .v128 .p66 .clear 0x50 [.VX, .HX, .WX, .Ib] .float32,
   full "EVEX_Vrangeps_VY_k1z_HY_WY_Ib_b" .nds .v256 .p66 .clear 0x50 [.VY, .HY, .WY, .Ib] .float32,
   full "EVEX_Vrangeps_VZ_k1z_HZ_WZ_Ib_sae_b" .nds .v512 .p66 .clear 0x50 [.VZ, .HZ, .WZ, .Ib]
     .float32 k1zbSae,
   full "EVEX_Vrangepd_VX_k1z_HX_WX_Ib_b" .nds .v128 .p66 .set 0x50 [.VX, .HX, .WX, .Ib] .float64,
   full "EVEX_Vrangepd_VY_k1z_HY_WY_Ib_b" .nds .v256 .p66 .set 0x50 [.VY, .HY, .WY, .Ib] .float64,
   full "EVEX_Vrangepd_VZ_k1z_HZ_WZ_Ib_sae_b" .nds .v512 .p66 .set 0x50 [.VZ, .HZ, .WZ, .Ib]
     .float64 k1zbSae,
   evex "EVEX_Vrangess_VX_k1z_HX_WX_Ib_sae" .nds .lig .p66 .clear 0x51 [.VX, .HX, .WX, .Ib]
     .float32 .oneScalar k1zSae,
   evex "EVEX_Vrangesd_VX_k1z_HX_WX_Ib_sae" .nds .lig .p66 .set 0x51 [.VX, .HX, .WX, .Ib] .float64
     .oneScalar k1zSae,
   full "EVEX_Vfixupimmps_VX_k1z_HX_WX_Ib_b" .nds .v128 .p66 .clear 0x54 [.VX, .HX, .WX, .Ib]
     .float32,
   full "EVEX_Vfixupimmps_VY_k1z_HY_WY_Ib_b" .nds .v256 .p66 .clear 0x54 [.VY, .HY, .WY, .Ib]
     .float32,
   full "EVEX_Vfixupimmps_VZ_k1z_HZ_WZ_Ib_sae_b" .nds .v512 .p66 .clear 0x54 [.VZ, .HZ, .WZ, .Ib]
     .float32 k1zbSae,
   full "EVEX_Vfixupimmpd_VX_k1z_HX_WX_Ib_b" .nds .v128 .p66 .set 0x54 [.VX, .HX, .WX, .Ib]
     .float64,
   full "EVEX_Vfixupimmpd_VY_k1z_HY_WY_Ib_b" .nds .v256 .p66 .set 0x54 [.VY, .HY, .WY, .Ib]
     .float64,
   full "EVEX_Vfixupimmpd_VZ_k1z_HZ_WZ_Ib_sae_b" .nds .v512 .p66 .set 0x54 [.VZ, .HZ, .WZ, .Ib]
     .float64 k1zbSae,
   evex "EVEX_Vfixupimmss_VX_k1z_HX_WX_Ib_sae" .nds .lig .p66 .clear 0x55 [.VX, .HX, .WX, .Ib]
     .float32 .oneScalar k1zSae,
   evex "EVEX_Vfixupimmsd_VX_k1z_HX_WX_Ib_sae" .nds .lig .p66 .set 0x55 [.VX, .HX, .WX, .Ib]
     .float64 .oneScalar k1zSae,
   full "EVEX_Vreduceps_VX_k1z_WX_Ib_b" .plain .v128 .p66 .clear 0x56 [.VX, .WX, .Ib] .float32,
   full "EVEX_Vreduceps_VY_k1z_WY_Ib_b" .plain .v256 .p66 .clear 0x56 [.VY, .WY, .Ib] .float32,
   full "EVEX_Vreduceps_VZ_k1z_WZ_Ib_sae_b" .plain .v512 .p66 .clear 0x56 [.VZ, .WZ, .Ib] .float32
     k1zbSae,
   full "EVEX_Vreducepd_VX_k1z_WX_Ib_b" .plain .v128 .p66 .set 0x56 [.VX, .WX, .Ib] .float64,
   full "EVEX_Vreducepd_VY_k1z_WY_Ib_b" .plain .v256 .p66 .set 0x56 [.VY, .WY, .Ib] .float64,
   full "EVEX_Vreducepd_VZ_k1z_WZ_Ib_sae_b" .plain .v512 .p66 .set 0x56 [.VZ, .WZ, .Ib] .float64
     k1zbSae,
   evex "EVEX_Vreducess_VX_k1z_HX_WX_Ib_sae" .nds .lig .p66 .clear 0x57 [.VX, .HX, .WX, .Ib]
     .float32 .oneScalar k1zSae,
   evex "EVEX_Vreducesd_VX_k1z_HX_WX_Ib_sae" .nds .lig .p66 .set 0x57 [.VX, .HX, .WX, .Ib] .float64
     .oneScalar k1zSae]

/-- Opcodes 60 to 6F of the 0F3A map. -/
def map0F3A60 : List Entry := rows .map0F3A
  [legacy "Pcmpestrm_VX_WX_Ib" .p66 0x60 [.VX, .WX, .Ib] .packed128UInt8,
   vex "VEX_Vpcmpestrm_VX_WX_Ib" .plain .v128 .p66 .any 0x60 [.VX, .WX, .Ib] .packed128UInt8,
   legacy "Pcmpestri_VX_WX_Ib" .p66 0x61 [.VX, .WX, .Ib] .packed128UInt8,
   vex "VEX_Vpcmpestri_VX_WX_Ib" .plain .v128 .p66 .any 0x61 [.VX, .WX, .Ib] .packed128UInt8,
   legacy "Pcmpistrm_VX_WX_Ib" .p66 0x62 [.VX, .WX, .Ib] .packed128UInt8,
   vex "VEX_Vpcmpistrm_VX_WX_Ib" .plain .v128 .p66 .any 0x62 [.VX, .WX, .Ib] .packed128UInt8,
   legacy "Pcmpistri_VX_WX_Ib" .p66 0x63 [.VX, .WX, .Ib] .packed128UInt8,
   vex "VEX_Vpcmpistri_VX_WX_Ib" .plain .v128 .p66 .any 0x63 [.VX, .WX, .Ib] .packed128UInt8,
   full "EVEX_Vfpclassps_VK_k1_WX_Ib_b" .plain .v128 .p66 .clear 0x66 [.VK, .WX, .Ib] .float32 k1b,
   full "EVEX_Vfpclassps_VK_k1_WY_Ib_b" .plain .v256 .p66 .clear 0x66 [.VK, .WY, .Ib] .float32 k1b,
   full "EVEX_Vfpclassps_VK_k1_WZ_Ib_b" .plain .v512 .p66 .clear 0x66 [.VK, .WZ, .Ib] .float32 k1b,
   full "EVEX_Vfpclasspd_VK_k1_WX_Ib_b" .plain .v128 .p66 .set 0x66 [.VK, .WX, .Ib] .float64 k1b,
   full "EVEX_Vfpclasspd_VK_k1_WY_Ib_b" .plain .v256 .p66 .set 0x66 [.VK, .WY, .Ib] .float64 k1b,
   full "EVEX_Vfpclasspd_VK_k1_WZ_Ib_b" .plain .v512 .p66 .set 0x66 [.VK, .WZ, .Ib] .float64 k1b,
   evex "EVEX_Vfpclassss_VK_k1_WX_Ib" .plain .lig .p66 .clear 0x67 [.VK, .WX, .Ib] .float32
     .oneScalar k1,
   evex "EVEX_Vfpclasssd_VK_k1_WX_Ib" .plain .lig .p66 .set 0x67 [.VK, .WX, .Ib] .float64
     .oneScalar k1]

/-- Opcodes C0 to CF of the 0F3A map. -/
def map0F3AC0 : List Entry := rows .map0F3A
  [legacy "Sha1rnds4_VX_WX_Ib" .free 0xcc [.VX, .WX, .Ib] .packed128UInt32]

/-- Opcodes D0 to DF of the 0F3A map. -/
def map0F3AD0 : List Entry := rows .map0F3A
  [legacy "Aeskeygenassist_VX_WX_Ib" .p66 0xdf [.VX, .WX, .Ib] .uint128,
   vex "VEX_Vaeskeygenassist_VX_WX_Ib" .plain .v128 .p66 .any 0xdf [.VX, .WX, .Ib] .uint128]

/-- Opcodes F0 to FF of the 0F3A map. -/
def map0F3AF0 : List Entry := rows .map0F3A
  [vex "VEX_Rorx_Gd_Ed_Ib" .plain .l0 .pF2 .clear 0xf0 [.Gd, .Ed, .Ib] .uint32 .all [.wig32],
   vex "VEX_Rorx_Gq_Eq_Ib" .plain .l0 .pF2 .set 0xf0 [.Gq, .Eq, .Ib] .uint64 .only64]

end X86Decoder.Table
