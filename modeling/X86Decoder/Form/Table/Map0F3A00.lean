import X86Decoder.Form.Entry
import X86Decoder.Form.Vocabulary

/-!
# Opcodes 00 to 2F of the 0F3A map
-/

namespace X86Decoder.Table

open Entry

/-- Opcodes 00 to 0F of the 0F3A map. -/
def map0F3A00 : List Entry := rows .map0F3A
  [vex "VEX_Vpermq_VY_WY_Ib" .plain .v256 .p66 .set 0x00 [.VY, .WY, .Ib] .packed256Int64,
   full "EVEX_Vpermq_VY_k1z_WY_Ib_b" .plain .v256 .p66 .set 0x00 [.VY, .WY, .Ib] .int64,
   full "EVEX_Vpermq_VZ_k1z_WZ_Ib_b" .plain .v512 .p66 .set 0x00 [.VZ, .WZ, .Ib] .int64,
   vex "VEX_Vpermpd_VY_WY_Ib" .plain .v256 .p66 .set 0x01 [.VY, .WY, .Ib] .packed256Float64,
   full "EVEX_Vpermpd_VY_k1z_WY_Ib_b" .plain .v256 .p66 .set 0x01 [.VY, .WY, .Ib] .float64,
   full "EVEX_Vpermpd_VZ_k1z_WZ_Ib_b" .plain .v512 .p66 .set 0x01 [.VZ, .WZ, .Ib] .float64,
   vex "VEX_Vpblendd_VX_HX_WX_Ib" .nds .v128 .p66 .clear 0x02 [.VX, .HX, .WX, .Ib] .packed128Int32,
   vex "VEX_Vpblendd_VY_HY_WY_Ib" .nds .v256 .p66 .clear 0x02 [.VY, .HY, .WY, .Ib] .packed256Int32,
   full "EVEX_Valignd_VX_k1z_HX_WX_Ib_b" .nds .v128 .p66 .clear 0x03 [.VX, .HX, .WX, .Ib] .int32,
   full "EVEX_Valignd_VY_k1z_HY_WY_Ib_b" .nds .v256 .p66 .clear 0x03 [.VY, .HY, .WY, .Ib] .int32,
   full "EVEX_Valignd_VZ_k1z_HZ_WZ_Ib_b" .nds .v512 .p66 .clear 0x03 [.VZ, .HZ, .WZ, .Ib] .int32,
   full "EVEX_Valignq_VX_k1z_HX_WX_Ib_b" .nds .v128 .p66 .set 0x03 [.VX, .HX, .WX, .Ib] .int64,
   full "EVEX_Valignq_VY_k1z_HY_WY_Ib_b" .nds .v256 .p66 .set 0x03 [.VY, .HY, .WY, .Ib] .int64,
   full "EVEX_Valignq_VZ_k1z_HZ_WZ_Ib_b" .nds .v512 .p66 .set 0x03 [.VZ, .HZ, .WZ, .Ib] .int64,
   vex "VEX_Vpermilps_VX_WX_Ib" .plain .v128 .p66 .clear 0x04 [.VX, .WX, .Ib] .packed128Float32,
   vex "VEX_Vpermilps_VY_WY_Ib" .plain .v256 .p66 .clear 0x04 [.VY, .WY, .Ib] .packed256Float32,
   full "EVEX_Vpermilps_VX_k1z_WX_Ib_b" .plain .v128 .p66 .clear 0x04 [.VX, .WX, .Ib] .float32,
   full "EVEX_Vpermilps_VY_k1z_WY_Ib_b" .plain .v256 .p66 .clear 0x04 [.VY, .WY, .Ib] .float32,
   full "EVEX_Vpermilps_VZ_k1z_WZ_Ib_b" .plain .v512 .p66 .clear 0x04 [.VZ, .WZ, .Ib] .float32,
   vex "VEX_Vpermilpd_VX_WX_Ib" .plain .v128 .p66 .clear 0x05 [.VX, .WX, .Ib] .packed128Float64,
   vex "VEX_Vpermilpd_VY_WY_Ib" .plain .v256 .p66 .clear 0x05 [.VY, .WY, .Ib] .packed256Float64,
   full "EVEX_Vpermilpd_VX_k1z_WX_Ib_b" .plain .v128 .p66 .set 0x05 [.VX, .WX, .Ib] .float64,
   full "EVEX_Vpermilpd_VY_k1z_WY_Ib_b" .plain .v256 .p66 .set 0x05 [.VY, .WY, .Ib] .float64,
   full "EVEX_Vpermilpd_VZ_k1z_WZ_Ib_b" .plain .v512 .p66 .set 0x05 [.VZ, .WZ, .Ib] .float64,
   vex "VEX_Vperm2f128_VY_HY_WY_Ib" .nds .v256 .p66 .clear 0x06 [.VY, .HY, .WY, .Ib]
     .packed256Float128,
   legacy "Roundps_VX_WX_Ib" .p66 0x08 [.VX, .WX, .Ib] .packed128Float32,
   vex "VEX_Vroundps_VX_WX_Ib" .plain .v128 .p66 .any 0x08 [.VX, .WX, .Ib] .packed128Float32,
   vex "VEX_Vroundps_VY_WY_Ib" .plain .v256 .p66 .any 0x08 [.VY, .WY, .Ib] .packed256Float32,
   full "EVEX_Vrndscaleps_VX_k1z_WX_Ib_b" .plain .v128 .p66 .clear 0x08 [.VX, .WX, .Ib] .float32,
   full "EVEX_Vrndscaleps_VY_k1z_WY_Ib_b" .plain .v256 .p66 .clear 0x08 [.VY, .WY, .Ib] .float32,
   full "EVEX_Vrndscaleps_VZ_k1z_WZ_Ib_sae_b" .plain .v512 .p66 .clear 0x08 [.VZ, .WZ, .Ib]
     .float32 k1zbSae,
   legacy "Roundpd_VX_WX_Ib" .p66 0x09 [.VX, .WX, .Ib] .packed128Float64,
   vex "VEX_Vroundpd_VX_WX_Ib" .plain .v128 .p66 .any 0x09 [.VX, .WX, .Ib] .packed128Float64,
   vex "VEX_Vroundpd_VY_WY_Ib" .plain .v256 .p66 .any 0x09 [.VY, .WY, .Ib] .packed256Float64,
   full "EVEX_Vrndscalepd_VX_k1z_WX_Ib_b" .plain .v128 .p66 .set 0x09 [.VX, .WX, .Ib] .float64,
   full "EVEX_Vrndscalepd_VY_k1z_WY_Ib_b" .plain .v256 .p66 .set 0x09 [.VY, .WY, .Ib] .float64,
   full "EVEX_Vrndscalepd_VZ_k1z_WZ_Ib_sae_b" .plain .v512 .p66 .set 0x09 [.VZ, .WZ, .Ib] .float64
     k1zbSae,
   legacy "Roundss_VX_WX_Ib" .p66 0x0a [.VX, .WX, .Ib] .float32,
   vex "VEX_Vroundss_VX_HX_WX_Ib" .nds .lig .p66 .any 0x0a [.VX, .HX, .WX, .Ib] .float32,
   evex "EVEX_Vrndscaless_VX_k1z_HX_WX_Ib_sae" .nds .lig .p66 .clear 0x0a [.VX, .HX, .WX, .Ib]
     .float32 .oneScalar k1zSae,
   legacy "Roundsd_VX_WX_Ib" .p66 0x0b [.VX, .WX, .Ib] .float64,
   vex "VEX_Vroundsd_VX_HX_WX_Ib" .nds .lig .p66 .any 0x0b [.VX, .HX, .WX, .Ib] .float64,
   evex "EVEX_Vrndscalesd_VX_k1z_HX_WX_Ib_sae" .nds .lig .p66 .set 0x0b [.VX, .HX, .WX, .Ib]
     .float64 .oneScalar k1zSae,
   legacy "Blendps_VX_WX_Ib" .p66 0x0c [.VX, .WX, .Ib] .packed128Float32,
   vex "VEX_Vblendps_VX_HX_WX_Ib" .nds .v128 .p66 .any 0x0c [.VX, .HX, .WX, .Ib] .packed128Float32,
   vex "VEX_Vblendps_VY_HY_WY_Ib" .nds .v256 .p66 .any 0x0c [.VY, .HY, .WY, .Ib] .packed256Float32,
   legacy "Blendpd_VX_WX_Ib" .p66 0x0d [.VX, .WX, .Ib] .packed128Float64,
   vex "VEX_Vblendpd_VX_HX_WX_Ib" .nds .v128 .p66 .any 0x0d [.VX, .HX, .WX, .Ib] .packed128Float64,
   vex "VEX_Vblendpd_VY_HY_WY_Ib" .nds .v256 .p66 .any 0x0d [.VY, .HY, .WY, .Ib] .packed256Float64,
   legacy "Pblendw_VX_WX_Ib" .p66 0x0e [.VX, .WX, .Ib] .packed128Int16,
   vex "VEX_Vpblendw_VX_HX_WX_Ib" .nds .v128 .p66 .any 0x0e [.VX, .HX, .WX, .Ib] .packed128Int16,
   vex "VEX_Vpblendw_VY_HY_WY_Ib" .nds .v256 .p66 .any 0x0e [.VY, .HY, .WY, .Ib] .packed256Int16,
   legacy "Palignr_VX_WX_Ib" .p66 0x0f [.VX, .WX, .Ib] .packed128Int8,
   legacy "Palignr_P_Q_Ib" .np 0x0f [.P, .Q, .Ib] .packed64Int8,
   vex "VEX_Vpalignr_VX_HX_WX_Ib" .nds .v128 .p66 .any 0x0f [.VX, .HX, .WX, .Ib] .packed128Int8,
   vex "VEX_Vpalignr_VY_HY_WY_Ib" .nds .v256 .p66 .any 0x0f [.VY, .HY, .WY, .Ib] .packed256Int8,
   fullMem "EVEX_Vpalignr_VX_k1z_HX_WX_Ib" .nds .v128 .p66 .any 0x0f [.VX, .HX, .WX, .Ib] .int8,
   fullMem "EVEX_Vpalignr_VY_k1z_HY_WY_Ib" .nds .v256 .p66 .any 0x0f [.VY, .HY, .WY, .Ib] .int8,
   fullMem "EVEX_Vpalignr_VZ_k1z_HZ_WZ_Ib" .nds .v512 .p66 .any 0x0f [.VZ, .HZ, .WZ, .Ib] .int8]

/-- Opcodes 10 to 1F of the 0F3A map. -/
def map0F3A10 : List Entry := rows .map0F3A
  [legacy "Pextrb_RqMb_VX_Ib" .o64p66 0x14 [.RqMb, .VX, .Ib] .uint8 .only64,
   legacy "Pextrb_RdMb_VX_Ib" .p66 0x14 [.RdMb, .VX, .Ib] .uint8,
   vex "VEX_Vpextrb_RdMb_VX_Ib" .plain .v128 .p66 .clear 0x14 [.RdMb, .VX, .Ib] .uint8 .all
     [.wig32],
   vex "VEX_Vpextrb_RqMb_VX_Ib" .plain .v128 .p66 .set 0x14 [.RqMb, .VX, .Ib] .uint8 .only64,
   evex "EVEX_Vpextrb_RdMb_VX_Ib" .plain .v128 .p66 .clear 0x14 [.RdMb, .VX, .Ib] .uint8
     .oneScalar1 [.wig32],
   evex "EVEX_Vpextrb_RqMb_VX_Ib" .plain .v128 .p66 .set 0x14 [.RqMb, .VX, .Ib] .uint8 .oneScalar1
     [] .unknown .only64,
   legacy "Pextrw_RqMw_VX_Ib" .o64p66 0x15 [.RqMw, .VX, .Ib] .uint16 .only64,
   legacy "Pextrw_RdMw_VX_Ib" .p66 0x15 [.RdMw, .VX, .Ib] .uint16,
   vex "VEX_Vpextrw_RdMw_VX_Ib" .plain .v128 .p66 .clear 0x15 [.RdMw, .VX, .Ib] .uint16 .all
     [.wig32],
   vex "VEX_Vpextrw_RqMw_VX_Ib" .plain .v128 .p66 .set 0x15 [.RqMw, .VX, .Ib] .uint16 .only64,
   evex "EVEX_Vpextrw_RdMw_VX_Ib" .plain .v128 .p66 .clear 0x15 [.RdMw, .VX, .Ib] .uint16
     .oneScalar2 [.wig32],
   evex "EVEX_Vpextrw_RqMw_VX_Ib" .plain .v128 .p66 .set 0x15 [.RqMw, .VX, .Ib] .uint16 .oneScalar2
     [] .unknown .only64,
   legacy "Pextrq_Eq_VX_Ib" .o64p66 0x16 [.Eq, .VX, .Ib] .uint64 .only64,
   legacy "Pextrd_Ed_VX_Ib" .p66 0x16 [.Ed, .VX, .Ib] .uint32,
   vex "VEX_Vpextrd_Ed_VX_Ib" .plain .v128 .p66 .clear 0x16 [.Ed, .VX, .Ib] .uint32 .all [.wig32],
   vex "VEX_Vpextrq_Eq_VX_Ib" .plain .v128 .p66 .set 0x16 [.Eq, .VX, .Ib] .uint64 .only64,
   evex "EVEX_Vpextrd_Ed_VX_Ib" .plain .v128 .p66 .clear 0x16 [.Ed, .VX, .Ib] .uint32 .oneScalar4
     [.wig32],
   evex "EVEX_Vpextrq_Eq_VX_Ib" .plain .v128 .p66 .set 0x16 [.Eq, .VX, .Ib] .uint64 .oneScalar8 []
     .unknown .only64,
   legacy "Extractps_Eq_VX_Ib" .o64p66 0x17 [.Eq, .VX, .Ib] .float32 .only64,
   legacy "Extractps_Ed_VX_Ib" .p66 0x17 [.Ed, .VX, .Ib] .float32,
   vex "VEX_Vextractps_Ed_VX_Ib" .plain .v128 .p66 .clear 0x17 [.Ed, .VX, .Ib] .float32 .all
     [.wig32],
   vex "VEX_Vextractps_Eq_VX_Ib" .plain .v128 .p66 .set 0x17 [.Eq, .VX, .Ib] .float32 .only64,
   evex "EVEX_Vextractps_Ed_VX_Ib" .plain .v128 .p66 .clear 0x17 [.Ed, .VX, .Ib] .float32
     .oneScalar4 [.wig32],
   evex "EVEX_Vextractps_Eq_VX_Ib" .plain .v128 .p66 .set 0x17 [.Eq, .VX, .Ib] .float32 .oneScalar4
     [] .unknown .only64,
   vex "VEX_Vinsertf128_ymm_ymm_xmmm128_imm8" .nds .v256 .p66 .clear 0x18 [.VY, .HY, .WX, .Ib]
     .float128,
   evex "EVEX_Vinsertf32x4_VY_k1z_HY_WX_Ib" .nds .v256 .p66 .clear 0x18 [.VY, .HY, .WX, .Ib]
     .packed128Float32 .four k1z,
   evex "EVEX_Vinsertf32x4_VZ_k1z_HZ_WX_Ib" .nds .v512 .p66 .clear 0x18 [.VZ, .HZ, .WX, .Ib]
     .packed128Float32 .four k1z,
   evex "EVEX_Vinsertf64x2_VY_k1z_HY_WX_Ib" .nds .v256 .p66 .set 0x18 [.VY, .HY, .WX, .Ib]
     .packed128Float64 .two k1z,
   evex "EVEX_Vinsertf64x2_VZ_k1z_HZ_WX_Ib" .nds .v512 .p66 .set 0x18 [.VZ, .HZ, .WX, .Ib]
     .packed128Float64 .two k1z,
   vex "VEX_Vextractf128_WX_VY_Ib" .plain .v256 .p66 .clear 0x19 [.WX, .VY, .Ib] .float128,
   evex "EVEX_Vextractf32x4_WX_k1z_VY_Ib" .plain .v256 .p66 .clear 0x19 [.WX, .VY, .Ib]
     .packed128Float32 .four k1z,
   evex "EVEX_Vextractf32x4_WX_k1z_VZ_Ib" .plain .v512 .p66 .clear 0x19 [.WX, .VZ, .Ib]
     .packed128Float32 .four k1z,
   evex "EVEX_Vextractf64x2_WX_k1z_VY_Ib" .plain .v256 .p66 .set 0x19 [.WX, .VY, .Ib]
     .packed128Float64 .two k1z,
   evex "EVEX_Vextractf64x2_WX_k1z_VZ_Ib" .plain .v512 .p66 .set 0x19 [.WX, .VZ, .Ib]
     .packed128Float64 .two k1z,
   evex "EVEX_Vinsertf32x8_VZ_k1z_HZ_WY_Ib" .nds .v512 .p66 .clear 0x1a [.VZ, .HZ, .WY, .Ib]
     .packed256Float32 .eight k1z,
   evex "EVEX_Vinsertf64x4_VZ_k1z_HZ_WY_Ib" .nds .v512 .p66 .set 0x1a [.VZ, .HZ, .WY, .Ib]
     .packed256Float64 .four k1z,
   evex "EVEX_Vextractf32x8_WY_k1z_VZ_Ib" .plain .v512 .p66 .clear 0x1b [.WY, .VZ, .Ib]
     .packed256Float32 .eight k1z,
   evex "EVEX_Vextractf64x4_WY_k1z_VZ_Ib" .plain .v512 .p66 .set 0x1b [.WY, .VZ, .Ib]
     .packed256Float64 .four k1z,
   vex "VEX_Vcvtps2ph_WX_VX_Ib" .plain .v128 .p66 .clear 0x1d [.WX, .VX, .Ib] .packed64Float16,
   vex "VEX_Vcvtps2ph_WX_VY_Ib" .plain .v256 .p66 .clear 0x1d [.WX, .VY, .Ib] .packed128Float16,
   evex "EVEX_Vcvtps2ph_WX_k1z_VX_Ib" .plain .v128 .p66 .clear 0x1d [.WX, .VX, .Ib]
     .packed64Float16 .halfMem128 k1z,
   evex "EVEX_Vcvtps2ph_WX_k1z_VY_Ib" .plain .v256 .p66 .clear 0x1d [.WX, .VY, .Ib]
     .packed128Float16 .halfMem256 k1z,
   evex "EVEX_Vcvtps2ph_WY_k1z_VZ_Ib_sae" .plain .v512 .p66 .clear 0x1d [.WY, .VZ, .Ib]
     .packed256Float16 .halfMem512 k1zSae,
   full "EVEX_Vpcmpud_VK_k1_HX_WX_Ib_b" .nds .v128 .p66 .clear 0x1e [.VK, .HX, .WX, .Ib] .uint32
     k1b,
   full "EVEX_Vpcmpud_VK_k1_HY_WY_Ib_b" .nds .v256 .p66 .clear 0x1e [.VK, .HY, .WY, .Ib] .uint32
     k1b,
   full "EVEX_Vpcmpud_VK_k1_HZ_WZ_Ib_b" .nds .v512 .p66 .clear 0x1e [.VK, .HZ, .WZ, .Ib] .uint32
     k1b,
   full "EVEX_Vpcmpuq_VK_k1_HX_WX_Ib_b" .nds .v128 .p66 .set 0x1e [.VK, .HX, .WX, .Ib] .uint64 k1b,
   full "EVEX_Vpcmpuq_VK_k1_HY_WY_Ib_b" .nds .v256 .p66 .set 0x1e [.VK, .HY, .WY, .Ib] .uint64 k1b,
   full "EVEX_Vpcmpuq_VK_k1_HZ_WZ_Ib_b" .nds .v512 .p66 .set 0x1e [.VK, .HZ, .WZ, .Ib] .uint64 k1b,
   full "EVEX_Vpcmpd_VK_k1_HX_WX_Ib_b" .nds .v128 .p66 .clear 0x1f [.VK, .HX, .WX, .Ib] .int32 k1b,
   full "EVEX_Vpcmpd_VK_k1_HY_WY_Ib_b" .nds .v256 .p66 .clear 0x1f [.VK, .HY, .WY, .Ib] .int32 k1b,
   full "EVEX_Vpcmpd_VK_k1_HZ_WZ_Ib_b" .nds .v512 .p66 .clear 0x1f [.VK, .HZ, .WZ, .Ib] .int32 k1b,
   full "EVEX_Vpcmpq_VK_k1_HX_WX_Ib_b" .nds .v128 .p66 .set 0x1f [.VK, .HX, .WX, .Ib] .int64 k1b,
   full "EVEX_Vpcmpq_VK_k1_HY_WY_Ib_b" .nds .v256 .p66 .set 0x1f [.VK, .HY, .WY, .Ib] .int64 k1b,
   full "EVEX_Vpcmpq_VK_k1_HZ_WZ_Ib_b" .nds .v512 .p66 .set 0x1f [.VK, .HZ, .WZ, .Ib] .int64 k1b]

/-- Opcodes 20 to 2F of the 0F3A map. -/
def map0F3A20 : List Entry := rows .map0F3A
  [legacy "Pinsrb_VX_RqMb_Ib" .o64p66 0x20 [.VX, .RqMb, .Ib] .uint8 .only64,
   legacy "Pinsrb_VX_RdMb_Ib" .p66 0x20 [.VX, .RdMb, .Ib] .uint8,
   vex "VEX_Vpinsrb_VX_HX_RdMb_Ib" .nds .v128 .p66 .clear 0x20 [.VX, .HX, .RdMb, .Ib] .uint8 .all
     [.wig32],
   vex "VEX_Vpinsrb_VX_HX_RqMb_Ib" .nds .v128 .p66 .set 0x20 [.VX, .HX, .RqMb, .Ib] .uint8 .only64,
   evex "EVEX_Vpinsrb_VX_HX_RdMb_Ib" .nds .v128 .p66 .clear 0x20 [.VX, .HX, .RdMb, .Ib] .uint8
     .oneScalar1 [.wig32],
   evex "EVEX_Vpinsrb_VX_HX_RqMb_Ib" .nds .v128 .p66 .set 0x20 [.VX, .HX, .RqMb, .Ib] .uint8
     .oneScalar1 [] .unknown .only64,
   legacy "Insertps_VX_WX_Ib" .p66 0x21 [.VX, .WX, .Ib] .float32,
   vex "VEX_Vinsertps_VX_HX_WX_Ib" .nds .v128 .p66 .any 0x21 [.VX, .HX, .WX, .Ib] .float32,
   evex "EVEX_Vinsertps_VX_HX_WX_Ib" .nds .v128 .p66 .clear 0x21 [.VX, .HX, .WX, .Ib] .float32
     .oneScalar,
   legacy "Pinsrq_VX_Eq_Ib" .o64p66 0x22 [.VX, .Eq, .Ib] .uint64 .only64,
   legacy "Pinsrd_VX_Ed_Ib" .p66 0x22 [.VX, .Ed, .Ib] .uint32,
   vex "VEX_Vpinsrd_VX_HX_Ed_Ib" .nds .v128 .p66 .clear 0x22 [.VX, .HX, .Ed, .Ib] .uint32 .all
     [.wig32],
   vex "VEX_Vpinsrq_VX_HX_Eq_Ib" .nds .v128 .p66 .set 0x22 [.VX, .HX, .Eq, .Ib] .uint64 .only64,
   evex "EVEX_Vpinsrd_VX_HX_Ed_Ib" .nds .v128 .p66 .clear 0x22 [.VX, .HX, .Ed, .Ib] .uint32
     .oneScalar4 [.wig32],
   evex "EVEX_Vpinsrq_VX_HX_Eq_Ib" .nds .v128 .p66 .set 0x22 [.VX, .HX, .Eq, .Ib] .uint64
     .oneScalar8 [] .unknown .only64,
   full "EVEX_Vshuff32x4_VY_k1z_HY_WY_Ib_b" .nds .v256 .p66 .clear 0x23 [.VY, .HY, .WY, .Ib]
     .float32,
   full "EVEX_Vshuff32x4_VZ_k1z_HZ_WZ_Ib_b" .nds .v512 .p66 .clear 0x23 [.VZ, .HZ, .WZ, .Ib]
     .float32,
   full "EVEX_Vshuff64x2_VY_k1z_HY_WY_Ib_b" .nds .v256 .p66 .set 0x23 [.VY, .HY, .WY, .Ib] .float64,
   full "EVEX_Vshuff64x2_VZ_k1z_HZ_WZ_Ib_b" .nds .v512 .p66 .set 0x23 [.VZ, .HZ, .WZ, .Ib] .float64,
   full "EVEX_Vpternlogd_VX_k1z_HX_WX_Ib_b" .dds .v128 .p66 .clear 0x25 [.VX, .HX, .WX, .Ib] .int32,
   full "EVEX_Vpternlogd_VY_k1z_HY_WY_Ib_b" .dds .v256 .p66 .clear 0x25 [.VY, .HY, .WY, .Ib] .int32,
   full "EVEX_Vpternlogd_VZ_k1z_HZ_WZ_Ib_b" .dds .v512 .p66 .clear 0x25 [.VZ, .HZ, .WZ, .Ib] .int32,
   full "EVEX_Vpternlogq_VX_k1z_HX_WX_Ib_b" .dds .v128 .p66 .set 0x25 [.VX, .HX, .WX, .Ib] .int64,
   full "EVEX_Vpternlogq_VY_k1z_HY_WY_Ib_b" .dds .v256 .p66 .set 0x25 [.VY, .HY, .WY, .Ib] .int64,
   full "EVEX_Vpternlogq_VZ_k1z_HZ_WZ_Ib_b" .dds .v512 .p66 .set 0x25 [.VZ, .HZ, .WZ, .Ib] .int64,
   full "EVEX_Vgetmantps_VX_k1z_WX_Ib_b" .plain .v128 .p66 .clear 0x26 [.VX, .WX, .Ib] .float32,
   full "EVEX_Vgetmantps_VY_k1z_WY_Ib_b" .plain .v256 .p66 .clear 0x26 [.VY, .WY, .Ib] .float32,
   full "EVEX_Vgetmantps_VZ_k1z_WZ_Ib_sae_b" .plain .v512 .p66 .clear 0x26 [.VZ, .WZ, .Ib] .float32
     k1zbSae,
   full "EVEX_Vgetmantpd_VX_k1z_WX_Ib_b" .plain .v128 .p66 .set 0x26 [.VX, .WX, .Ib] .float64,
   full "EVEX_Vgetmantpd_VY_k1z_WY_Ib_b" .plain .v256 .p66 .set 0x26 [.VY, .WY, .Ib] .float64,
   full "EVEX_Vgetmantpd_VZ_k1z_WZ_Ib_sae_b" .plain .v512 .p66 .set 0x26 [.VZ, .WZ, .Ib] .float64
     k1zbSae,
   evex "EVEX_Vgetmantss_VX_k1z_HX_WX_Ib_sae" .nds .lig .p66 .clear 0x27 [.VX, .HX, .WX, .Ib]
     .float32 .oneScalar k1zSae,
   evex "EVEX_Vgetmantsd_VX_k1z_HX_WX_Ib_sae" .nds .lig .p66 .set 0x27 [.VX, .HX, .WX, .Ib]
     .float64 .oneScalar k1zSae]

end X86Decoder.Table
