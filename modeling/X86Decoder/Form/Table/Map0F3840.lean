import X86Decoder.Form.Entry
import X86Decoder.Form.Vocabulary

/-!
# Opcodes 40 to 8F of the 0F38 map
-/

namespace X86Decoder.Table

open Entry

/-- Opcodes 40 to 4F of the 0F38 map. -/
def map0F3840 : List Entry := rows .map0F38
  [legacy "Pmulld_VX_WX" .p66 0x40 [.VX, .WX] .packed128Int32,
   vex "VEX_Vpmulld_VX_HX_WX" .nds .v128 .p66 .any 0x40 [.VX, .HX, .WX] .packed128Int32,
   vex "VEX_Vpmulld_VY_HY_WY" .nds .v256 .p66 .any 0x40 [.VY, .HY, .WY] .packed256Int32,
   full "EVEX_Vpmulld_VX_k1z_HX_WX_b" .nds .v128 .p66 .clear 0x40 [.VX, .HX, .WX] .int32,
   full "EVEX_Vpmulld_VY_k1z_HY_WY_b" .nds .v256 .p66 .clear 0x40 [.VY, .HY, .WY] .int32,
   full "EVEX_Vpmulld_VZ_k1z_HZ_WZ_b" .nds .v512 .p66 .clear 0x40 [.VZ, .HZ, .WZ] .int32,
   full "EVEX_Vpmullq_VX_k1z_HX_WX_b" .nds .v128 .p66 .set 0x40 [.VX, .HX, .WX] .int64,
   full "EVEX_Vpmullq_VY_k1z_HY_WY_b" .nds .v256 .p66 .set 0x40 [.VY, .HY, .WY] .int64,
   full "EVEX_Vpmullq_VZ_k1z_HZ_WZ_b" .nds .v512 .p66 .set 0x40 [.VZ, .HZ, .WZ] .int64,
   legacy "Phminposuw_VX_WX" .p66 0x41 [.VX, .WX] .packed128UInt16,
   vex "VEX_Vphminposuw_VX_WX" .plain .v128 .p66 .any 0x41 [.VX, .WX] .packed128UInt16,
   full "EVEX_Vgetexpps_VX_k1z_WX_b" .plain .v128 .p66 .clear 0x42 [.VX, .WX] .float32,
   full "EVEX_Vgetexpps_VY_k1z_WY_b" .plain .v256 .p66 .clear 0x42 [.VY, .WY] .float32,
   full "EVEX_Vgetexpps_VZ_k1z_WZ_sae_b" .plain .v512 .p66 .clear 0x42 [.VZ, .WZ] .float32 k1zbSae,
   full "EVEX_Vgetexppd_VX_k1z_WX_b" .plain .v128 .p66 .set 0x42 [.VX, .WX] .float64,
   full "EVEX_Vgetexppd_VY_k1z_WY_b" .plain .v256 .p66 .set 0x42 [.VY, .WY] .float64,
   full "EVEX_Vgetexppd_VZ_k1z_WZ_sae_b" .plain .v512 .p66 .set 0x42 [.VZ, .WZ] .float64 k1zbSae,
   evex "EVEX_Vgetexpss_VX_k1z_HX_WX_sae" .nds .lig .p66 .clear 0x43 [.VX, .HX, .WX] .float32
     .oneScalar k1zSae,
   evex "EVEX_Vgetexpsd_VX_k1z_HX_WX_sae" .nds .lig .p66 .set 0x43 [.VX, .HX, .WX] .float64
     .oneScalar k1zSae,
   full "EVEX_Vplzcntd_VX_k1z_WX_b" .plain .v128 .p66 .clear 0x44 [.VX, .WX] .uint32,
   full "EVEX_Vplzcntd_VY_k1z_WY_b" .plain .v256 .p66 .clear 0x44 [.VY, .WY] .uint32,
   full "EVEX_Vplzcntd_VZ_k1z_WZ_b" .plain .v512 .p66 .clear 0x44 [.VZ, .WZ] .uint32,
   full "EVEX_Vplzcntq_VX_k1z_WX_b" .plain .v128 .p66 .set 0x44 [.VX, .WX] .uint64,
   full "EVEX_Vplzcntq_VY_k1z_WY_b" .plain .v256 .p66 .set 0x44 [.VY, .WY] .uint64,
   full "EVEX_Vplzcntq_VZ_k1z_WZ_b" .plain .v512 .p66 .set 0x44 [.VZ, .WZ] .uint64,
   vex "VEX_Vpsrlvd_VX_HX_WX" .nds .v128 .p66 .clear 0x45 [.VX, .HX, .WX] .packed128UInt32,
   vex "VEX_Vpsrlvd_VY_HY_WY" .nds .v256 .p66 .clear 0x45 [.VY, .HY, .WY] .packed256UInt32,
   vex "VEX_Vpsrlvq_VX_HX_WX" .nds .v128 .p66 .set 0x45 [.VX, .HX, .WX] .packed128UInt64,
   vex "VEX_Vpsrlvq_VY_HY_WY" .nds .v256 .p66 .set 0x45 [.VY, .HY, .WY] .packed256UInt64,
   full "EVEX_Vpsrlvd_VX_k1z_HX_WX_b" .nds .v128 .p66 .clear 0x45 [.VX, .HX, .WX] .uint32,
   full "EVEX_Vpsrlvd_VY_k1z_HY_WY_b" .nds .v256 .p66 .clear 0x45 [.VY, .HY, .WY] .uint32,
   full "EVEX_Vpsrlvd_VZ_k1z_HZ_WZ_b" .nds .v512 .p66 .clear 0x45 [.VZ, .HZ, .WZ] .uint32,
   full "EVEX_Vpsrlvq_VX_k1z_HX_WX_b" .nds .v128 .p66 .set 0x45 [.VX, .HX, .WX] .uint64,
   full "EVEX_Vpsrlvq_VY_k1z_HY_WY_b" .nds .v256 .p66 .set 0x45 [.VY, .HY, .WY] .uint64,
   full "EVEX_Vpsrlvq_VZ_k1z_HZ_WZ_b" .nds .v512 .p66 .set 0x45 [.VZ, .HZ, .WZ] .uint64,
   vex "VEX_Vpsravd_VX_HX_WX" .nds .v128 .p66 .clear 0x46 [.VX, .HX, .WX] .packed128UInt32,
   vex "VEX_Vpsravd_VY_HY_WY" .nds .v256 .p66 .clear 0x46 [.VY, .HY, .WY] .packed256UInt32,
   full "EVEX_Vpsravd_VX_k1z_HX_WX_b" .nds .v128 .p66 .clear 0x46 [.VX, .HX, .WX] .uint32,
   full "EVEX_Vpsravd_VY_k1z_HY_WY_b" .nds .v256 .p66 .clear 0x46 [.VY, .HY, .WY] .uint32,
   full "EVEX_Vpsravd_VZ_k1z_HZ_WZ_b" .nds .v512 .p66 .clear 0x46 [.VZ, .HZ, .WZ] .uint32,
   full "EVEX_Vpsravq_VX_k1z_HX_WX_b" .nds .v128 .p66 .set 0x46 [.VX, .HX, .WX] .uint64,
   full "EVEX_Vpsravq_VY_k1z_HY_WY_b" .nds .v256 .p66 .set 0x46 [.VY, .HY, .WY] .uint64,
   full "EVEX_Vpsravq_VZ_k1z_HZ_WZ_b" .nds .v512 .p66 .set 0x46 [.VZ, .HZ, .WZ] .uint64,
   vex "VEX_Vpsllvd_VX_HX_WX" .nds .v128 .p66 .clear 0x47 [.VX, .HX, .WX] .packed128UInt32,
   vex "VEX_Vpsllvd_VY_HY_WY" .nds .v256 .p66 .clear 0x47 [.VY, .HY, .WY] .packed256UInt32,
   vex "VEX_Vpsllvq_VX_HX_WX" .nds .v128 .p66 .set 0x47 [.VX, .HX, .WX] .packed128UInt64,
   vex "VEX_Vpsllvq_VY_HY_WY" .nds .v256 .p66 .set 0x47 [.VY, .HY, .WY] .packed256UInt64,
   full "EVEX_Vpsllvd_VX_k1z_HX_WX_b" .nds .v128 .p66 .clear 0x47 [.VX, .HX, .WX] .uint32,
   full "EVEX_Vpsllvd_VY_k1z_HY_WY_b" .nds .v256 .p66 .clear 0x47 [.VY, .HY, .WY] .uint32,
   full "EVEX_Vpsllvd_VZ_k1z_HZ_WZ_b" .nds .v512 .p66 .clear 0x47 [.VZ, .HZ, .WZ] .uint32,
   full "EVEX_Vpsllvq_VX_k1z_HX_WX_b" .nds .v128 .p66 .set 0x47 [.VX, .HX, .WX] .uint64,
   full "EVEX_Vpsllvq_VY_k1z_HY_WY_b" .nds .v256 .p66 .set 0x47 [.VY, .HY, .WY] .uint64,
   full "EVEX_Vpsllvq_VZ_k1z_HZ_WZ_b" .nds .v512 .p66 .set 0x47 [.VZ, .HZ, .WZ] .uint64,
   full "EVEX_Vrcp14ps_VX_k1z_WX_b" .plain .v128 .p66 .clear 0x4c [.VX, .WX] .float32,
   full "EVEX_Vrcp14ps_VY_k1z_WY_b" .plain .v256 .p66 .clear 0x4c [.VY, .WY] .float32,
   full "EVEX_Vrcp14ps_VZ_k1z_WZ_b" .plain .v512 .p66 .clear 0x4c [.VZ, .WZ] .float32,
   full "EVEX_Vrcp14pd_VX_k1z_WX_b" .plain .v128 .p66 .set 0x4c [.VX, .WX] .float64,
   full "EVEX_Vrcp14pd_VY_k1z_WY_b" .plain .v256 .p66 .set 0x4c [.VY, .WY] .float64,
   full "EVEX_Vrcp14pd_VZ_k1z_WZ_b" .plain .v512 .p66 .set 0x4c [.VZ, .WZ] .float64,
   evex "EVEX_Vrcp14ss_VX_k1z_HX_WX" .nds .lig .p66 .clear 0x4d [.VX, .HX, .WX] .float32 .oneScalar
     k1z,
   evex "EVEX_Vrcp14sd_VX_k1z_HX_WX" .nds .lig .p66 .set 0x4d [.VX, .HX, .WX] .float64 .oneScalar
     k1z,
   full "EVEX_Vrsqrt14ps_VX_k1z_WX_b" .plain .v128 .p66 .clear 0x4e [.VX, .WX] .float32,
   full "EVEX_Vrsqrt14ps_VY_k1z_WY_b" .plain .v256 .p66 .clear 0x4e [.VY, .WY] .float32,
   full "EVEX_Vrsqrt14ps_VZ_k1z_WZ_b" .plain .v512 .p66 .clear 0x4e [.VZ, .WZ] .float32,
   full "EVEX_Vrsqrt14pd_VX_k1z_WX_b" .plain .v128 .p66 .set 0x4e [.VX, .WX] .float64,
   full "EVEX_Vrsqrt14pd_VY_k1z_WY_b" .plain .v256 .p66 .set 0x4e [.VY, .WY] .float64,
   full "EVEX_Vrsqrt14pd_VZ_k1z_WZ_b" .plain .v512 .p66 .set 0x4e [.VZ, .WZ] .float64,
   evex "EVEX_Vrsqrt14ss_VX_k1z_HX_WX" .nds .lig .p66 .clear 0x4f [.VX, .HX, .WX] .float32
     .oneScalar k1z,
   evex "EVEX_Vrsqrt14sd_VX_k1z_HX_WX" .nds .lig .p66 .set 0x4f [.VX, .HX, .WX] .float64 .oneScalar
     k1z]

/-- Opcodes 50 to 5F of the 0F38 map. -/
def map0F3850 : List Entry := rows .map0F38
  [vex "VEX_Vpbroadcastd_VX_WX" .plain .v128 .p66 .clear 0x58 [.VX, .WX] .int32,
   vex "VEX_Vpbroadcastd_VY_WX" .plain .v256 .p66 .clear 0x58 [.VY, .WX] .int32,
   evex "EVEX_Vpbroadcastd_VX_k1z_WX" .plain .v128 .p66 .clear 0x58 [.VX, .WX] .int32 .oneScalar
     k1z,
   evex "EVEX_Vpbroadcastd_VY_k1z_WX" .plain .v256 .p66 .clear 0x58 [.VY, .WX] .int32 .oneScalar
     k1z,
   evex "EVEX_Vpbroadcastd_VZ_k1z_WX" .plain .v512 .p66 .clear 0x58 [.VZ, .WX] .int32 .oneScalar
     k1z,
   vex "VEX_Vpbroadcastq_VX_WX" .plain .v128 .p66 .clear 0x59 [.VX, .WX] .int64,
   vex "VEX_Vpbroadcastq_VY_WX" .plain .v256 .p66 .clear 0x59 [.VY, .WX] .int64,
   evex "EVEX_Vbroadcasti32x2_VX_k1z_WX" .plain .v128 .p66 .clear 0x59 [.VX, .WX] .packed64Int32
     .two k1z,
   evex "EVEX_Vbroadcasti32x2_VY_k1z_WX" .plain .v256 .p66 .clear 0x59 [.VY, .WX] .packed64Int32
     .two k1z,
   evex "EVEX_Vbroadcasti32x2_VZ_k1z_WX" .plain .v512 .p66 .clear 0x59 [.VZ, .WX] .packed64Int32
     .two k1z,
   evex "EVEX_Vpbroadcastq_VX_k1z_WX" .plain .v128 .p66 .set 0x59 [.VX, .WX] .int64 .oneScalar k1z,
   evex "EVEX_Vpbroadcastq_VY_k1z_WX" .plain .v256 .p66 .set 0x59 [.VY, .WX] .int64 .oneScalar k1z,
   evex "EVEX_Vpbroadcastq_VZ_k1z_WX" .plain .v512 .p66 .set 0x59 [.VZ, .WX] .int64 .oneScalar k1z,
   vex "VEX_Vbroadcasti128_VY_M" .plain .v256 .p66 .clear 0x5a [.VY, .M] .int128 .all mem,
   evex "EVEX_Vbroadcasti32x4_VY_k1z_M" .plain .v256 .p66 .clear 0x5a [.VY, .M] .packed128Int32
     .four [.opmask, .zeroing, .memoryOnly],
   evex "EVEX_Vbroadcasti32x4_VZ_k1z_M" .plain .v512 .p66 .clear 0x5a [.VZ, .M] .packed128Int32
     .four [.opmask, .zeroing, .memoryOnly],
   evex "EVEX_Vbroadcasti64x2_VY_k1z_M" .plain .v256 .p66 .set 0x5a [.VY, .M] .packed128Int64 .two
     [.opmask, .zeroing, .memoryOnly],
   evex "EVEX_Vbroadcasti64x2_VZ_k1z_M" .plain .v512 .p66 .set 0x5a [.VZ, .M] .packed128Int64 .two
     [.opmask, .zeroing, .memoryOnly],
   evex "EVEX_Vbroadcasti32x8_VZ_k1z_M" .plain .v512 .p66 .clear 0x5b [.VZ, .M] .packed256Int32
     .eight [.opmask, .zeroing, .memoryOnly],
   evex "EVEX_Vbroadcasti64x4_VZ_k1z_M" .plain .v512 .p66 .set 0x5b [.VZ, .M] .packed256Int64 .four
     [.opmask, .zeroing, .memoryOnly]]

/-- Opcodes 60 to 6F of the 0F38 map. -/
def map0F3860 : List Entry := rows .map0F38
  [full "EVEX_Vpblendmd_VX_k1z_HX_WX_b" .nds .v128 .p66 .clear 0x64 [.VX, .HX, .WX] .int32,
   full "EVEX_Vpblendmd_VY_k1z_HY_WY_b" .nds .v256 .p66 .clear 0x64 [.VY, .HY, .WY] .int32,
   full "EVEX_Vpblendmd_VZ_k1z_HZ_WZ_b" .nds .v512 .p66 .clear 0x64 [.VZ, .HZ, .WZ] .int32,
   full "EVEX_Vpblendmq_VX_k1z_HX_WX_b" .nds .v128 .p66 .set 0x64 [.VX, .HX, .WX] .int64,
   full "EVEX_Vpblendmq_VY_k1z_HY_WY_b" .nds .v256 .p66 .set 0x64 [.VY, .HY, .WY] .int64,
   full "EVEX_Vpblendmq_VZ_k1z_HZ_WZ_b" .nds .v512 .p66 .set 0x64 [.VZ, .HZ, .WZ] .int64,
   full "EVEX_Vblendmps_VX_k1z_HX_WX_b" .nds .v128 .p66 .clear 0x65 [.VX, .HX, .WX] .float32,
   full "EVEX_Vblendmps_VY_k1z_HY_WY_b" .nds .v256 .p66 .clear 0x65 [.VY, .HY, .WY] .float32,
   full "EVEX_Vblendmps_VZ_k1z_HZ_WZ_b" .nds .v512 .p66 .clear 0x65 [.VZ, .HZ, .WZ] .float32,
   full "EVEX_Vblendmpd_VX_k1z_HX_WX_b" .nds .v128 .p66 .set 0x65 [.VX, .HX, .WX] .float64,
   full "EVEX_Vblendmpd_VY_k1z_HY_WY_b" .nds .v256 .p66 .set 0x65 [.VY, .HY, .WY] .float64,
   full "EVEX_Vblendmpd_VZ_k1z_HZ_WZ_b" .nds .v512 .p66 .set 0x65 [.VZ, .HZ, .WZ] .float64,
   fullMem "EVEX_Vpblendmb_VX_k1z_HX_WX" .nds .v128 .p66 .clear 0x66 [.VX, .HX, .WX] .int8,
   fullMem "EVEX_Vpblendmb_VY_k1z_HY_WY" .nds .v256 .p66 .clear 0x66 [.VY, .HY, .WY] .int8,
   fullMem "EVEX_Vpblendmb_VZ_k1z_HZ_WZ" .nds .v512 .p66 .clear 0x66 [.VZ, .HZ, .WZ] .int8,
   fullMem "EVEX_Vpblendmw_VX_k1z_HX_WX" .nds .v128 .p66 .set 0x66 [.VX, .HX, .WX] .int16,
   fullMem "EVEX_Vpblendmw_VY_k1z_HY_WY" .nds .v256 .p66 .set 0x66 [.VY, .HY, .WY] .int16,
   fullMem "EVEX_Vpblendmw_VZ_k1z_HZ_WZ" .nds .v512 .p66 .set 0x66 [.VZ, .HZ, .WZ] .int16]

/-- Opcodes 70 to 7F of the 0F38 map. -/
def map0F3870 : List Entry := rows .map0F38
  [fullMem "EVEX_Vpermi2b_VX_k1z_HX_WX" .dds .v128 .p66 .clear 0x75 [.VX, .HX, .WX] .int8,
   fullMem "EVEX_Vpermi2b_VY_k1z_HY_WY" .dds .v256 .p66 .clear 0x75 [.VY, .HY, .WY] .int8,
   fullMem "EVEX_Vpermi2b_VZ_k1z_HZ_WZ" .dds .v512 .p66 .clear 0x75 [.VZ, .HZ, .WZ] .int8,
   fullMem "EVEX_Vpermi2w_VX_k1z_HX_WX" .dds .v128 .p66 .set 0x75 [.VX, .HX, .WX] .int16,
   fullMem "EVEX_Vpermi2w_VY_k1z_HY_WY" .dds .v256 .p66 .set 0x75 [.VY, .HY, .WY] .int16,
   fullMem "EVEX_Vpermi2w_VZ_k1z_HZ_WZ" .dds .v512 .p66 .set 0x75 [.VZ, .HZ, .WZ] .int16,
   full "EVEX_Vpermi2d_VX_k1z_HX_WX_b" .dds .v128 .p66 .clear 0x76 [.VX, .HX, .WX] .int32,
   full "EVEX_Vpermi2d_VY_k1z_HY_WY_b" .dds .v256 .p66 .clear 0x76 [.VY, .HY, .WY] .int32,
   full "EVEX_Vpermi2d_VZ_k1z_HZ_WZ_b" .dds .v512 .p66 .clear 0x76 [.VZ, .HZ, .WZ] .int32,
   full "EVEX_Vpermi2q_VX_k1z_HX_WX_b" .dds .v128 .p66 .set 0x76 [.VX, .HX, .WX] .int64,
   full "EVEX_Vpermi2q_VY_k1z_HY_WY_b" .dds .v256 .p66 .set 0x76 [.VY, .HY, .WY] .int64,
   full "EVEX_Vpermi2q_VZ_k1z_HZ_WZ_b" .dds .v512 .p66 .set 0x76 [.VZ, .HZ, .WZ] .int64,
   full "EVEX_Vpermi2ps_VX_k1z_HX_WX_b" .dds .v128 .p66 .clear 0x77 [.VX, .HX, .WX] .float32,
   full "EVEX_Vpermi2ps_VY_k1z_HY_WY_b" .dds .v256 .p66 .clear 0x77 [.VY, .HY, .WY] .float32,
   full "EVEX_Vpermi2ps_VZ_k1z_HZ_WZ_b" .dds .v512 .p66 .clear 0x77 [.VZ, .HZ, .WZ] .float32,
   full "EVEX_Vpermi2pd_VX_k1z_HX_WX_b" .dds .v128 .p66 .set 0x77 [.VX, .HX, .WX] .float64,
   full "EVEX_Vpermi2pd_VY_k1z_HY_WY_b" .dds .v256 .p66 .set 0x77 [.VY, .HY, .WY] .float64,
   full "EVEX_Vpermi2pd_VZ_k1z_HZ_WZ_b" .dds .v512 .p66 .set 0x77 [.VZ, .HZ, .WZ] .float64,
   vex "VEX_Vpbroadcastb_VX_WX" .plain .v128 .p66 .clear 0x78 [.VX, .WX] .int8,
   vex "VEX_Vpbroadcastb_VY_WX" .plain .v256 .p66 .clear 0x78 [.VY, .WX] .int8,
   evex "EVEX_Vpbroadcastb_VX_k1z_WX" .plain .v128 .p66 .clear 0x78 [.VX, .WX] .int8 .oneScalar1
     k1z,
   evex "EVEX_Vpbroadcastb_VY_k1z_WX" .plain .v256 .p66 .clear 0x78 [.VY, .WX] .int8 .oneScalar1
     k1z,
   evex "EVEX_Vpbroadcastb_VZ_k1z_WX" .plain .v512 .p66 .clear 0x78 [.VZ, .WX] .int8 .oneScalar1
     k1z,
   vex "VEX_Vpbroadcastw_VX_WX" .plain .v128 .p66 .clear 0x79 [.VX, .WX] .int16,
   vex "VEX_Vpbroadcastw_VY_WX" .plain .v256 .p66 .clear 0x79 [.VY, .WX] .int16,
   evex "EVEX_Vpbroadcastw_VX_k1z_WX" .plain .v128 .p66 .clear 0x79 [.VX, .WX] .int16 .oneScalar2
     k1z,
   evex "EVEX_Vpbroadcastw_VY_k1z_WX" .plain .v256 .p66 .clear 0x79 [.VY, .WX] .int16 .oneScalar2
     k1z,
   evex "EVEX_Vpbroadcastw_VZ_k1z_WX" .plain .v512 .p66 .clear 0x79 [.VZ, .WX] .int16 .oneScalar2
     k1z,
   evex "EVEX_Vpbroadcastb_VX_k1z_Rd" .plain .v128 .p66 .clear 0x7a [.VX, .Rd] .unknown .plain
     [.opmask, .zeroing, .registerOnly],
   evex "EVEX_Vpbroadcastb_VY_k1z_Rd" .plain .v256 .p66 .clear 0x7a [.VY, .Rd] .unknown .plain
     [.opmask, .zeroing, .registerOnly],
   evex "EVEX_Vpbroadcastb_VZ_k1z_Rd" .plain .v512 .p66 .clear 0x7a [.VZ, .Rd] .unknown .plain
     [.opmask, .zeroing, .registerOnly],
   evex "EVEX_Vpbroadcastw_VX_k1z_Rd" .plain .v128 .p66 .clear 0x7b [.VX, .Rd] .unknown .plain
     [.opmask, .zeroing, .registerOnly],
   evex "EVEX_Vpbroadcastw_VY_k1z_Rd" .plain .v256 .p66 .clear 0x7b [.VY, .Rd] .unknown .plain
     [.opmask, .zeroing, .registerOnly],
   evex "EVEX_Vpbroadcastw_VZ_k1z_Rd" .plain .v512 .p66 .clear 0x7b [.VZ, .Rd] .unknown .plain
     [.opmask, .zeroing, .registerOnly],
   evex "EVEX_Vpbroadcastd_VX_k1z_Rd" .plain .v128 .p66 .clear 0x7c [.VX, .Rd] .unknown .plain
     [.opmask, .zeroing, .wig32, .registerOnly],
   evex "EVEX_Vpbroadcastd_VY_k1z_Rd" .plain .v256 .p66 .clear 0x7c [.VY, .Rd] .unknown .plain
     [.opmask, .zeroing, .wig32, .registerOnly],
   evex "EVEX_Vpbroadcastd_VZ_k1z_Rd" .plain .v512 .p66 .clear 0x7c [.VZ, .Rd] .unknown .plain
     [.opmask, .zeroing, .wig32, .registerOnly],
   evex "EVEX_Vpbroadcastq_VX_k1z_Rq" .plain .v128 .p66 .set 0x7c [.VX, .Rq] .unknown .plain
     [.opmask, .zeroing, .registerOnly] .unknown .only64,
   evex "EVEX_Vpbroadcastq_VY_k1z_Rq" .plain .v256 .p66 .set 0x7c [.VY, .Rq] .unknown .plain
     [.opmask, .zeroing, .registerOnly] .unknown .only64,
   evex "EVEX_Vpbroadcastq_VZ_k1z_Rq" .plain .v512 .p66 .set 0x7c [.VZ, .Rq] .unknown .plain
     [.opmask, .zeroing, .registerOnly] .unknown .only64,
   fullMem "EVEX_Vpermt2b_VX_k1z_HX_WX" .dds .v128 .p66 .clear 0x7d [.VX, .HX, .WX] .int8,
   fullMem "EVEX_Vpermt2b_VY_k1z_HY_WY" .dds .v256 .p66 .clear 0x7d [.VY, .HY, .WY] .int8,
   fullMem "EVEX_Vpermt2b_VZ_k1z_HZ_WZ" .dds .v512 .p66 .clear 0x7d [.VZ, .HZ, .WZ] .int8,
   fullMem "EVEX_Vpermt2w_VX_k1z_HX_WX" .dds .v128 .p66 .set 0x7d [.VX, .HX, .WX] .int16,
   fullMem "EVEX_Vpermt2w_VY_k1z_HY_WY" .dds .v256 .p66 .set 0x7d [.VY, .HY, .WY] .int16,
   fullMem "EVEX_Vpermt2w_VZ_k1z_HZ_WZ" .dds .v512 .p66 .set 0x7d [.VZ, .HZ, .WZ] .int16,
   full "EVEX_Vpermt2d_VX_k1z_HX_WX_b" .dds .v128 .p66 .clear 0x7e [.VX, .HX, .WX] .int32,
   full "EVEX_Vpermt2d_VY_k1z_HY_WY_b" .dds .v256 .p66 .clear 0x7e [.VY, .HY, .WY] .int32,
   full "EVEX_Vpermt2d_VZ_k1z_HZ_WZ_b" .dds .v512 .p66 .clear 0x7e [.VZ, .HZ, .WZ] .int32,
   full "EVEX_Vpermt2q_VX_k1z_HX_WX_b" .dds .v128 .p66 .set 0x7e [.VX, .HX, .WX] .int64,
   full "EVEX_Vpermt2q_VY_k1z_HY_WY_b" .dds .v256 .p66 .set 0x7e [.VY, .HY, .WY] .int64,
   full "EVEX_Vpermt2q_VZ_k1z_HZ_WZ_b" .dds .v512 .p66 .set 0x7e [.VZ, .HZ, .WZ] .int64,
   full "EVEX_Vpermt2ps_VX_k1z_HX_WX_b" .dds .v128 .p66 .clear 0x7f [.VX, .HX, .WX] .float32,
   full "EVEX_Vpermt2ps_VY_k1z_HY_WY_b" .dds .v256 .p66 .clear 0x7f [.VY, .HY, .WY] .float32,
   full "EVEX_Vpermt2ps_VZ_k1z_HZ_WZ_b" .dds .v512 .p66 .clear 0x7f [.VZ, .HZ, .WZ] .float32,
   full "EVEX_Vpermt2pd_VX_k1z_HX_WX_b" .dds .v128 .p66 .set 0x7f [.VX, .HX, .WX] .float64,
   full "EVEX_Vpermt2pd_VY_k1z_HY_WY_b" .dds .v256 .p66 .set 0x7f [.VY, .HY, .WY] .float64,
   full "EVEX_Vpermt2pd_VZ_k1z_HZ_WZ_b" .dds .v512 .p66 .set 0x7f [.VZ, .HZ, .WZ] .float64]

/-- Opcodes 80 to 8F of the 0F38 map. -/
def map0F3880 : List Entry := rows .map0F38
  [legacy "Invept_Gd_M" .p66 0x80 [.Gd, .M] .uint128 .all mem,
   legacy "Invept_Gq_M" .p66 0x80 [.Gq, .M] .uint128 .all mem,
   legacy "Invvpid_Gd_M" .p66 0x81 [.Gd, .M] .uint128 .all mem,
   legacy "Invvpid_Gq_M" .p66 0x81 [.Gq, .M] .uint128 .all mem,
   legacy "Invpcid_Gd_M" .p66 0x82 [.Gd, .M] .uint128 .all mem,
   legacy "Invpcid_Gq_M" .p66 0x82 [.Gq, .M] .uint128 .all mem,
   full "EVEX_Vpmultishiftqb_VX_k1z_HX_WX_b" .nds .v128 .p66 .set 0x83 [.VX, .HX, .WX] .int64,
   full "EVEX_Vpmultishiftqb_VY_k1z_HY_WY_b" .nds .v256 .p66 .set 0x83 [.VY, .HY, .WY] .int64,
   full "EVEX_Vpmultishiftqb_VZ_k1z_HZ_WZ_b" .nds .v512 .p66 .set 0x83 [.VZ, .HZ, .WZ] .int64,
   evex "EVEX_Vexpandps_VX_k1z_WX" .plain .v128 .p66 .clear 0x88 [.VX, .WX] .packed128Float32
     .oneScalar k1z,
   evex "EVEX_Vexpandps_VY_k1z_WY" .plain .v256 .p66 .clear 0x88 [.VY, .WY] .packed256Float32
     .oneScalar k1z,
   evex "EVEX_Vexpandps_VZ_k1z_WZ" .plain .v512 .p66 .clear 0x88 [.VZ, .WZ] .packed512Float32
     .oneScalar k1z,
   evex "EVEX_Vexpandpd_VX_k1z_WX" .plain .v128 .p66 .set 0x88 [.VX, .WX] .packed128Float64
     .oneScalar k1z,
   evex "EVEX_Vexpandpd_VY_k1z_WY" .plain .v256 .p66 .set 0x88 [.VY, .WY] .packed256Float64
     .oneScalar k1z,
   evex "EVEX_Vexpandpd_VZ_k1z_WZ" .plain .v512 .p66 .set 0x88 [.VZ, .WZ] .packed512Float64
     .oneScalar k1z,
   evex "EVEX_Vpexpandd_VX_k1z_WX" .plain .v128 .p66 .clear 0x89 [.VX, .WX] .packed128Int32
     .oneScalar k1z,
   evex "EVEX_Vpexpandd_VY_k1z_WY" .plain .v256 .p66 .clear 0x89 [.VY, .WY] .packed256Int32
     .oneScalar k1z,
   evex "EVEX_Vpexpandd_VZ_k1z_WZ" .plain .v512 .p66 .clear 0x89 [.VZ, .WZ] .packed512Int32
     .oneScalar k1z,
   evex "EVEX_Vpexpandq_VX_k1z_WX" .plain .v128 .p66 .set 0x89 [.VX, .WX] .packed128Int64
     .oneScalar k1z,
   evex "EVEX_Vpexpandq_VY_k1z_WY" .plain .v256 .p66 .set 0x89 [.VY, .WY] .packed256Int64
     .oneScalar k1z,
   evex "EVEX_Vpexpandq_VZ_k1z_WZ" .plain .v512 .p66 .set 0x89 [.VZ, .WZ] .packed512Int64
     .oneScalar k1z,
   evex "EVEX_Vcompressps_WX_k1z_VX" .plain .v128 .p66 .clear 0x8a [.WX, .VX] .packed128Float32
     .oneScalar k1z,
   evex "EVEX_Vcompressps_WY_k1z_VY" .plain .v256 .p66 .clear 0x8a [.WY, .VY] .packed256Float32
     .oneScalar k1z,
   evex "EVEX_Vcompressps_WZ_k1z_VZ" .plain .v512 .p66 .clear 0x8a [.WZ, .VZ] .packed512Float32
     .oneScalar k1z,
   evex "EVEX_Vcompresspd_WX_k1z_VX" .plain .v128 .p66 .set 0x8a [.WX, .VX] .packed128Float64
     .oneScalar k1z,
   evex "EVEX_Vcompresspd_WY_k1z_VY" .plain .v256 .p66 .set 0x8a [.WY, .VY] .packed256Float64
     .oneScalar k1z,
   evex "EVEX_Vcompresspd_WZ_k1z_VZ" .plain .v512 .p66 .set 0x8a [.WZ, .VZ] .packed512Float64
     .oneScalar k1z,
   evex "EVEX_Vpcompressd_WX_k1z_VX" .plain .v128 .p66 .clear 0x8b [.WX, .VX] .packed128Int32
     .oneScalar k1z,
   evex "EVEX_Vpcompressd_WY_k1z_VY" .plain .v256 .p66 .clear 0x8b [.WY, .VY] .packed256Int32
     .oneScalar k1z,
   evex "EVEX_Vpcompressd_WZ_k1z_VZ" .plain .v512 .p66 .clear 0x8b [.WZ, .VZ] .packed512Int32
     .oneScalar k1z,
   evex "EVEX_Vpcompressq_WX_k1z_VX" .plain .v128 .p66 .set 0x8b [.WX, .VX] .packed128Int64
     .oneScalar k1z,
   evex "EVEX_Vpcompressq_WY_k1z_VY" .plain .v256 .p66 .set 0x8b [.WY, .VY] .packed256Int64
     .oneScalar k1z,
   evex "EVEX_Vpcompressq_WZ_k1z_VZ" .plain .v512 .p66 .set 0x8b [.WZ, .VZ] .packed512Int64
     .oneScalar k1z,
   vex "VEX_Vpmaskmovd_VX_HX_M" .nds .v128 .p66 .clear 0x8c [.VX, .HX, .M] .packed128Int32 .all mem,
   vex "VEX_Vpmaskmovd_VY_HY_M" .nds .v256 .p66 .clear 0x8c [.VY, .HY, .M] .packed256Int32 .all mem,
   vex "VEX_Vpmaskmovq_VX_HX_M" .nds .v128 .p66 .set 0x8c [.VX, .HX, .M] .packed128Int64 .all mem,
   vex "VEX_Vpmaskmovq_VY_HY_M" .nds .v256 .p66 .set 0x8c [.VY, .HY, .M] .packed256Int64 .all mem,
   fullMem "EVEX_Vpermb_VX_k1z_HX_WX" .nds .v128 .p66 .clear 0x8d [.VX, .HX, .WX] .int8,
   fullMem "EVEX_Vpermb_VY_k1z_HY_WY" .nds .v256 .p66 .clear 0x8d [.VY, .HY, .WY] .int8,
   fullMem "EVEX_Vpermb_VZ_k1z_HZ_WZ" .nds .v512 .p66 .clear 0x8d [.VZ, .HZ, .WZ] .int8,
   fullMem "EVEX_Vpermw_VX_k1z_HX_WX" .nds .v128 .p66 .set 0x8d [.VX, .HX, .WX] .int16,
   fullMem "EVEX_Vpermw_VY_k1z_HY_WY" .nds .v256 .p66 .set 0x8d [.VY, .HY, .WY] .int16,
   fullMem "EVEX_Vpermw_VZ_k1z_HZ_WZ" .nds .v512 .p66 .set 0x8d [.VZ, .HZ, .WZ] .int16,
   vex "VEX_Vpmaskmovd_M_HX_VX" .nds .v128 .p66 .clear 0x8e [.M, .HX, .VX] .packed128Int32 .all mem,
   vex "VEX_Vpmaskmovd_M_HY_VY" .nds .v256 .p66 .clear 0x8e [.M, .HY, .VY] .packed256Int32 .all mem,
   vex "VEX_Vpmaskmovq_M_HX_VX" .nds .v128 .p66 .set 0x8e [.M, .HX, .VX] .packed128Int64 .all mem,
   vex "VEX_Vpmaskmovq_M_HY_VY" .nds .v256 .p66 .set 0x8e [.M, .HY, .VY] .packed256Int64 .all mem]

end X86Decoder.Table
