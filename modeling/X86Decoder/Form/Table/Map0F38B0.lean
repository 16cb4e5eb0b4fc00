import X86Decoder.Form.Entry
import X86Decoder.Form.Vocabulary

/-!
# Opcodes B0 to FF of the 0F38 map
-/

namespace X86Decoder.Table

open Entry

/-- Opcodes B0 to BF of the 0F38 map. -/
def map0F38B0 : List Entry := rows .map0F38
  [full "EVEX_Vpmadd52luq_VX_k1z_HX_WX_b" .dds .v128 .p66 .set 0xb4 [.VX, .HX, .WX] .uint52,
   full "EVEX_Vpmadd52luq_VY_k1z_HY_WY_b" .dds .v256 .p66 .set 0xb4 [.VY, .HY, .WY] .uint52,
   full "EVEX_Vpmadd52luq_VZ_k1z_HZ_WZ_b" .dds .v512 .p66 .set 0xb4 [.VZ, .HZ, .WZ] .uint52,
   full "EVEX_Vpmadd52huq_VX_k1z_HX_WX_b" .dds .v128 .p66 .set 0xb5 [.VX, .HX, .WX] .uint52,
   full "EVEX_Vpmadd52huq_VY_k1z_HY_WY_b" .dds .v256 .p66 .set 0xb5 [.VY, .HY, .WY] .uint52,
   full "EVEX_Vpmadd52huq_VZ_k1z_HZ_WZ_b" .dds .v512 .p66 .set 0xb5 [.VZ, .HZ, .WZ] .uint52,
   vex "VEX_Vfmaddsub231ps_VX_HX_WX" .dds .v128 .p66 .clear 0xb6 [.VX, .HX, .WX] .packed128Float32,
   vex "VEX_Vfmaddsub231ps_VY_HY_WY" .dds .v256 .p66 .clear 0xb6 [.VY, .HY, .WY] .packed256Float32,
   vex "VEX_Vfmaddsub231pd_VX_HX_WX" .dds .v128 .p66 .set 0xb6 [.VX, .HX, .WX] .packed128Float64,
   vex "VEX_Vfmaddsub231pd_VY_HY_WY" .dds .v256 .p66 .set 0xb6 [.VY, .HY, .WY] .packed256Float64,
   full "EVEX_Vfmaddsub231ps_VX_k1z_HX_WX_b" .dds .v128 .p66 .clear 0xb6 [.VX, .HX, .WX] .float32,
   full "EVEX_Vfmaddsub231ps_VY_k1z_HY_WY_b" .dds .v256 .p66 .clear 0xb6 [.VY, .HY, .WY] .float32,
   full "EVEX_Vfmaddsub231ps_VZ_k1z_HZ_WZ_er_b" .dds .v512 .p66 .clear 0xb6 [.VZ, .HZ, .WZ]
     .float32 k1zbEr,
   full "EVEX_Vfmaddsub231pd_VX_k1z_HX_WX_b" .dds .v128 .p66 .set 0xb6 [.VX, .HX, .WX] .float64,
   full "EVEX_Vfmaddsub231pd_VY_k1z_HY_WY_b" .dds .v256 .p66 .set 0xb6 [.VY, .HY, .WY] .float64,
   full "EVEX_Vfmaddsub231pd_VZ_k1z_HZ_WZ_er_b" .dds .v512 .p66 .set 0xb6 [.VZ, .HZ, .WZ] .float64
     k1zbEr,
   vex "VEX_Vfmsubadd231ps_VX_HX_WX" .dds .v128 .p66 .clear 0xb7 [.VX, .HX, .WX] .packed128Float32,
   vex "VEX_Vfmsubadd231ps_VY_HY_WY" .dds .v256 .p66 .clear 0xb7 [.VY, .HY, .WY] .packed256Float32,
   vex "VEX_Vfmsubadd231pd_VX_HX_WX" .dds .v128 .p66 .set 0xb7 [.VX, .HX, .WX] .packed128Float64,
   vex "VEX_Vfmsubadd231pd_VY_HY_WY" .dds .v256 .p66 .set 0xb7 [.VY, .HY, .WY] .packed256Float64,
   full "EVEX_Vfmsubadd231ps_VX_k1z_HX_WX_b" .dds .v128 .p66 .clear 0xb7 [.VX, .HX, .WX] .float32,
   full "EVEX_Vfmsubadd231ps_VY_k1z_HY_WY_b" .dds .v256 .p66 .clear 0xb7 [.VY, .HY, .WY] .float32,
   full "EVEX_Vfmsubadd231ps_VZ_k1z_HZ_WZ_er_b" .dds .v512 .p66 .clear 0xb7 [.VZ, .HZ, .WZ]
     .float32 k1zbEr,
   full "EVEX_Vfmsubadd231pd_VX_k1z_HX_WX_b" .dds .v128 .p66 .set 0xb7 [.VX, .HX, .WX] .float64,
   full "EVEX_Vfmsubadd231pd_VY_k1z_HY_WY_b" .dds .v256 .p66 .set 0xb7 [.VY, .HY, .WY] .float64,
   full "EVEX_Vfmsubadd231pd_VZ_k1z_HZ_WZ_er_b" .dds .v512 .p66 .set 0xb7 [.VZ, .HZ, .WZ] .float64
     k1zbEr,
   vex "VEX_Vfmadd231ps_VX_HX_WX" .nds .v128 .p66 .clear 0xb8 [.VX, .HX, .WX] .packed128Float32,
   vex "VEX_Vfmadd231ps_VY_HY_WY" .nds .v256 .p66 .clear 0xb8 [.VY, .HY, .WY] .packed256Float32,
   vex "VEX_Vfmadd231pd_VX_HX_WX" .nds .v128 .p66 .set 0xb8 [.VX, .HX, .WX] .packed128Float64,
   vex "VEX_Vfmadd231pd_VY_HY_WY" .nds .v256 .p66 .set 0xb8 [.VY, .HY, .WY] .packed256Float64,
   full "EVEX_Vfmadd231ps_VX_k1z_HX_WX_b" .nds .v128 .p66 .clear 0xb8 [.VX, .HX, .WX] .float32,
   full "EVEX_Vfmadd231ps_VY_k1z_HY_WY_b" .nds .v256 .p66 .clear 0xb8 [.VY, .HY, .WY] .float32,
   full "EVEX_Vfmadd231ps_VZ_k1z_HZ_WZ_er_b" .nds .v512 .p66 .clear 0xb8 [.VZ, .HZ, .WZ] .float32
     k1zbEr,
   full "EVEX_Vfmadd231pd_VX_k1z_HX_WX_b" .nds .v128 .p66 .set 0xb8 [.VX, .HX, .WX] .float64,
   full "EVEX_Vfmadd231pd_VY_k1z_HY_WY_b" .nds .v256 .p66 .set 0xb8 [.VY, .HY, .WY] .float64,
   full "EVEX_Vfmadd231pd_VZ_k1z_HZ_WZ_er_b" .nds .v512 .p66 .set 0xb8 [.VZ, .HZ, .WZ] .float64
     k1zbEr,
   vex "VEX_Vfmadd231ss_VX_HX_WX" .dds .lig .p66 .clear 0xb9 [.VX, .HX, .WX] .float32,
   vex "VEX_Vfmadd231sd_VX_HX_WX" .dds .lig .p66 .set 0xb9 [.VX, .HX, .WX] .float64,
   evex "EVEX_Vfmadd231ss_VX_k1z_HX_WX_er" .dds .lig .p66 .clear 0xb9 [.VX, .HX, .WX] .float32
     .oneScalar k1zEr,
   evex "EVEX_Vfmadd231sd_VX_k1z_HX_WX_er" .dds .lig .p66 .set 0xb9 [.VX, .HX, .WX] .float64
     .oneScalar k1zEr,
   vex "VEX_Vfmsub231ps_VX_HX_WX" .nds .v128 .p66 .clear 0xba [.VX, .HX, .WX] .packed128Float32,
   vex "VEX_Vfmsub231ps_VY_HY_WY" .nds .v256 .p66 .clear 0xba [.VY, .HY, .WY] .packed256Float32,
   vex "VEX_Vfmsub231pd_VX_HX_WX" .nds .v128 .p66 .set 0xba [.VX, .HX, .WX] .packed128Float64,
   vex "VEX_Vfmsub231pd_VY_HY_WY" .nds .v256 .p66 .set 0xba [.VY, .HY, .WY] .packed256Float64,
   full "EVEX_Vfmsub231ps_VX_k1z_HX_WX_b" .nds .v128 .p66 .clear 0xba [.VX, .HX, .WX] .float32,
   full "EVEX_Vfmsub231ps_VY_k1z_HY_WY_b" .nds .v256 .p66 .clear 0xba [.VY, .HY, .WY] .float32,
   full "EVEX_Vfmsub231ps_VZ_k1z_HZ_WZ_er_b" .nds .v512 .p66 .clear 0xba [.VZ, .HZ, .WZ] .float32
     k1zbEr,
   full "EVEX_Vfmsub231pd_VX_k1z_HX_WX_b" .nds .v128 .p66 .set 0xba [.VX, .HX, .WX] .float64,
   full "EVEX_Vfmsub231pd_VY_k1z_HY_WY_b" .nds .v256 .p66 .set 0xba [.VY, .HY, .WY] .float64,
   full "EVEX_Vfmsub231pd_VZ_k1z_HZ_WZ_er_b" .nds .v512 .p66 .set 0xba [.VZ, .HZ, .WZ] .float64
     k1zbEr,
   vex "VEX_Vfmsub231ss_VX_HX_WX" .dds .lig .p66 .clear 0xbb [.VX, .HX, .WX] .float32,
   vex "VEX_Vfmsub231sd_VX_HX_WX" .dds .lig .p66 .set 0xbb [.VX, .HX, .WX] .float64,
   evex "EVEX_Vfmsub231ss_VX_k1z_HX_WX_er" .dds .lig .p66 .clear 0xbb [.VX, .HX, .WX] .float32
     .oneScalar k1zEr,
   evex "EVEX_Vfmsub231sd_VX_k1z_HX_WX_er" .dds .lig .p66 .set 0xbb [.VX, .HX, .WX] .float64
     .oneScalar k1zEr,
   vex "VEX_Vfnmadd231ps_VX_HX_WX" .nds .v128 .p66 .clear 0xbc [.VX, .HX, .WX] .packed128Float32,
   vex "VEX_Vfnmadd231ps_VY_HY_WY" .nds .v256 .p66 .clear 0xbc [.VY, .HY, .WY] .packed256Float32,
   vex "VEX_Vfnmadd231pd_VX_HX_WX" .nds .v128 .p66 .set 0xbc [.VX, .HX, .WX] .packed128Float64,
   vex "VEX_Vfnmadd231pd_VY_HY_WY" .nds .v256 .p66 .set 0xbc [.VY, .HY, .WY] .packed256Float64,
   full "EVEX_Vfnmadd231ps_VX_k1z_HX_WX_b" .nds .v128 .p66 .clear 0xbc [.VX, .HX, .WX] .float32,
   full "EVEX_Vfnmadd231ps_VY_k1z_HY_WY_b" .nds .v256 .p66 .clear 0xbc [.VY, .HY, .WY] .float32,
   full "EVEX_Vfnmadd231ps_VZ_k1z_HZ_WZ_er_b" .nds .v512 .p66 .clear 0xbc [.VZ, .HZ, .WZ] .float32
     k1zbEr,
   full "EVEX_Vfnmadd231pd_VX_k1z_HX_WX_b" .nds .v128 .p66 .set 0xbc [.VX, .HX, .WX] .float64,
   full "EVEX_Vfnmadd231pd_VY_k1z_HY_WY_b" .nds .v256 .p66 .set 0xbc [.VY, .HY, .WY] .float64,
   full "EVEX_Vfnmadd231pd_VZ_k1z_HZ_WZ_er_b" .nds .v512 .p66 .set 0xbc [.VZ, .HZ, .WZ] .float64
     k1zbEr,
   vex "VEX_Vfnmadd231ss_VX_HX_WX" .dds .lig .p66 .clear 0xbd [.VX, .HX, .WX] .float32,
   vex "VEX_Vfnmadd231sd_VX_HX_WX" .dds .lig .p66 .set 0xbd [.VX, .HX, .WX] .float64,
   evex "EVEX_Vfnmadd231ss_VX_k1z_HX_WX_er" .dds .lig .p66 .clear 0xbd [.VX, .HX, .WX] .float32
     .oneScalar k1zEr,
   evex "EVEX_Vfnmadd231sd_VX_k1z_HX_WX_er" .dds .lig .p66 .set 0xbd [.VX, .HX, .WX] .float64
     .oneScalar k1zEr,
   vex "VEX_Vfnmsub231ps_VX_HX_WX" .nds .v128 .p66 .clear 0xbe [.VX, .HX, .WX] .packed128Float32,
   vex "VEX_Vfnmsub231ps_VY_HY_WY" .nds .v256 .p66 .clear 0xbe [.VY, .HY, .WY] .packed256Float32,
   vex "VEX_Vfnmsub231pd_VX_HX_WX" .nds .v128 .p66 .set 0xbe [.VX, .HX, .WX] .packed128Float64,
   vex "VEX_Vfnmsub231pd_VY_HY_WY" .nds .v256 .p66 .set 0xbe [.VY, .HY, .WY] .packed256Float64,
   full "EVEX_Vfnmsub231ps_VX_k1z_HX_WX_b" .nds .v128 .p66 .clear 0xbe [.VX, .HX, .WX] .float32,
   full "EVEX_Vfnmsub231ps_VY_k1z_HY_WY_b" .nds .v256 .p66 .clear 0xbe [.VY, .HY, .WY] .float32,
   full "EVEX_Vfnmsub231ps_VZ_k1z_HZ_WZ_er_b" .nds .v512 .p66 .clear 0xbe [.VZ, .HZ, .WZ] .float32
     k1zbEr,
   full "EVEX_Vfnmsub231pd_VX_k1z_HX_WX_b" .nds .v128 .p66 .set 0xbe [.VX, .HX, .WX] .float64,
   full "EVEX_Vfnmsub231pd_VY_k1z_HY_WY_b" .nds .v256 .p66 .set 0xbe [.VY, .HY, .WY] .float64,
   full "EVEX_Vfnmsub231pd_VZ_k1z_HZ_WZ_er_b" .nds .v512 .p66 .set 0xbe [.VZ, .HZ, .WZ] .float64
     k1zbEr,
   vex "VEX_Vfnmsub231ss_VX_HX_WX" .dds .lig .p66 .clear 0xbf [.VX, .HX, .WX] .float32,
   vex "VEX_Vfnmsub231sd_VX_HX_WX" .dds .lig .p66 .set 0xbf [.VX, .HX, .WX] .float64,
   evex "EVEX_Vfnmsub231ss_VX_k1z_HX_WX_er" .dds .lig .p66 .clear 0xbf [.VX, .HX, .WX] .float32
     .oneScalar k1zEr,
   evex "EVEX_Vfnmsub231sd_VX_k1z_HX_WX_er" .dds .lig .p66 .set 0xbf [.VX, .HX, .WX] .float64
     .oneScalar k1zEr]

/-- Opcodes C0 to CF of the 0F38 map. -/
def map0F38C0 : List Entry := rows .map0F38
  [full "EVEX_Vpconflictd_VX_k1z_WX_b" .plain .v128 .p66 .clear 0xc4 [.VX, .WX] .int32,
   full "EVEX_Vpconflictd_VY_k1z_WY_b" .plain .v256 .p66 .clear 0xc4 [.VY, .WY] .int32,
   full "EVEX_Vpconflictd_VZ_k1z_WZ_b" .plain .v512 .p66 .clear 0xc4 [.VZ, .WZ] .int32,
   full "EVEX_Vpconflictq_VX_k1z_WX_b" .plain .v128 .p66 .set 0xc4 [.VX, .WX] .int64,
   full "EVEX_Vpconflictq_VY_k1z_WY_b" .plain .v256 .p66 .set 0xc4 [.VY, .WY] .int64,
   full "EVEX_Vpconflictq_VZ_k1z_WZ_b" .plain .v512 .p66 .set 0xc4 [.VZ, .WZ] .int64,
   legacy "Sha1nexte_VX_WX" .free 0xc8 [.VX, .WX] .packed128UInt32,
   legacy "Sha1msg1_VX_WX" .free 0xc9 [.VX, .WX] .packed128UInt32,
   legacy "Sha1msg2_VX_WX" .free 0xca [.VX, .WX] .packed128UInt32,
   legacy "Sha256rnds2_VX_WX" .free 0xcb [.VX, .WX] .packed128UInt32,
   legacy "Sha256msg1_VX_WX" .free 0xcc [.VX, .WX] .packed128UInt32,
   legacy "Sha256msg2_VX_WX" .free 0xcd [.VX, .WX] .packed128UInt32,
   evex "EVEX_Vgatherpf0dps_VM32Z_k1" .plain .v512 .p66 .clear 0xc6 [.VM32Z] .float32 .oneScalar
     k1Vsib .unknown .all (.reg 1),
   evex "EVEX_Vgatherpf0dpd_VM32Y_k1" .plain .v512 .p66 .set 0xc6 [.VM32Y] .float64 .oneScalar
     k1Vsib .unknown .all (.reg 1),
   evex "EVEX_Vgatherpf1dps_VM32Z_k1" .plain .v512 .p66 .clear 0xc6 [.VM32Z] .float32 .oneScalar
     k1Vsib .unknown .all (.reg 2),
   evex "EVEX_Vgatherpf1dpd_VM32Y_k1" .plain .v512 .p66 .set 0xc6 [.VM32Y] .float64 .oneScalar
     k1Vsib .unknown .all (.reg 2),
   evex "EVEX_Vscatterpf0dps_VM32Z_k1" .plain .v512 .p66 .clear 0xc6 [.VM32Z] .float32 .oneScalar
     k1Vsib .unknown .all (.reg 5),
   evex "EVEX_Vscatterpf0dpd_VM32Y_k1" .plain .v512 .p66 .set 0xc6 [.VM32Y] .float64 .oneScalar
     k1Vsib .unknown .all (.reg 5),
   evex "EVEX_Vscatterpf1dps_VM32Z_k1" .plain .v512 .p66 .clear 0xc6 [.VM32Z] .float32 .oneScalar
     k1Vsib .unknown .all (.reg 6),
   evex "EVEX_Vscatterpf1dpd_VM32Y_k1" .plain .v512 .p66 .set 0xc6 [.VM32Y] .float64 .oneScalar
     k1Vsib .unknown .all (.reg 6),
   evex "EVEX_Vgatherpf0qps_VM64Z_k1" .plain .v512 .p66 .clear 0xc7 [.VM64Z] .float32 .oneScalar
     k1Vsib .unknown .all (.reg 1),
   evex "EVEX_Vgatherpf0qpd_VM64Z_k1" .plain .v512 .p66 .set 0xc7 [.VM64Z] .float64 .oneScalar
     k1Vsib .unknown .all (.reg 1),
   evex "EVEX_Vgatherpf1qps_VM64Z_k1" .plain .v512 .p66 .clear 0xc7 [.VM64Z] .float32 .oneScalar
     k1Vsib .unknown .all (.reg 2),
   evex "EVEX_Vgatherpf1qpd_VM64Z_k1" .plain .v512 .p66 .set 0xc7 [.VM64Z] .float64 .oneScalar
     k1Vsib .unknown .all (.reg 2),
   evex "EVEX_Vscatterpf0qps_VM64Z_k1" .plain .v512 .p66 .clear 0xc7 [.VM64Z] .float32 .oneScalar
     k1Vsib .unknown .all (.reg 5),
   evex "EVEX_Vscatterpf0qpd_VM64Z_k1" .plain .v512 .p66 .set 0xc7 [.VM64Z] .float64 .oneScalar
     k1Vsib .unknown .all (.reg 5),
   evex "EVEX_Vscatterpf1qps_VM64Z_k1" .plain .v512 .p66 .clear 0xc7 [.VM64Z] .float32 .oneScalar
     k1Vsib .unknown .all (.reg 6),
   evex "EVEX_Vscatterpf1qpd_VM64Z_k1" .plain .v512 .p66 .set 0xc7 [.VM64Z] .float64 .oneScalar
     k1Vsib .unknown .all (.reg 6),
   full "EVEX_Vexp2ps_VZ_k1z_WZ_sae_b" .plain .v512 .p66 .clear 0xc8 [.VZ, .WZ] .float32 k1zbSae,
   full "EVEX_Vexp2pd_VZ_k1z_WZ_sae_b" .plain .v512 .p66 .set 0xc8 [.VZ, .WZ] .float64 k1zbSae,
   full "EVEX_Vrcp28ps_VZ_k1z_WZ_sae_b" .plain .v512 .p66 .clear 0xca [.VZ, .WZ] .float32 k1zbSae,
   full "EVEX_Vrcp28pd_VZ_k1z_WZ_sae_b" .plain .v512 .p66 .set 0xca [.VZ, .WZ] .float64 k1zbSae,
   evex "EVEX_Vrcp28ss_VX_k1z_HX_WX_sae" .nds .lig .p66 .clear 0xcb [.VX, .HX, .WX] .float32
     .oneScalar k1zSae,
   evex "EVEX_Vrcp28sd_VX_k1z_HX_WX_sae" .nds .lig .p66 .set 0xcb [.VX, .HX, .WX] .float64
     .oneScalar k1zSae,
   full "EVEX_Vrsqrt28ps_VZ_k1z_WZ_sae_b" .plain .v512 .p66 .clear 0xcc [.VZ, .WZ] .float32 k1zbSae,
   full "EVEX_Vrsqrt28pd_VZ_k1z_WZ_sae_b" .plain .v512 .p66 .set 0xcc [.VZ, .WZ] .float64 k1zbSae,
   evex "EVEX_Vrsqrt28ss_VX_k1z_HX_WX_sae" .nds .lig .p66 .clear 0xcd [.VX, .HX, .WX] .float32
     .oneScalar k1zSae,
   evex "EVEX_Vrsqrt28sd_VX_k1z_HX_WX_sae" .nds .lig .p66 .set 0xcd [.VX, .HX, .WX] .float64
     .oneScalar k1zSae]

/-- Opcodes D0 to DF of the 0F38 map. -/
def map0F38D0 : List Entry := rows .map0F38
  [legacy "Aesimc_VX_WX" .p66 0xdb [.VX, .WX] .uint128,
   vex "VEX_Vaesimc_VX_WX" .plain .v128 .p66 .any 0xdb [.VX, .WX] .uint128,
   legacy "Aesenc_VX_WX" .p66 0xdc [.VX, .WX] .uint128,
   vex "VEX_Vaesenc_VX_HX_WX" .nds .v128 .p66 .any 0xdc [.VX, .HX, .WX] .uint128,
   legacy "Aesenclast_VX_WX" .p66 0xdd [.VX, .WX] .uint128,
   vex "VEX_Vaesenclast_VX_HX_WX" .nds .v128 .p66 .any 0xdd [.VX, .HX, .WX] .uint128,
   legacy "Aesdec_VX_WX" .p66 0xde [.VX, .WX] .uint128,
   vex "VEX_Vaesdec_VX_HX_WX" .nds .v128 .p66 .any 0xde [.VX, .HX, .WX] .uint128,
   legacy "Aesdeclast_VX_WX" .p66 0xdf [.VX, .WX] .uint128,
   vex "VEX_Vaesdeclast_VX_HX_WX" .nds .v128 .p66 .any 0xdf [.VX, .HX, .WX] .uint128]

/-- Opcodes F0 to FF of the 0F38 map. -/
def map0F38F0 : List Entry := rows .map0F38
  [legacy "Crc32_Gq_Eb" { operandSize := some .w64, mandatory := .pF2 } 0xf0 [.Gq, .Eb] .uint8
     .only64,
   legacy "Crc32_Gd_Eb" .pF2 0xf0 [.Gd, .Eb] .uint8,
   legacy "Movbe_Gq_Mq" .o64 0xf0 [.Gq, .Mq] .uint64 .only64 mem,
   legacy "Movbe_Gw_Mw" .o16 0xf0 [.Gw, .Mw] .uint16 .all mem,
   legacy "Movbe_Gd_Md" .o32 0xf0 [.Gd, .Md] .uint32 .all mem,
   legacy "Crc32_Gq_Eq" { operandSize := some .w64, mandatory := .pF2 } 0xf1 [.Gq, .Eq] .uint64
     .only64,
   legacy "Crc32_Gd_Ed" .pF2 0xf1 [.Gd, .Ed] .uint32,
   legacy "Movbe_Mq_Gq" .o64 0xf1 [.Mq, .Gq] .uint64 .only64 mem,
   legacy "Movbe_Mw_Gw" .o16 0xf1 [.Mw, .Gw] .uint16 .all mem,
   legacy "Movbe_Md_Gd" .o32 0xf1 [.Md, .Gd] .uint32 .all mem,
   vex "VEX_Andn_Gd_Hd_Ed" .nds .l0 .none .clear 0xf2 [.Gd, .Hd, .Ed] .uint32 .all [.wig32],
   vex "VEX_Andn_Gq_Hq_Eq" .nds .l0 .none .set 0xf2 [.Gq, .Hq, .Eq] .uint64 .only64,
   vex "VEX_Blsr_Hd_Ed" .ndd .l0 .none .clear 0xf3 [.Hd, .Ed] .uint32 .all [.wig32] (.reg 1),
   vex "VEX_Blsr_Hq_Eq" .ndd .l0 .none .set 0xf3 [.Hq, .Eq] .uint64 .only64 [] (.reg 1),
   vex "VEX_Blsmsk_Hd_Ed" .ndd .l0 .none .clear 0xf3 [.Hd, .Ed] .uint32 .all [.wig32] (.reg 2),
   vex "VEX_Blsmsk_Hq_Eq" .ndd .l0 .none .set 0xf3 [.Hq, .Eq] .uint64 .only64 [] (.reg 2),
   vex "VEX_Blsi_Hd_Ed" .ndd .l0 .none .clear 0xf3 [.Hd, .Ed] .uint32 .all [.wig32] (.reg 3),
   vex "VEX_Blsi_Hq_Eq" .ndd .l0 .none .set 0xf3 [.Hq, .Eq] .uint64 .only64 [] (.reg 3),
   vex "VEX_Bzhi_Gd_Ed_Hd" .nds .l0 .none .clear 0xf5 [.Gd, .Ed, .Hd] .uint32 .all [.wig32],
   vex "VEX_Bzhi_Gq_Eq_Hq" .nds .l0 .none .set 0xf5 [.Gq, .Eq, .Hq] .uint64 .only64,
   vex "VEX_Pext_Gd_Hd_Ed" .nds .l0 .pF3 .clear 0xf5 [.Gd, .Hd, .Ed] .uint32 .all [.wig32],
   vex "VEX_Pext_Gq_Hq_Eq" .nds .l0 .pF3 .set 0xf5 [.Gq, .Hq, .Eq] .uint64 .only64,
   vex "VEX_Pdep_Gd_Hd_Ed" .nds .l0 .pF2 .clear 0xf5 [.Gd, .Hd, .Ed] .uint32 .all [.wig32],
   vex "VEX_Pdep_Gq_Hq_Eq" .nds .l0 .pF2 .set 0xf5 [.Gq, .Hq, .Eq] .uint64 .only64,
   legacy "Adcx_Gq_Eq" .o64p66 0xf6 [.Gq, .Eq] .uint64 .only64,
   legacy "Adox_Gq_Eq" .o64pF3 0xf6 [.Gq, .Eq] .uint64 .only64,
   legacy "Adcx_Gd_Ed" .p66 0xf6 [.Gd, .Ed] .uint32,
   legacy "Adox_Gd_Ed" .pF3 0xf6 [.Gd, .Ed] .uint32,
   vex "VEX_Mulx_Gd_Hd_Ed" .ndd .l0 .pF2 .clear 0xf6 [.Gd, .Hd, .Ed] .uint32 .all [.wig32],
   vex "VEX_Mulx_Gq_Hq_Eq" .ndd .l0 .pF2 .set 0xf6 [.Gq, .Hq, .Eq] .uint64 .only64,
   vex "VEX_Bextr_Gd_Ed_Hd" .nds .l0 .none .clear 0xf7 [.Gd, .Ed, .Hd] .uint32 .all [.wig32],
   vex "VEX_Bextr_Gq_Eq_Hq" .nds .l0 .none .set 0xf7 [.Gq, .Eq, .Hq] .uint64 .only64,
   vex "VEX_Shlx_Gd_Ed_Hd" .nds .l0 .p66 .clear 0xf7 [.Gd, .Ed, .Hd] .uint32 .all [.wig32],
   vex "VEX_Shlx_Gq_Eq_Hq" .nds .l0 .p66 .set 0xf7 [.Gq, .Eq, .Hq] .uint64 .only64,
   vex "VEX_Sarx_Gd_Ed_Hd" .nds .l0 .pF3 .clear 0xf7 [.Gd, .Ed, .Hd] .int32 .all [.wig32],
   vex "VEX_Sarx_Gq_Eq_Hq" .nds .l0 .pF3 .set 0xf7 [.Gq, .Eq, .Hq] .int64 .only64,
   vex "VEX_Shrx_Gd_Ed_Hd" .nds .l0 .pF2 .clear 0xf7 [.Gd, .Ed, .Hd] .uint32 .all [.wig32],
   vex "VEX_Shrx_Gq_Eq_Hq" .nds .l0 .pF2 .set 0xf7 [.Gq, .Eq, .Hq] .uint64 .only64]

end X86Decoder.Table
