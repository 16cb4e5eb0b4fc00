import X86Decoder.Form.Entry
import X86Decoder.Form.Vocabulary

/-!
# Opcodes A0 to AF of the 0F38 map
-/

namespace X86Decoder.Table

open Entry

/-- Opcodes A0 to AF of the 0F38 map. -/
def map0F38A0 : List Entry := rows .map0F38
  [evex "EVEX_Vpscatterdd_VM32X_k1_VX" .plain .v128 .p66 .clear 0xa0 [.VM32X, .VX] .int32
     .oneScalar k1Vsib,
   evex "EVEX_Vpscatterdd_VM32Y_k1_VY" .plain .v256 .p66 .clear 0xa0 [.VM32Y, .VY] .int32
     .oneScalar k1Vsib,
   evex "EVEX_Vpscatterdd_VM32Z_k1_VZ" .plain .v512 .p66 .clear 0xa0 [.VM32Z, .VZ] .int32
     .oneScalar k1Vsib,
   evex "EVEX_Vpscatterdq_VM32X_k1_VX" .plain .v128 .p66 .set 0xa0 [.VM32X, .VX] .int64 .oneScalar
     k1Vsib,
   evex "EVEX_Vpscatterdq_VM32X_k1_VY" .plain .v256 .p66 .set 0xa0 [.VM32X, .VY] .int64 .oneScalar
     k1Vsib,
   evex "EVEX_Vpscatterdq_VM32Y_k1_VZ" .plain .v512 .p66 .set 0xa0 [.VM32Y, .VZ] .int64 .oneScalar
     k1Vsib,
   evex "EVEX_Vpscatterqd_VM64X_k1_VX" .plain .v128 .p66 .clear 0xa1 [.VM64X, .VX] .int32
     .oneScalar k1Vsib,
   evex "EVEX_Vpscatterqd_VM64Y_k1_VX" .plain .v256 .p66 .clear 0xa1 [.VM64Y, .VX] .int32
     .oneScalar k1Vsib,
   evex "EVEX_Vpscatterqd_VM64Z_k1_VY" .plain .v512 .p66 .clear 0xa1 [.VM64Z, .VY] .int32
     .oneScalar k1Vsib,
   evex "EVEX_Vpscatterqq_VM64X_k1_VX" .plain .v128 .p66 .set 0xa1 [.VM64X, .VX] .int64 .oneScalar
     k1Vsib,
   evex "EVEX_Vpscatterqq_VM64Y_k1_VY" .plain .v256 .p66 .set 0xa1 [.VM64Y, .VY] .int64 .oneScalar
     k1Vsib,
   evex "EVEX_Vpscatterqq_VM64Z_k1_VZ" .plain .v512 .p66 .set 0xa1 [.VM64Z, .VZ] .int64 .oneScalar
     k1Vsib,
   evex "EVEX_Vscatterdps_VM32X_k1_VX" .plain .v128 .p66 .clear 0xa2 [.VM32X, .VX] .float32
     .oneScalar k1Vsib,
   evex "EVEX_Vscatterdps_VM32Y_k1_VY" .plain .v256 .p66 .clear 0xa2 [.VM32Y, .VY] .float32
     .oneScalar k1Vsib,
   evex "EVEX_Vscatterdps_VM32Z_k1_VZ" .plain .v512 .p66 .clear 0xa2 [.VM32Z, .VZ] .float32
     .oneScalar k1Vsib,
   evex "EVEX_Vscatterdpd_VM32X_k1_VX" .plain .v128 .p66 .set 0xa2 [.VM32X, .VX] .float64
     .oneScalar k1Vsib,
   evex "EVEX_Vscatterdpd_VM32X_k1_VY" .plain .v256 .p66 .set 0xa2 [.VM32X, .VY] .float64
     .oneScalar k1Vsib,
   evex "EVEX_Vscatterdpd_VM32Y_k1_VZ" .plain .v512 .p66 .set 0xa2 [.VM32Y, .VZ] .float64
     .oneScalar k1Vsib,
   evex "EVEX_Vscatterqps_VM64X_k1_VX" .plain .v128 .p66 .clear 0xa3 [.VM64X, .VX] .float32
     .oneScalar k1Vsib,
   evex "EVEX_Vscatterqps_VM64Y_k1_VX" .plain .v256 .p66 .clear 0xa3 [.VM64Y, .VX] .float32
     .oneScalar k1Vsib,
   evex "EVEX_Vscatterqps_VM64Z_k1_VY" .plain .v512 .p66 .clear 0xa3 [.VM64Z, .VY] .float32
     .oneScalar k1Vsib,
   evex "EVEX_Vscatterqpd_VM64X_k1_VX" .plain .v128 .p66 .set 0xa3 [.VM64X, .VX] .float64
     .oneScalar k1Vsib,
   evex "EVEX_Vscatterqpd_VM64Y_k1_VY" .plain .v256 .p66 .set 0xa3 [.VM64Y, .VY] .float64
     .oneScalar k1Vsib,
   evex "EVEX_Vscatterqpd_VM64Z_k1_VZ" .plain .v512 .p66 .set 0xa3 [.VM64Z, .VZ] .float64
     .oneScalar k1Vsib,
   vex "VEX_Vfmaddsub213ps_VX_HX_WX" .dds .v128 .p66 .clear 0xa6 [.VX, .HX, .WX] .packed128Float32,
   vex "VEX_Vfmaddsub213ps_VY_HY_WY" .dds .v256 .p66 .clear 0xa6 [.VY, .HY, .WY] .packed256Float32,
   vex "VEX_Vfmaddsub213pd_VX_HX_WX" .dds .v128 .p66 .set 0xa6 [.VX, .HX, .WX] .packed128Float64,
   vex "VEX_Vfmaddsub213pd_VY_HY_WY" .dds .v256 .p66 .set 0xa6 [.VY, .HY, .WY] .packed256Float64,
   full "EVEX_Vfmaddsub213ps_VX_k1z_HX_WX_b" .dds .v128 .p66 .clear 0xa6 [.VX, .HX, .WX] .float32,
   full "EVEX_Vfmaddsub213ps_VY_k1z_HY_WY_b" .dds .v256 .p66 .clear 0xa6 [.VY, .HY, .WY] .float32,
   full "EVEX_Vfmaddsub213ps_VZ_k1z_HZ_WZ_er_b" .dds .v512 .p66 .clear 0xa6 [.VZ, .HZ, .WZ]
     .float32 k1zbEr,
   full "EVEX_Vfmaddsub213pd_VX_k1z_HX_WX_b" .dds .v128 .p66 .set 0xa6 [.VX, .HX, .WX] .float64,
   full "EVEX_Vfmaddsub213pd_VY_k1z_HY_WY_b" .dds .v256 .p66 .set 0xa6 [.VY, .HY, .WY] .float64,
   full "EVEX_Vfmaddsub213pd_VZ_k1z_HZ_WZ_er_b" .dds .v512 .p66 .set 0xa6 [.VZ, .HZ, .WZ] .float64
     k1zbEr,
   vex "VEX_Vfmsubadd213ps_VX_HX_WX" .dds .v128 .p66 .clear 0xa7 [.VX, .HX, .WX] .packed128Float32,
   vex "VEX_Vfmsubadd213ps_VY_HY_WY" .dds .v256 .p66 .clear 0xa7 [.VY, .HY, .WY] .packed256Float32,
   vex "VEX_Vfmsubadd213pd_VX_HX_WX" .dds .v128 .p66 .set 0xa7 [.VX, .HX, .WX] .packed128Float64,
   vex "VEX_Vfmsubadd213pd_VY_HY_WY" .dds .v256 .p66 .set 0xa7 [.VY, .HY, .WY] .packed256Float64,
   full "EVEX_Vfmsubadd213ps_VX_k1z_HX_WX_b" .dds .v128 .p66 .clear 0xa7 [.VX, .HX, .WX] .float32,
   full "EVEX_Vfmsubadd213ps_VY_k1z_HY_WY_b" .dds .v256 .p66 .clear 0xa7 [.VY, .HY, .WY] .float32,
   full "EVEX_Vfmsubadd213ps_VZ_k1z_HZ_WZ_er_b" .dds .v512 .p66 .clear 0xa7 [.VZ, .HZ, .WZ]
     .float32 k1zbEr,
   full "EVEX_Vfmsubadd213pd_VX_k1z_HX_WX_b" .dds .v128 .p66 .set 0xa7 [.VX, .HX, .WX] .float64,
   full "EVEX_Vfmsubadd213pd_VY_k1z_HY_WY_b" .dds .v256 .p66 .set 0xa7 [.VY, .HY, .WY] .float64,
   full "EVEX_Vfmsubadd213pd_VZ_k1z_HZ_WZ_er_b" .dds .v512 .p66 .set 0xa7 [.VZ, .HZ, .WZ] .float64
     k1zbEr,
   vex "VEX_Vfmadd213ps_VX_HX_WX" .nds .v128 .p66 .clear 0xa8 [.VX, .HX, .WX] .packed128Float32,
   vex "VEX_Vfmadd213ps_VY_HY_WY" .nds .v256 .p66 .clear 0xa8 [.VY, .HY, .WY] .packed256Float32,
   vex "VEX_Vfmadd213pd_VX_HX_WX" .nds .v128 .p66 .set 0xa8 [.VX, .HX, .WX] .packed128Float64,
   vex "VEX_Vfmadd213pd_VY_HY_WY" .nds .v256 .p66 .set 0xa8 [.VY, .HY, .WY] .packed256Float64,
   full "EVEX_Vfmadd213ps_VX_k1z_HX_WX_b" .nds .v128 .p66 .clear 0xa8 [.VX, .HX, .WX] .float32,
   full "EVEX_Vfmadd213ps_VY_k1z_HY_WY_b" .nds .v256 .p66 .clear 0xa8 [.VY, .HY, .WY] .float32,
   full "EVEX_Vfmadd213ps_VZ_k1z_HZ_WZ_er_b" .nds .v512 .p66 .clear 0xa8 [.VZ, .HZ, .WZ] .float32
     k1zbEr,
   full "EVEX_Vfmadd213pd_VX_k1z_HX_WX_b" .nds .v128 .p66 .set 0xa8 [.VX, .HX, .WX] .float64,
   full "EVEX_Vfmadd213pd_VY_k1z_HY_WY_b" .nds .v256 .p66 .set 0xa8 [.VY, .HY, .WY] .float64,
   full "EVEX_Vfmadd213pd_VZ_k1z_HZ_WZ_er_b" .nds .v512 .p66 .set 0xa8 [.VZ, .HZ, .WZ] .float64
     k1zbEr,
   vex "VEX_Vfmadd213ss_VX_HX_WX" .dds .lig .p66 .clear 0xa9 [.VX, .HX, .WX] .float32,
   vex "VEX_Vfmadd213sd_VX_HX_WX" .dds .lig .p66 .set 0xa9 [.VX, .HX, .WX] .float64,
   evex "EVEX_Vfmadd213ss_VX_k1z_HX_WX_er" .dds .lig .p66 .clear 0xa9 [.VX, .HX, .WX] .float32
     .oneScalar k1zEr,
   evex "EVEX_Vfmadd213sd_VX_k1z_HX_WX_er" .dds .lig .p66 .set 0xa9 [.VX, .HX, .WX] .float64
     .oneScalar k1zEr,
   vex "VEX_Vfmsub213ps_VX_HX_WX" .nds .v128 .p66 .clear 0xaa [.VX, .HX, .WX] .packed128Float32,
   vex "VEX_Vfmsub213ps_VY_HY_WY" .nds .v256 .p66 .clear 0xaa [.VY, .HY, .WY] .packed256Float32,
   vex "VEX_Vfmsub213pd_VX_HX_WX" .nds .v128 .p66 .set 0xaa [.VX, .HX, .WX] .packed128Float64,
   vex "VEX_Vfmsub213pd_VY_HY_WY" .nds .v256 .p66 .set 0xaa [.VY, .HY, .WY] .packed256Float64,
   full "EVEX_Vfmsub213ps_VX_k1z_HX_WX_b" .nds .v128 .p66 .clear 0xaa [.VX, .HX, .WX] .float32,
   full "EVEX_Vfmsub213ps_VY_k1z_HY_WY_b" .nds .v256 .p66 .clear 0xaa [.VY, .HY, .WY] .float32,
   full "EVEX_Vfmsub213ps_VZ_k1z_HZ_WZ_er_b" .nds .v512 .p66 .clear 0xaa [.VZ, .HZ, .WZ] .float32
     k1zbEr,
   full "EVEX_Vfmsub213pd_VX_k1z_HX_WX_b" .nds .v128 .p66 .set 0xaa [.VX, .HX, .WX] .float64,
   full "EVEX_Vfmsub213pd_VY_k1z_HY_WY_b" .nds .v256 .p66 .set 0xaa [.VY, .HY, .WY] .float64,
   full "EVEX_Vfmsub213pd_VZ_k1z_HZ_WZ_er_b" .nds .v512 .p66 .set 0xaa [.VZ, .HZ, .WZ] .float64
     k1zbEr,
   vex "VEX_Vfmsub213ss_VX_HX_WX" .dds .lig .p66 .clear 0xab [.VX, .HX, .WX] .float32,
   vex "VEX_Vfmsub213sd_VX_HX_WX" .dds .lig .p66 .set 0xab [.VX, .HX, .WX] .float64,
   evex "EVEX_Vfmsub213ss_VX_k1z_HX_WX_er" .dds .lig .p66 .clear 0xab [.VX, .HX, .WX] .float32
     .oneScalar k1zEr,
   evex "EVEX_Vfmsub213sd_VX_k1z_HX_WX_er" .dds .lig .p66 .set 0xab [.VX, .HX, .WX] .float64
     .oneScalar k1zEr,
   vex "VEX_Vfnmadd213ps_VX_HX_WX" .nds .v128 .p66 .clear 0xac [.VX, .HX, .WX] .packed128Float32,
   vex "VEX_Vfnmadd213ps_VY_HY_WY" .nds .v256 .p66 .clear 0xac [.VY, .HY, .WY] .packed256Float32,
   vex "VEX_Vfnmadd213pd_VX_HX_WX" .nds .v128 .p66 .set 0xac [.VX, .HX, .WX] .packed128Float64,
   vex "VEX_Vfnmadd213pd_VY_HY_WY" .nds .v256 .p66 .set 0xac [.VY, .HY, .WY] .packed256Float64,
   full "EVEX_Vfnmadd213ps_VX_k1z_HX_WX_b" .nds .v128 .p66 .clear 0xac [.VX, .HX, .WX] .float32,
   full "EVEX_Vfnmadd213ps_VY_k1z_HY_WY_b" .nds .v256 .p66 .clear 0xac [.VY, .HY, .WY] .float32,
   full "EVEX_Vfnmadd213ps_VZ_k1z_HZ_WZ_er_b" .nds .v512 .p66 .clear 0xac [.VZ, .HZ, .WZ] .float32
     k1zbEr,
   full "EVEX_Vfnmadd213pd_VX_k1z_HX_WX_b" .nds .v128 .p66 .set 0xac [.VX, .HX, .WX] .float64,
   full "EVEX_Vfnmadd213pd_VY_k1z_HY_WY_b" .nds .v256 .p66 .set 0xac [.VY, .HY, .WY] .float64,
   full "EVEX_Vfnmadd213pd_VZ_k1z_HZ_WZ_er_b" .nds .v512 .p66 .set 0xac [.VZ, .HZ, .WZ] .float64
     k1zbEr,
   vex "VEX_Vfnmadd213ss_VX_HX_WX" .dds .lig .p66 .clear 0xad [.VX, .HX, .WX] .float32,
   vex "VEX_Vfnmadd213sd_VX_HX_WX" .dds .lig .p66 .set 0xad [.VX, .HX, .WX] .float64,
   evex "EVEX_Vfnmadd213ss_VX_k1z_HX_WX_er" .dds .lig .p66 .clear 0xad [.VX, .HX, .WX] .float32
     .oneScalar k1zEr,
   evex "EVEX_Vfnmadd213sd_VX_k1z_HX_WX_er" .dds .lig .p66 .set 0xad [.VX, .HX, .WX] .float64
     .oneScalar k1zEr,
   vex "VEX_Vfnmsub213ps_VX_HX_WX" .nds .v128 .p66 .clear 0xae [.VX, .HX, .WX] .packed128Float32,
   vex "VEX_Vfnmsub213ps_VY_HY_WY" .nds .v256 .p66 .clear 0xae [.VY, .HY, .WY] .packed256Float32,
   vex "VEX_Vfnmsub213pd_VX_HX_WX" .nds .v128 .p66 .set 0xae [.VX, .HX, .WX] .packed128Float64,
   vex "VEX_Vfnmsub213pd_VY_HY_WY" .nds .v256 .p66 .set 0xae [.VY, .HY, .WY] .packed256Float64,
   full "EVEX_Vfnmsub213ps_VX_k1z_HX_WX_b" .nds .v128 .p66 .clear 0xae [.VX, .HX, .WX] .float32,
   full "EVEX_Vfnmsub213ps_VY_k1z_HY_WY_b" .nds .v256 .p66 .clear 0xae [.VY, .HY, .WY] .float32,
   full "EVEX_Vfnmsub213ps_VZ_k1z_HZ_WZ_er_b" .nds .v512 .p66 .clear 0xae [.VZ, .HZ, .WZ] .float32
     k1zbEr,
   full "EVEX_Vfnmsub213pd_VX_k1z_HX_WX_b" .nds .v128 .p66 .set 0xae [.VX, .HX, .WX] .float64,
   full "EVEX_Vfnmsub213pd_VY_k1z_HY_WY_b" .nds .v256 .p66 .set 0xae [.VY, .HY, .WY] .float64,
   full "EVEX_Vfnmsub213pd_VZ_k1z_HZ_WZ_er_b" .nds .v512 .p66 .set 0xae [.VZ, .HZ, .WZ] .float64
     k1zbEr,
   vex "VEX_Vfnmsub213ss_VX_HX_WX" .dds .lig .p66 .clear 0xaf [.VX, .HX, .WX] .float32,
   vex "VEX_Vfnmsub213sd_VX_HX_WX" .dds .lig .p66 .set 0xaf [.VX, .HX, .WX] .float64,
   evex "EVEX_Vfnmsub213ss_VX_k1z_HX_WX_er" .dds .lig .p66 .clear 0xaf [.VX, .HX, .WX] .float32
     .oneScalar k1zEr,
   evex "EVEX_Vfnmsub213sd_VX_k1z_HX_WX_er" .dds .lig .p66 .set 0xaf [.VX, .HX, .WX] .float64
     .oneScalar k1zEr]

end X86Decoder.Table
