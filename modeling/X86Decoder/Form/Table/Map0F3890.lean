import X86Decoder.Form.Entry
import X86Decoder.Form.Vocabulary

/-!
# Opcodes 90 to 9F of the 0F38 map
-/

namespace X86Decoder.Table

open Entry

/-- Opcodes 90 to 9F of the 0F38 map. -/
def map0F3890 : List Entry := rows .map0F38
  [vex "VEX_Vpgatherdd_VX_VM32X_HX" .dds .v128 .p66 .clear 0x90 [.VX, .VM32X, .HX] .int32 .all mem,
   vex "VEX_Vpgatherdd_VY_VM32Y_HY" .dds .v256 .p66 .clear 0x90 [.VY, .VM32Y, .HY] .int32 .all mem,
   vex "VEX_Vpgatherdq_VX_VM32X_HX" .dds .v128 .p66 .set 0x90 [.VX, .VM32X, .HX] .int64 .all mem,
   vex "VEX_Vpgatherdq_VY_VM32X_HY" .dds .v256 .p66 .set 0x90 [.VY, .VM32X, .HY] .int64 .all mem,
   evex "EVEX_Vpgatherdd_VX_k1_VM32X" .plain .v128 .p66 .clear 0x90 [.VX, .VM32X] .int32 .oneScalar
     k1Vsib,
   evex "EVEX_Vpgatherdd_VY_k1_VM32Y" .plain .v256 .p66 .clear 0x90 [.VY, .VM32Y] .int32 .oneScalar
     k1Vsib,
   evex "EVEX_Vpgatherdd_VZ_k1_VM32Z" .plain .v512 .p66 .clear 0x90 [.VZ, .VM32Z] .int32 .oneScalar
     k1Vsib,
   evex "EVEX_Vpgatherdq_VX_k1_VM32X" .plain .v128 .p66 .set 0x90 [.VX, .VM32X] .int64 .oneScalar
     k1Vsib,
   evex "EVEX_Vpgatherdq_VY_k1_VM32X" .plain .v256 .p66 .set 0x90 [.VY, .VM32X] .int64 .oneScalar
     k1Vsib,
   evex "EVEX_Vpgatherdq_VZ_k1_VM32Y" .plain .v512 .p66 .set 0x90 [.VZ, .VM32Y] .int64 .oneScalar
     k1Vsib,
   vex "VEX_Vpgatherqd_VX_VM64X_HX" .dds .v128 .p66 .clear 0x91 [.VX, .VM64X, .HX] .int32 .all mem,
   vex "VEX_Vpgatherqd_VX_VM64Y_HX" .dds .v256 .p66 .clear 0x91 [.VX, .VM64Y, .HX] .int32 .all mem,
   vex "VEX_Vpgatherqq_VX_VM64X_HX" .dds .v128 .p66 .set 0x91 [.VX, .VM64X, .HX] .int64 .all mem,
   vex "VEX_Vpgatherqq_VY_VM64Y_HY" .dds .v256 .p66 .set 0x91 [.VY, .VM64Y, .HY] .int64 .all mem,
   evex "EVEX_Vpgatherqd_VX_k1_VM64X" .plain .v128 .p66 .clear 0x91 [.VX, .VM64X] .int32 .oneScalar
     k1Vsib,
   evex "EVEX_Vpgatherqd_VX_k1_VM64Y" .plain .v256 .p66 .clear 0x91 [.VX, .VM64Y] .int32 .oneScalar
     k1Vsib,
   evex "EVEX_Vpgatherqd_VY_k1_VM64Z" .plain .v512 .p66 .clear 0x91 [.VY, .VM64Z] .int32 .oneScalar
     k1Vsib,
   evex "EVEX_Vpgatherqq_VX_k1_VM64X" .plain .v128 .p66 .set 0x91 [.VX, .VM64X] .int64 .oneScalar
     k1Vsib,
   evex "EVEX_Vpgatherqq_VY_k1_VM64Y" .plain .v256 .p66 .set 0x91 [.VY, .VM64Y] .int64 .oneScalar
     k1Vsib,
   evex "EVEX_Vpgatherqq_VZ_k1_VM64Z" .plain .v512 .p66 .set 0x91 [.VZ, .VM64Z] .int64 .oneScalar
     k1Vsib,
   vex "VEX_Vgatherdps_VX_VM32X_HX" .dds .v128 .p66 .clear 0x92 [.VX, .VM32X, .HX] .float32 .all
     mem,
   vex "VEX_Vgatherdps_VY_VM32Y_HY" .dds .v256 .p66 .clear 0x92 [.VY, .VM32Y, .HY] .float32 .all
     mem,
   vex "VEX_Vgatherdpd_VX_VM32X_HX" .dds .v128 .p66 .set 0x92 [.VX, .VM32X, .HX] .float64 .all mem,
   vex "VEX_Vgatherdpd_VY_VM32X_HY" .dds .v256 .p66 .set 0x92 [.VY, .VM32X, .HY] .float64 .all mem,
   evex "EVEX_Vgatherdps_VX_k1_VM32X" .plain .v128 .p66 .clear 0x92 [.VX, .VM32X] .float32
     .oneScalar k1Vsib,
   evex "EVEX_Vgatherdps_VY_k1_VM32Y" .plain .v256 .p66 .clear 0x92 [.VY, .VM32Y] .float32
     .oneScalar k1Vsib,
   evex "EVEX_Vgatherdps_VZ_k1_VM32Z" .plain .v512 .p66 .clear 0x92 [.VZ, .VM32Z] .float32
     .oneScalar k1Vsib,
   evex "EVEX_Vgatherdpd_VX_k1_VM32X" .plain .v128 .p66 .set 0x92 [.VX, .VM32X] .float64 .oneScalar
     k1Vsib,
   evex "EVEX_Vgatherdpd_VY_k1_VM32X" .plain .v256 .p66 .set 0x92 [.VY, .VM32X] .float64 .oneScalar
     k1Vsib,
   evex "EVEX_Vgatherdpd_VZ_k1_VM32Y" .plain .v512 .p66 .set 0x92 [.VZ, .VM32Y] .float64 .oneScalar
     k1Vsib,
   vex "VEX_Vgatherqps_VX_VM64X_HX" .dds .v128 .p66 .clear 0x93 [.VX, .VM64X, .HX] .float32 .all
     mem,
   vex "VEX_Vgatherqps_VX_VM64Y_HX" .dds .v256 .p66 .clear 0x93 [.VX, .VM64Y, .HX] .float32 .all
     mem,
   vex "VEX_Vgatherqpd_VX_VM64X_HX" .dds .v128 .p66 .set 0x93 [.VX, .VM64X, .HX] .float64 .all mem,
   vex "VEX_Vgatherqpd_VY_VM64Y_HY" .dds .v256 .p66 .set 0x93 [.VY, .VM64Y, .HY] .float64 .all mem,
   evex "EVEX_Vgatherqps_VX_k1_VM64X" .plain .v128 .p66 .clear 0x93 [.VX, .VM64X] .float32
     .oneScalar k1Vsib,
   evex "EVEX_Vgatherqps_VX_k1_VM64Y" .plain .v256 .p66 .clear 0x93 [.VX, .VM64Y] .float32
     .oneScalar k1Vsib,
   evex "EVEX_Vgatherqps_VY_k1_VM64Z" .plain .v512 .p66 .clear 0x93 [.VY, .VM64Z] .float32
     .oneScalar k1Vsib,
   evex "EVEX_Vgatherqpd_VX_k1_VM64X" .plain .v128 .p66 .set 0x93 [.VX, .VM64X] .float64 .oneScalar
     k1Vsib,
   evex "EVEX_Vgatherqpd_VY_k1_VM64Y" .plain .v256 .p66 .set 0x93 [.VY, .VM64Y] .float64 .oneScalar
     k1Vsib,
   evex "EVEX_Vgatherqpd_VZ_k1_VM64Z" .plain .v512 .p66 .set 0x93 [.VZ, .VM64Z] .float64 .oneScalar
     k1Vsib,
   vex "VEX_Vfmaddsub132ps_VX_HX_WX" .dds .v128 .p66 .clear 0x96 [.VX, .HX, .WX] .packed128Float32,
   vex "VEX_Vfmaddsub132ps_VY_HY_WY" .dds .v256 .p66 .clear 0x96 [.VY, .HY, .WY] .packed256Float32,
   vex "VEX_Vfmaddsub132pd_VX_HX_WX" .dds .v128 .p66 .set 0x96 [.VX, .HX, .WX] .packed128Float64,
   vex "VEX_Vfmaddsub132pd_VY_HY_WY" .dds .v256 .p66 .set 0x96 [.VY, .HY, .WY] .packed256Float64,
   full "EVEX_Vfmaddsub132ps_VX_k1z_HX_WX_b" .dds .v128 .p66 .clear 0x96 [.VX, .HX, .WX] .float32,
   full "EVEX_Vfmaddsub132ps_VY_k1z_HY_WY_b" .dds .v256 .p66 .clear 0x96 [.VY, .HY, .WY] .float32,
   full "EVEX_Vfmaddsub132ps_VZ_k1z_HZ_WZ_er_b" .dds .v512 .p66 .clear 0x96 [.VZ, .HZ, .WZ]
     .float32 k1zbEr,
   full "EVEX_Vfmaddsub132pd_VX_k1z_HX_WX_b" .dds .v128 .p66 .set 0x96 [.VX, .HX, .WX] .float64,
   full "EVEX_Vfmaddsub132pd_VY_k1z_HY_WY_b" .dds .v256 .p66 .set 0x96 [.VY, .HY, .WY] .float64,
   full "EVEX_Vfmaddsub132pd_VZ_k1z_HZ_WZ_er_b" .dds .v512 .p66 .set 0x96 [.VZ, .HZ, .WZ] .float64
     k1zbEr,
   vex "VEX_Vfmsubadd132ps_VX_HX_WX" .dds .v128 .p66 .clear 0x97 [.VX, .HX, .WX] .packed128Float32,
   vex "VEX_Vfmsubadd132ps_VY_HY_WY" .dds .v256 .p66 .clear 0x97 [.VY, .HY, .WY] .packed256Float32,
   vex "VEX_Vfmsubadd132pd_VX_HX_WX" .dds .v128 .p66 .set 0x97 [.VX, .HX, .WX] .packed128Float64,
   vex "VEX_Vfmsubadd132pd_VY_HY_WY" .dds .v256 .p66 .set 0x97 [.VY, .HY, .WY] .packed256Float64,
   full "EVEX_Vfmsubadd132ps_VX_k1z_HX_WX_b" .dds .v128 .p66 .clear 0x97 [.VX, .HX, .WX] .float32,
   full "EVEX_Vfmsubadd132ps_VY_k1z_HY_WY_b" .dds .v256 .p66 .clear 0x97 [.VY, .HY, .WY] .float32,
   full "EVEX_Vfmsubadd132ps_VZ_k1z_HZ_WZ_er_b" .dds .v512 .p66 .clear 0x97 [.VZ, .HZ, .WZ]
     .float32 k1zbEr,
   full "EVEX_Vfmsubadd132pd_VX_k1z_HX_WX_b" .dds .v128 .p66 .set 0x97 [.VX, .HX, .WX] .float64,
   full "EVEX_Vfmsubadd132pd_VY_k1z_HY_WY_b" .dds .v256 .p66 .set 0x97 [.VY, .HY, .WY] .float64,
   full "EVEX_Vfmsubadd132pd_VZ_k1z_HZ_WZ_er_b" .dds .v512 .p66 .set 0x97 [.VZ, .HZ, .WZ] .float64
     k1zbEr,
   vex "VEX_Vfmadd132ps_VX_HX_WX" .nds .v128 .p66 .clear 0x98 [.VX, .HX, .WX] .packed128Float32,
   vex "VEX_Vfmadd132ps_VY_HY_WY" .nds .v256 .p66 .clear 0x98 [.VY, .HY, .WY] .packed256Float32,
   vex "VEX_Vfmadd132pd_VX_HX_WX" .nds .v128 .p66 .set 0x98 [.VX, .HX, .WX] .packed128Float64,
   vex "VEX_Vfmadd132pd_VY_HY_WY" .nds .v256 .p66 .set 0x98 [.VY, .HY, .WY] .packed256Float64,
   full "EVEX_Vfmadd132ps_VX_k1z_HX_WX_b" .nds .v128 .p66 .clear 0x98 [.VX, .HX, .WX] .float32,
   full "EVEX_Vfmadd132ps_VY_k1z_HY_WY_b" .nds .v256 .p66 .clear 0x98 [.VY, .HY, .WY] .float32,
   full "EVEX_Vfmadd132ps_VZ_k1z_HZ_WZ_er_b" .nds .v512 .p66 .clear 0x98 [.VZ, .HZ, .WZ] .float32
     k1zbEr,
   full "EVEX_Vfmadd132pd_VX_k1z_HX_WX_b" .nds .v128 .p66 .set 0x98 [.VX, .HX, .WX] .float64,
   full "EVEX_Vfmadd132pd_VY_k1z_HY_WY_b" .nds .v256 .p66 .set 0x98 [.VY, .HY, .WY] .float64,
   full "EVEX_Vfmadd132pd_VZ_k1z_HZ_WZ_er_b" .nds .v512 .p66 .set 0x98 [.VZ, .HZ, .WZ] .float64
     k1zbEr,
   vex "VEX_Vfmadd132ss_VX_HX_WX" .dds .lig .p66 .clear 0x99 [.VX, .HX, .WX] .float32,
   vex "VEX_Vfmadd132sd_VX_HX_WX" .dds .lig .p66 .set 0x99 [.VX, .HX, .WX] .float64,
   evex "EVEX_Vfmadd132ss_VX_k1z_HX_WX_er" .dds .lig .p66 .clear 0x99 [.VX, .HX, .WX] .float32
     .oneScalar k1zEr,
   evex "EVEX_Vfmadd132sd_VX_k1z_HX_WX_er" .dds .lig .p66 .set 0x99 [.VX, .HX, .WX] .float64
     .oneScalar k1zEr,
   vex "VEX_Vfmsub132ps_VX_HX_WX" .nds .v128 .p66 .clear 0x9a [.VX, .HX, .WX] .packed128Float32,
   vex "VEX_Vfmsub132ps_VY_HY_WY" .nds .v256 .p66 .clear 0x9a [.VY, .HY, .WY] .packed256Float32,
   vex "VEX_Vfmsub132pd_VX_HX_WX" .nds .v128 .p66 .set 0x9a [.VX, .HX, .WX] .packed128Float64,
   vex "VEX_Vfmsub132pd_VY_HY_WY" .nds .v256 .p66 .set 0x9a [.VY, .HY, .WY] .packed256Float64,
   full "EVEX_Vfmsub132ps_VX_k1z_HX_WX_b" .nds .v128 .p66 .clear 0x9a [.VX, .HX, .WX] .float32,
   full "EVEX_Vfmsub132ps_VY_k1z_HY_WY_b" .nds .v256 .p66 .clear 0x9a [.VY, .HY, .WY] .float32,
   full "EVEX_Vfmsub132ps_VZ_k1z_HZ_WZ_er_b" .nds .v512 .p66 .clear 0x9a [.VZ, .HZ, .WZ] .float32
     k1zbEr,
   full "EVEX_Vfmsub132pd_VX_k1z_HX_WX_b" .nds .v128 .p66 .set 0x9a [.VX, .HX, .WX] .float64,
   full "EVEX_Vfmsub132pd_VY_k1z_HY_WY_b" .nds .v256 .p66 .set 0x9a [.VY, .HY, .WY] .float64,
   full "EVEX_Vfmsub132pd_VZ_k1z_HZ_WZ_er_b" .nds .v512 .p66 .set 0x9a [.VZ, .HZ, .WZ] .float64
     k1zbEr,
   vex "VEX_Vfmsub132ss_VX_HX_WX" .dds .lig .p66 .clear 0x9b [.VX, .HX, .WX] .float32,
   vex "VEX_Vfmsub132sd_VX_HX_WX" .dds .lig .p66 .set 0x9b [.VX, .HX, .WX] .float64,
   evex "EVEX_Vfmsub132ss_VX_k1z_HX_WX_er" .dds .lig .p66 .clear 0x9b [.VX, .HX, .WX] .float32
     .oneScalar k1zEr,
   evex "EVEX_Vfmsub132sd_VX_k1z_HX_WX_er" .dds .lig .p66 .set 0x9b [.VX, .HX, .WX] .float64
     .oneScalar k1zEr,
   vex "VEX_Vfnmadd132ps_VX_HX_WX" .nds .v128 .p66 .clear 0x9c [.VX, .HX, .WX] .packed128Float32,
   vex "VEX_Vfnmadd132ps_VY_HY_WY" .nds .v256 .p66 .clear 0x9c [.VY, .HY, .WY] .packed256Float32,
   vex "VEX_Vfnmadd132pd_VX_HX_WX" .nds .v128 .p66 .set 0x9c [.VX, .HX, .WX] .packed128Float64,
   vex "VEX_Vfnmadd132pd_VY_HY_WY" .nds .v256 .p66 .set 0x9c [.VY, .HY, .WY] .packed256Float64,
   full "EVEX_Vfnmadd132ps_VX_k1z_HX_WX_b" .nds .v128 .p66 .clear 0x9c [.VX, .HX, .WX] .float32,
   full "EVEX_Vfnmadd132ps_VY_k1z_HY_WY_b" .nds .v256 .p66 .clear 0x9c [.VY, .HY, .WY] .float32,
   full "EVEX_Vfnmadd132ps_VZ_k1z_HZ_WZ_er_b" .nds .v512 .p66 .clear 0x9c [.VZ, .HZ, .WZ] .float32
     k1zbEr,
   full "EVEX_Vfnmadd132pd_VX_k1z_HX_WX_b" .nds .v128 .p66 .set 0x9c [.VX, .HX, .WX] .float64,
   full "EVEX_Vfnmadd132pd_VY_k1z_HY_WY_b" .nds .v256 .p66 .set 0x9c [.VY, .HY, .WY] .float64,
   full "EVEX_Vfnmadd132pd_VZ_k1z_HZ_WZ_er_b" .nds .v512 .p66 .set 0x9c [.VZ, .HZ, .WZ] .float64
     k1zbEr,
   vex "VEX_Vfnmadd132ss_VX_HX_WX" .dds .lig .p66 .clear 0x9d [.VX, .HX, .WX] .float32,
   vex "VEX_Vfnmadd132sd_VX_HX_WX" .dds .lig .p66 .set 0x9d [.VX, .HX, .WX] .float64,
   evex "EVEX_Vfnmadd132ss_VX_k1z_HX_WX_er" .dds .lig .p66 .clear 0x9d [.VX, .HX, .WX] .float32
     .oneScalar k1zEr,
   evex "EVEX_Vfnmadd132sd_VX_k1z_HX_WX_er" .dds .lig .p66 .set 0x9d [.VX, .HX, .WX] .float64
     .oneScalar k1zEr,
   vex "VEX_Vfnmsub132ps_VX_HX_WX" .nds .v128 .p66 .clear 0x9e [.VX, .HX, .WX] .packed128Float32,
   vex "VEX_Vfnmsub132ps_VY_HY_WY" .nds .v256 .p66 .clear 0x9e [.VY, .HY, .WY] .packed256Float32,
   vex "VEX_Vfnmsub132pd_VX_HX_WX" .nds .v128 .p66 .set 0x9e [.VX, .HX, .WX] .packed128Float64,
   vex "VEX_Vfnmsub132pd_VY_HY_WY" .nds .v256 .p66 .set 0x9e [.VY, .HY, .WY] .packed256Float64,
   full "EVEX_Vfnmsub132ps_VX_k1z_HX_WX_b" .nds .v128 .p66 .clear 0x9e [.VX, .HX, .WX] .float32,
   full "EVEX_Vfnmsub132ps_VY_k1z_HY_WY_b" .nds .v256 .p66 .clear 0x9e [.VY, .HY, .WY] .float32,
   full "EVEX_Vfnmsub132ps_VZ_k1z_HZ_WZ_er_b" .nds .v512 .p66 .clear 0x9e [.VZ, .HZ, .WZ] .float32
     k1zbEr,
   full "EVEX_Vfnmsub132pd_VX_k1z_HX_WX_b" .nds .v128 .p66 .set 0x9e [.VX, .HX, .WX] .float64,
   full "EVEX_Vfnmsub132pd_VY_k1z_HY_WY_b" .nds .v256 .p66 .set 0x9e [.VY, .HY, .WY] .float64,
   full "EVEX_Vfnmsub132pd_VZ_k1z_HZ_WZ_er_b" .nds .v512 .p66 .set 0x9e [.VZ, .HZ, .WZ] .float64
     k1zbEr,
   vex "VEX_Vfnmsub132ss_VX_HX_WX" .dds .lig .p66 .clear 0x9f [.VX, .HX, .WX] .float32,
   vex "VEX_Vfnmsub132sd_VX_HX_WX" .dds .lig .p66 .set 0x9f [.VX, .HX, .WX] .float64,
   evex "EVEX_Vfnmsub132ss_VX_k1z_HX_WX_er" .dds .lig .p66 .clear 0x9f [.VX, .HX, .WX] .float32
     .oneScalar k1zEr,
   evex "EVEX_Vfnmsub132sd_VX_k1z_HX_WX_er" .dds .lig .p66 .set 0x9f [.VX, .HX, .WX] .float64
     .oneScalar k1zEr]

end X86Decoder.Table
