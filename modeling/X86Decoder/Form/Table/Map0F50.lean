import X86Decoder.Form.Entry
import X86Decoder.Form.Vocabulary

/-!
# Opcodes 50 to 5F of the 0F map
-/

namespace X86Decoder.Table

open Entry

/-- Opcodes 50 to 5F of the 0F map. -/
def map0F50 : List Entry := rows .map0F
  [legacy "Movmskpd_Gq_RX" .o64p66 0x50 [.Gq, .RX] .unknown .only64 reg,
   legacy "Movmskpd_Gd_RX" .p66 0x50 [.Gd, .RX] .unknown .all reg,
   legacy "Movmskps_Gq_RX" .o64 0x50 [.Gq, .RX] .unknown .only64 reg,
   legacy "Movmskps_Gd_RX" .np 0x50 [.Gd, .RX] .unknown .all reg,
   vex "VEX_Vmovmskps_Gd_RX" .plain .v128 .none .clear 0x50 [.Gd, .RX] .unknown .all
     [.wig32, .registerOnly],
   vex "VEX_Vmovmskps_Gq_RX" .plain .v128 .none .set 0x50 [.Gq, .RX] .unknown .only64 reg,
   vex "VEX_Vmovmskps_Gd_RY" .plain .v256 .none .clear 0x50 [.Gd, .RY] .unknown .all
     [.wig32, .registerOnly],
   vex "VEX_Vmovmskps_Gq_RY" .plain .v256 .none .set 0x50 [.Gq, .RY] .unknown .only64 reg,
   vex "VEX_Vmovmskpd_Gd_RX" .plain .v128 .p66 .clear 0x50 [.Gd, .RX] .unknown .all
     [.wig32, .registerOnly],
   vex "VEX_Vmovmskpd_Gq_RX" .plain .v128 .p66 .set 0x50 [.Gq, .RX] .unknown .only64 reg,
   vex "VEX_Vmovmskpd_Gd_RY" .plain .v256 .p66 .clear 0x50 [.Gd, .RY] .unknown .all
     [.wig32, .registerOnly],
   vex "VEX_Vmovmskpd_Gq_RY" .plain .v256 .p66 .set 0x50 [.Gq, .RY] .unknown .only64 reg,
   legacy "Sqrtpd_VX_WX" .p66 0x51 [.VX, .WX] .packed128Float64,
   legacy "Sqrtss_VX_WX" .pF3 0x51 [.VX, .WX] .float32,
   legacy "Sqrtsd_VX_WX" .pF2 0x51 [.VX, .WX] .float64,
   legacy "Sqrtps_VX_WX" .np 0x51 [.VX, .WX] .packed128Float32,
   vex "VEX_Vsqrtps_VX_WX" .plain .v128 .none .any 0x51 [.VX, .WX] .packed128Float32,
   vex "VEX_Vsqrtps_VY_WY" .plain .v256 .none .any 0x51 [.VY, .WY] .packed256Float32,
   vex "VEX_Vsqrtpd_VX_WX" .plain .v128 .p66 .any 0x51 [.VX, .WX] .packed128Float64,
   vex "VEX_Vsqrtpd_VY_WY" .plain .v256 .p66 .any 0x51 [.VY, .WY] .packed256Float64,
   vex "VEX_Vsqrtss_VX_HX_WX" .nds .lig .pF3 .any 0x51 [.VX, .HX, .WX] .float32,
   vex "VEX_Vsqrtsd_VX_HX_WX" .nds .lig .pF2 .any 0x51 [.VX, .HX, .WX] .float64,
   full "EVEX_Vsqrtps_VX_k1z_WX_b" .nds .v128 .none .clear 0x51 [.VX, .WX] .float32,
   full "EVEX_Vsqrtps_VY_k1z_WY_b" .nds .v256 .none .clear 0x51 [.VY, .WY] .float32,
   full "EVEX_Vsqrtps_VZ_k1z_WZ_er_b" .nds .v512 .none .clear 0x51 [.VZ, .WZ] .float32 k1zbEr,
   full "EVEX_Vsqrtpd_VX_k1z_WX_b" .plain .v128 .p66 .set 0x51 [.VX, .WX] .float64,
   full "EVEX_Vsqrtpd_VY_k1z_WY_b" .plain .v256 .p66 .set 0x51 [.VY, .WY] .float64,
   full "EVEX_Vsqrtpd_VZ_k1z_WZ_er_b" .plain .v512 .p66 .set 0x51 [.VZ, .WZ] .float64 k1zbEr,
   evex "EVEX_Vsqrtss_VX_k1z_HX_WX_er" .nds .lig .pF3 .clear 0x51 [.VX, .HX, .WX] .float32
     .oneScalar k1zEr,
   evex "EVEX_Vsqrtsd_VX_k1z_HX_WX_er" .nds .lig .pF2 .set 0x51 [.VX, .HX, .WX] .float64 .oneScalar
     k1zEr,
   legacy "Rsqrtss_VX_WX" .pF3 0x52 [.VX, .WX] .float32,
   legacy "Rsqrtps_VX_WX" .np 0x52 [.VX, .WX] .packed128Float32,
   vex "VEX_Vrsqrtps_VX_WX" .plain .v128 .none .any 0x52 [.VX, .WX] .packed128Float32,
   vex "VEX_Vrsqrtps_VY_WY" .plain .v256 .none .any 0x52 [.VY, .WY] .packed256Float32,
   vex "VEX_Vrsqrtss_VX_HX_WX" .nds .lig .pF3 .any 0x52 [.VX, .HX, .WX] .float32,
   legacy "Rcpss_VX_WX" .pF3 0x53 [.VX, .WX] .float32,
   legacy "Rcpps_VX_WX" .np 0x53 [.VX, .WX] .packed128Float32,
   vex "VEX_Vrcpps_VX_WX" .plain .v128 .none .any 0x53 [.VX, .WX] .packed128Float32,
   vex "VEX_Vrcpps_VY_WY" .plain .v256 .none .any 0x53 [.VY, .WY] .packed256Float32,
   vex "VEX_Vrcpss_VX_HX_WX" .nds .lig .pF3 .any 0x53 [.VX, .HX, .WX] .float32,
   legacy "Andpd_VX_WX" .p66 0x54 [.VX, .WX] .packed128Float64,
   legacy "Andps_VX_WX" .np 0x54 [.VX, .WX] .packed128Float32,
   vex "VEX_Vandps_VX_HX_WX" .nds .v128 .none .any 0x54 [.VX, .HX, .WX] .packed128Float32,
   vex "VEX_Vandps_VY_HY_WY" .nds .v256 .none .any 0x54 [.VY, .HY, .WY] .packed256Float32,
   vex "VEX_Vandpd_VX_HX_WX" .nds .v128 .p66 .any 0x54 [.VX, .HX, .WX] .packed128Float64,
   vex "VEX_Vandpd_VY_HY_WY" .nds .v256 .p66 .any 0x54 [.VY, .HY, .WY] .packed256Float64,
   full "EVEX_Vandps_VX_k1z_HX_WX_b" .nds .v128 .none .clear 0x54 [.VX, .HX, .WX] .float32,
   full "EVEX_Vandps_VY_k1z_HY_WY_b" .nds .v256 .none .clear 0x54 [.VY, .HY, .WY] .float32,
   full "EVEX_Vandps_VZ_k1z_HZ_WZ_b" .nds .v512 .none .clear 0x54 [.VZ, .HZ, .WZ] .float32,
   full "EVEX_Vandpd_VX_k1z_HX_WX_b" .nds .v128 .p66 .set 0x54 [.VX, .HX, .WX] .float64,
   full "EVEX_Vandpd_VY_k1z_HY_WY_b" .nds .v256 .p66 .set 0x54 [.VY, .HY, .WY] .float64,
   full "EVEX_Vandpd_VZ_k1z_HZ_WZ_b" .nds .v512 .p66 .set 0x54 [.VZ, .HZ, .WZ] .float64,
   legacy "Andnpd_VX_WX" .p66 0x55 [.VX, .WX] .packed128Float64,
   legacy "Andnps_VX_WX" .np 0x55 [.VX, .WX] .packed128Float32,
   vex "VEX_Vandnps_VX_HX_WX" .nds .v128 .none .any 0x55 [.VX, .HX, .WX] .packed128Float32,
   vex "VEX_Vandnps_VY_HY_WY" .nds .v256 .none .any 0x55 [.VY, .HY, .WY] .packed256Float32,
   vex "VEX_Vandnpd_VX_HX_WX" .nds .v128 .p66 .any 0x55 [.VX, .HX, .WX] .packed128Float64,
   vex "VEX_Vandnpd_VY_HY_WY" .nds .v256 .p66 .any 0x55 [.VY, .HY, .WY] .packed256Float64,
   full "EVEX_Vandnps_VX_k1z_HX_WX_b" .nds .v128 .none .clear 0x55 [.VX, .HX, .WX] .float32,
   full "EVEX_Vandnps_VY_k1z_HY_WY_b" .nds .v256 .none .clear 0x55 [.VY, .HY, .WY] .float32,
   full "EVEX_Vandnps_VZ_k1z_HZ_WZ_b" .nds .v512 .none .clear 0x55 [.VZ, .HZ, .WZ] .float32,
   full "EVEX_Vandnpd_VX_k1z_HX_WX_b" .nds .v128 .p66 .set 0x55 [.VX, .HX, .WX] .float64,
   full "EVEX_Vandnpd_VY_k1z_HY_WY_b" .nds .v256 .p66 .set 0x55 [.VY, .HY, .WY] .float64,
   full "EVEX_Vandnpd_VZ_k1z_HZ_WZ_b" .nds .v512 .p66 .set 0x55 [.VZ, .HZ, .WZ] .float64,
   legacy "Orpd_VX_WX" .p66 0x56 [.VX, .WX] .packed128Float64,
   legacy "Orps_VX_WX" .np 0x56 [.VX, .WX] .packed128Float32,
   vex "VEX_Vorps_VX_HX_WX" .nds .v128 .none .any 0x56 [.VX, .HX, .WX] .packed128Float32,
   vex "VEX_Vorps_VY_HY_WY" .nds .v256 .none .any 0x56 [.VY, .HY, .WY] .packed256Float32,
   vex "VEX_Vorpd_VX_HX_WX" .nds .v128 .p66 .any 0x56 [.VX, .HX, .WX] .packed128Float64,
   vex "VEX_Vorpd_VY_HY_WY" .nds .v256 .p66 .any 0x56 [.VY, .HY, .WY] .packed256Float64,
   full "EVEX_Vorps_VX_k1z_HX_WX_b" .nds .v128 .none .clear 0x56 [.VX, .HX, .WX] .float32,
   full "EVEX_Vorps_VY_k1z_HY_WY_b" .nds .v256 .none .clear 0x56 [.VY, .HY, .WY] .float32,
   full "EVEX_Vorps_VZ_k1z_HZ_WZ_b" .nds .v512 .none .clear 0x56 [.VZ, .HZ, .WZ] .float32,
   full "EVEX_Vorpd_VX_k1z_HX_WX_b" .nds .v128 .p66 .set 0x56 [.VX, .HX, .WX] .float64,
   full "EVEX_Vorpd_VY_k1z_HY_WY_b" .nds .v256 .p66 .set 0x56 [.VY, .HY, .WY] .float64,
   full "EVEX_Vorpd_VZ_k1z_HZ_WZ_b" .nds .v512 .p66 .set 0x56 [.VZ, .HZ, .WZ] .float64,
   legacy "Xorpd_VX_WX" .p66 0x57 [.VX, .WX] .packed128Float64,
   legacy "Xorps_VX_WX" .np 0x57 [.VX, .WX] .packed128Float32,
   vex "VEX_Vxorps_VX_HX_WX" .nds .v128 .none .any 0x57 [.VX, .HX, .WX] .packed128Float32,
   vex "VEX_Vxorps_VY_HY_WY" .nds .v256 .none .any 0x57 [.VY, .HY, .WY] .packed256Float32,
   vex "VEX_Vxorpd_VX_HX_WX" .nds .v128 .p66 .any 0x57 [.VX, .HX, .WX] .packed128Float64,
   vex "VEX_Vxorpd_VY_HY_WY" .nds .v256 .p66 .any 0x57 [.VY, .HY, .WY] .packed256Float64,
   full "EVEX_Vxorps_VX_k1z_HX_WX_b" .nds .v128 .none .clear 0x57 [.VX, .HX, .WX] .float32,
   full "EVEX_Vxorps_VY_k1z_HY_WY_b" .nds .v256 .none .clear 0x57 [.VY, .HY, .WY] .float32,
   full "EVEX_Vxorps_VZ_k1z_HZ_WZ_b" .nds .v512 .none .clear 0x57 [.VZ, .HZ, .WZ] .float32,
   full "EVEX_Vxorpd_VX_k1z_HX_WX_b" .nds .v128 .p66 .set 0x57 [.VX, .HX, .WX] .float64,
   full "EVEX_Vxorpd_VY_k1z_HY_WY_b" .nds .v256 .p66 .set 0x57 [.VY, .HY, .WY] .float64,
   full "EVEX_Vxorpd_VZ_k1z_HZ_WZ_b" .nds .v512 .p66 .set 0x57 [.VZ, .HZ, .WZ] .float64,
   legacy "Addpd_VX_WX" .p66 0x58 [.VX, .WX] .packed128Float64,
   legacy "Addss_VX_WX" .pF3 0x58 [.VX, .WX] .float32,
   legacy "Addsd_VX_WX" .pF2 0x58 [.VX, .WX] .float64,
   legacy "Addps_VX_WX" .np 0x58 [.VX, .WX] .packed128Float32,
   vex "VEX_Vaddps_VX_HX_WX" .nds .v128 .none .any 0x58 [.VX, .HX, .WX] .packed128Float32,
   vex "VEX_Vaddps_VY_HY_WY" .nds .v256 .none .any 0x58 [.VY, .HY, .WY] .packed256Float32,
   vex "VEX_Vaddpd_VX_HX_WX" .nds .v128 .p66 .any 0x58 [.VX, .HX, .WX] .packed128Float64,
   vex "VEX_Vaddpd_VY_HY_WY" .nds .v256 .p66 .any 0x58 [.VY, .HY, .WY] .packed256Float64,
   vex "VEX_Vaddss_VX_HX_WX" .nds .lig .pF3 .any 0x58 [.VX, .HX, .WX] .float32,
   vex "VEX_Vaddsd_VX_HX_WX" .nds .lig .pF2 .any 0x58 [.VX, .HX, .WX] .float64,
   full "EVEX_Vaddps_VX_k1z_HX_WX_b" .nds .v128 .none .clear 0x58 [.VX, .HX, .WX] .float32,
   full "EVEX_Vaddps_VY_k1z_HY_WY_b" .nds .v256 .none .clear 0x58 [.VY, .HY, .WY] .float32,
   full "EVEX_Vaddps_VZ_k1z_HZ_WZ_er_b" .nds .v512 .none .clear 0x58 [.VZ, .HZ, .WZ] .float32
     k1zbEr,
   full "EVEX_Vaddpd_VX_k1z_HX_WX_b" .nds .v128 .p66 .set 0x58 [.VX, .HX, .WX] .float64,
   full "EVEX_Vaddpd_VY_k1z_HY_WY_b" .nds .v256 .p66 .set 0x58 [.VY, .HY, .WY] .float64,
   full "EVEX_Vaddpd_VZ_k1z_HZ_WZ_er_b" .nds .v512 .p66 .set 0x58 [.VZ, .HZ, .WZ] .float64 k1zbEr,
   evex "EVEX_Vaddss_VX_k1z_HX_WX_er" .nds .lig .pF3 .clear 0x58 [.VX, .HX, .WX] .float32
     .oneScalar k1zEr,
   evex "EVEX_Vaddsd_VX_k1z_HX_WX_er" .nds .lig .pF2 .set 0x58 [.VX, .HX, .WX] .float64 .oneScalar
     k1zEr,
   legacy "Mulpd_VX_WX" .p66 0x59 [.VX, .WX] .packed128Float64,
   legacy "Mulss_VX_WX" .pF3 0x59 [.VX, .WX] .float32,
   legacy "Mulsd_VX_WX" .pF2 0x59 [.VX, .WX] .float64,
   legacy "Mulps_VX_WX" .np 0x59 [.VX, .WX] .packed128Float32,
   vex "VEX_Vmulps_VX_HX_WX" .nds .v128 .none .any 0x59 [.VX, .HX, .WX] .packed128Float32,
   vex "VEX_Vmulps_VY_HY_WY" .nds .v256 .none .any 0x59 [.VY, .HY, .WY] .packed256Float32,
   vex "VEX_Vmulpd_VX_HX_WX" .nds .v128 .p66 .any 0x59 [.VX, .HX, .WX] .packed128Float64,
   vex "VEX_Vmulpd_VY_HY_WY" .nds .v256 .p66 .any 0x59 [.VY, .HY, .WY] .packed256Float64,
   vex "VEX_Vmulss_VX_HX_WX" .nds .lig .pF3 .any 0x59 [.VX, .HX, .WX] .float32,
   vex "VEX_Vmulsd_VX_HX_WX" .nds .lig .pF2 .any 0x59 [.VX, .HX, .WX] .float64,
   full "EVEX_Vmulps_VX_k1z_HX_WX_b" .nds .v128 .none .clear 0x59 [.VX, .HX, .WX] .float32,
   full "EVEX_Vmulps_VY_k1z_HY_WY_b" .nds .v256 .none .clear 0x59 [.VY, .HY, .WY] .float32,
   full "EVEX_Vmulps_VZ_k1z_HZ_WZ_er_b" .nds .v512 .none .clear 0x59 [.VZ, .HZ, .WZ] .float32
     k1zbEr,
   full "EVEX_Vmulpd_VX_k1z_HX_WX_b" .nds .v128 .p66 .set 0x59 [.VX, .HX, .WX] .float64,
   full "EVEX_Vmulpd_VY_k1z_HY_WY_b" .nds .v256 .p66 .set 0x59 [.VY, .HY, .WY] .float64,
   full "EVEX_Vmulpd_VZ_k1z_HZ_WZ_er_b" .nds .v512 .p66 .set 0x59 [.VZ, .HZ, .WZ] .float64 k1zbEr,
   evex "EVEX_Vmulss_VX_k1z_HX_WX_er" .nds .lig .pF3 .clear 0x59 [.VX, .HX, .WX] .float32
     .oneScalar k1zEr,
   evex "EVEX_Vmulsd_VX_k1z_HX_WX_er" .nds .lig .pF2 .set 0x59 [.VX, .HX, .WX] .float64 .oneScalar
     k1zEr,
   legacy "Cvtpd2ps_VX_WX" .p66 0x5a [.VX, .WX] .packed128Float64,
   legacy "Cvtss2sd_VX_WX" .pF3 0x5a [.VX, .WX] .float32,
   legacy "Cvtsd2ss_VX_WX" .pF2 0x5a [.VX, .WX] .float64,
   legacy "Cvtps2pd_VX_WX" .np 0x5a [.VX, .WX] .packed64Float32,
   vex "VEX_Vcvtps2pd_VX_WX" .plain .v128 .none .any 0x5a [.VX, .WX] .packed64Float32,
   vex "VEX_Vcvtps2pd_VY_WX" .plain .v256 .none .any 0x5a [.VY, .WX] .packed128Float32,
   vex "VEX_Vcvtpd2ps_VX_WX" .plain .v128 .p66 .any 0x5a [.VX, .WX] .packed128Float64,
   vex "VEX_Vcvtpd2ps_VX_WY" .plain .v256 .p66 .any 0x5a [.VX, .WY] .packed256Float64,
   vex "VEX_Vcvtss2sd_VX_HX_WX" .nds .lig .pF3 .any 0x5a [.VX, .HX, .WX] .float32,
   vex "VEX_Vcvtsd2ss_VX_HX_WX" .nds .lig .pF2 .any 0x5a [.VX, .HX, .WX] .float64,
   evex "EVEX_Vcvtps2pd_VX_k1z_WX_b" .plain .v128 .none .clear 0x5a [.VX, .WX] .packed64Float32
     .half128 k1zb .broadcast64Float32,
   evex "EVEX_Vcvtps2pd_VY_k1z_WX_b" .plain .v256 .none .clear 0x5a [.VY, .WX] .packed128Float32
     .half256 k1zb .broadcast128Float32,
   evex "EVEX_Vcvtps2pd_VZ_k1z_WY_sae_b" .plain .v512 .none .clear 0x5a [.VZ, .WY]
     .packed256Float32 .half512 k1zbSae .broadcast256Float32,
   full "EVEX_Vcvtpd2ps_VX_k1z_WX_b" .plain .v128 .p66 .set 0x5a [.VX, .WX] .float64,
   full "EVEX_Vcvtpd2ps_VX_k1z_WY_b" .plain .v256 .p66 .set 0x5a [.VX, .WY] .float64,
   full "EVEX_Vcvtpd2ps_VY_k1z_WZ_er_b" .plain .v512 .p66 .set 0x5a [.VY, .WZ] .float64 k1zbEr,
   evex "EVEX_Vcvtss2sd_VX_k1z_HX_WX_sae" .nds .lig .pF3 .clear 0x5a [.VX, .HX, .WX] .float32
     .oneScalar k1zSae,
   evex "EVEX_Vcvtsd2ss_VX_k1z_HX_WX_er" .nds .lig .pF2 .set 0x5a [.VX, .HX, .WX] .float64
     .oneScalar k1zEr,
   legacy "Cvtps2dq_VX_WX" .p66 0x5b [.VX, .WX] .packed128Float32,
   legacy "Cvttps2dq_VX_WX" .pF3 0x5b [.VX, .WX] .packed128Float32,
   legacy "Cvtdq2ps_VX_WX" .np 0x5b [.VX, .WX] .packed128Int32,
   vex "VEX_Vcvtdq2ps_VX_WX" .plain .v128 .none .any 0x5b [.VX, .WX] .packed128Int32,
   vex "VEX_Vcvtdq2ps_VY_WY" .plain .v256 .none .any 0x5b [.VY, .WY] .packed256Int32,
   vex "VEX_Vcvtps2dq_VX_WX" .plain .v128 .p66 .any 0x5b [.VX, .WX] .packed128Float32,
   vex "VEX_Vcvtps2dq_VY_WY" .plain .v256 .p66 .any 0x5b [.VY, .WY] .packed256Float32,
   vex "VEX_Vcvttps2dq_VX_WX" .plain .v128 .pF3 .any 0x5b [.VX, .WX] .packed128Float32,
   vex "VEX_Vcvttps2dq_VY_WY" .plain .v256 .pF3 .any 0x5b [.VY, .WY] .packed256Float32,
   full "EVEX_Vcvtdq2ps_VX_k1z_WX_b" .plain .v128 .none .clear 0x5b [.VX, .WX] .int32,
   full "EVEX_Vcvtdq2ps_VY_k1z_WY_b" .plain .v256 .none .clear 0x5b [.VY, .WY] .int32,
   full "EVEX_Vcvtdq2ps_VZ_k1z_WZ_er_b" .plain .v512 .none .clear 0x5b [.VZ, .WZ] .int32 k1zbEr,
   full "EVEX_Vcvtqq2ps_VX_k1z_WX_b" .plain .v128 .none .set 0x5b [.VX, .WX] .int64,
   full "EVEX_Vcvtqq2ps_VX_k1z_WY_b" .plain .v256 .none .set 0x5b [.VX, .WY] .int64,
   full "EVEX_Vcvtqq2ps_VY_k1z_WZ_er_b" .plain .v512 .none .set 0x5b [.VY, .WZ] .int64 k1zbEr,
   full "EVEX_Vcvtps2dq_VX_k1z_WX_b" .plain .v128 .p66 .clear 0x5b [.VX, .WX] .float32,
   full "EVEX_Vcvtps2dq_VY_k1z_WY_b" .plain .v256 .p66 .clear 0x5b [.VY, .WY] .float32,
   full "EVEX_Vcvtps2dq_VZ_k1z_WZ_er_b" .plain .v512 .p66 .clear 0x5b [.VZ, .WZ] .float32 k1zbEr,
   full "EVEX_Vcvttps2dq_VX_k1z_WX_b" .plain .v128 .pF3 .clear 0x5b [.VX, .WX] .float32,
   full "EVEX_Vcvttps2dq_VY_k1z_WY_b" .plain .v256 .pF3 .clear 0x5b [.VY, .WY] .float32,
   full "EVEX_Vcvttps2dq_VZ_k1z_WZ_sae_b" .plain .v512 .pF3 .clear 0x5b [.VZ, .WZ] .float32 k1zbSae,
   legacy "Subpd_VX_WX" .p66 0x5c [.VX, .WX] .packed128Float64,
   legacy "Subss_VX_WX" .pF3 0x5c [.VX, .WX] .float32,
   legacy "Subsd_VX_WX" .pF2 0x5c [.VX, .WX] .float64,
   legacy "Subps_VX_WX" .np 0x5c [.VX, .WX] .packed128Float32,
   vex "VEX_Vsubps_VX_HX_WX" .nds .v128 .none .any 0x5c [.VX, .HX, .WX] .packed128Float32,
   vex "VEX_Vsubps_VY_HY_WY" .nds .v256 .none .any 0x5c [.VY, .HY, .WY] .packed256Float32,
   vex "VEX_Vsubpd_VX_HX_WX" .nds .v128 .p66 .any 0x5c [.VX, .HX, .WX] .packed128Float64,
   vex "VEX_Vsubpd_VY_HY_WY" .nds .v256 .p66 .any 0x5c [.VY, .HY, .WY] .packed256Float64,
   vex "VEX_Vsubss_VX_HX_WX" .nds .lig .pF3 .any 0x5c [.VX, .HX, .WX] .float32,
   vex "VEX_Vsubsd_VX_HX_WX" .nds .lig .pF2 .any 0x5c [.VX, .HX, .WX] .float64,
   full "EVEX_Vsubps_VX_k1z_HX_WX_b" .nds .v128 .none .clear 0x5c [.VX, .HX, .WX] .float32,
   full "EVEX_Vsubps_VY_k1z_HY_WY_b" .nds .v256 .none .clear 0x5c [.VY, .HY, .WY] .float32,
   full "EVEX_Vsubps_VZ_k1z_HZ_WZ_er_b" .nds .v512 .none .clear 0x5c [.VZ, .HZ, .WZ] .float32
     k1zbEr,
   full "EVEX_Vsubpd_VX_k1z_HX_WX_b" .nds .v128 .p66 .set 0x5c [.VX, .HX, .WX] .float64,
   full "EVEX_Vsubpd_VY_k1z_HY_WY_b" .nds .v256 .p66 .set 0x5c [.VY, .HY, .WY] .float64,
   full "EVEX_Vsubpd_VZ_k1z_HZ_WZ_er_b" .nds .v512 .p66 .set 0x5c [.VZ, .HZ, .WZ] .float64 k1zbEr,
   evex "EVEX_Vsubss_VX_k1z_HX_WX_er" .nds .lig .pF3 .clear 0x5c [.VX, .HX, .WX] .float32
     .oneScalar k1zEr,
   evex "EVEX_Vsubsd_VX_k1z_HX_WX_er" .nds .lig .pF2 .set 0x5c [.VX, .HX, .WX] .float64 .oneScalar
     k1zEr,
   legacy "Minpd_VX_WX" .p66 0x5d [.VX, .WX] .packed128Float64,
   legacy "Minss_VX_WX" .pF3 0x5d [.VX, .WX] .float32,
   legacy "Minsd_VX_WX" .pF2 0x5d [.VX, .WX] .float64,
   legacy "Minps_VX_WX" .np 0x5d [.VX, .WX] .packed128Float32,
   vex "VEX_Vminps_VX_HX_WX" .nds .v128 .none .any 0x5d [.VX, .HX, .WX] .packed128Float32,
   vex "VEX_Vminps_VY_HY_WY" .nds .v256 .none .any 0x5d [.VY, .HY, .WY] .packed256Float32,
   vex "VEX_Vminpd_VX_HX_WX" .nds .v128 .p66 .any 0x5d [.VX, .HX, .WX] .packed128Float64,
   vex "VEX_Vminpd_VY_HY_WY" .nds .v256 .p66 .any 0x5d [.VY, .HY, .WY] .packed256Float64,
   vex "VEX_Vminss_VX_HX_WX" .nds .lig .pF3 .any 0x5d [.VX, .HX, .WX] .float32,
   vex "VEX_Vminsd_VX_HX_WX" .nds .lig .pF2 .any 0x5d [.VX, .HX, .WX] .float64,
   full "EVEX_Vminps_VX_k1z_HX_WX_b" .nds .v128 .none .clear 0x5d [.VX, .HX, .WX] .float32,
   full "EVEX_Vminps_VY_k1z_HY_WY_b" .nds .v256 .none .clear 0x5d [.VY, .HY, .WY] .float32,
   full "EVEX_Vminps_VZ_k1z_HZ_WZ_sae_b" .nds .v512 .none .clear 0x5d [.VZ, .HZ, .WZ] .float32
     k1zbSae,
   full "EVEX_Vminpd_VX_k1z_HX_WX_b" .nds .v128 .p66 .set 0x5d [.VX, .HX, .WX] .float64,
   full "EVEX_Vminpd_VY_k1z_HY_WY_b" .nds .v256 .p66 .set 0x5d [.VY, .HY, .WY] .float64,
   full "EVEX_Vminpd_VZ_k1z_HZ_WZ_sae_b" .nds .v512 .p66 .set 0x5d [.VZ, .HZ, .WZ] .float64 k1zbSae,
   evex "EVEX_Vminss_VX_k1z_HX_WX_sae" .nds .lig .pF3 .clear 0x5d [.VX, .HX, .WX] .float32
     .oneScalar k1zSae,
   evex "EVEX_Vminsd_VX_k1z_HX_WX_sae" .nds .lig .pF2 .set 0x5d [.VX, .HX, .WX] .float64 .oneScalar
     k1zSae,
   legacy "Divpd_VX_WX" .p66 0x5e [.VX, .WX] .packed128Float64,
   legacy "Divss_VX_WX" .pF3 0x5e [.VX, .WX] .float32,
   legacy "Divsd_VX_WX" .pF2 0x5e [.VX, .WX] .float64,
   legacy "Divps_VX_WX" .np 0x5e [.VX, .WX] .packed128Float32,
   vex "VEX_Vdivps_VX_HX_WX" .nds .v128 .none .any 0x5e [.VX, .HX, .WX] .packed128Float32,
   vex "VEX_Vdivps_VY_HY_WY" .nds .v256 .none .any 0x5e [.VY, .HY, .WY] .packed256Float32,
   vex "VEX_Vdivpd_VX_HX_WX" .nds .v128 .p66 .any 0x5e [.VX, .HX, .WX] .packed128Float64,
   vex "VEX_Vdivpd_VY_HY_WY" .nds .v256 .p66 .any 0x5e [.VY, .HY, .WY] .packed256Float64,
   vex "VEX_Vdivss_VX_HX_WX" .nds .lig .pF3 .any 0x5e [.VX, .HX, .WX] .float32,
   vex "VEX_Vdivsd_VX_HX_WX" .nds .lig .pF2 .any 0x5e [.VX, .HX, .WX] .float64,
   full "EVEX_Vdivps_VX_k1z_HX_WX_b" .nds .v128 .none .clear 0x5e [.VX, .HX, .WX] .float32,
   full "EVEX_Vdivps_VY_k1z_HY_WY_b" .nds .v256 .none .clear 0x5e [.VY, .HY, .WY] .float32,
   full "EVEX_Vdivps_VZ_k1z_HZ_WZ_er_b" .nds .v512 .none .clear 0x5e [.VZ, .HZ, .WZ] .float32
     k1zbEr,
   full "EVEX_Vdivpd_VX_k1z_HX_WX_b" .nds .v128 .p66 .set 0x5e [.VX, .HX, .WX] .float64,
   full "EVEX_Vdivpd_VY_k1z_HY_WY_b" .nds .v256 .p66 .set 0x5e [.VY, .HY, .WY] .float64,
   full "EVEX_Vdivpd_VZ_k1z_HZ_WZ_er_b" .nds .v512 .p66 .set 0x5e [.VZ, .HZ, .WZ] .float64 k1zbEr,
   evex "EVEX_Vdivss_VX_k1z_HX_WX_er" .nds .lig .pF3 .clear 0x5e [.VX, .HX, .WX] .float32
     .oneScalar k1zEr,
   evex "EVEX_Vdivsd_VX_k1z_HX_WX_er" .nds .lig .pF2 .set 0x5e [.VX, .HX, .WX] .float64 .oneScalar
     k1zEr,
   legacy "Maxpd_VX_WX" .p66 0x5f [.VX, .WX] .packed128Float64,
   legacy "Maxss_VX_WX" .pF3 0x5f [.VX, .WX] .float32,
   legacy "Maxsd_VX_WX" .pF2 0x5f [.VX, .WX] .float64,
   legacy "Maxps_VX_WX" .np 0x5f [.VX, .WX] .packed128Float32,
   vex "VEX_Vmaxps_VX_HX_WX" .nds .v128 .none .any 0x5f [.VX, .HX, .WX] .packed128Float32,
   vex "VEX_Vmaxps_VY_HY_WY" .nds .v256 .none .any 0x5f [.VY, .HY, .WY] .packed256Float32,
   vex "VEX_Vmaxpd_VX_HX_WX" .nds .v128 .p66 .any 0x5f [.VX, .HX, .WX] .packed128Float64,
   vex "VEX_Vmaxpd_VY_HY_WY" .nds .v256 .p66 .any 0x5f [.VY, .HY, .WY] .packed256Float64,
   vex "VEX_Vmaxss_VX_HX_WX" .nds .lig .pF3 .any 0x5f [.VX, .HX, .WX] .float32,
   vex "VEX_Vmaxsd_VX_HX_WX" .nds .lig .pF2 .any 0x5f [.VX, .HX, .WX] .float64,
   full "EVEX_Vmaxps_VX_k1z_HX_WX_b" .nds .v128 .none .clear 0x5f [.VX, .HX, .WX] .float32,
   full "EVEX_Vmaxps_VY_k1z_HY_WY_b" .nds .v256 .none .clear 0x5f [.VY, .HY, .WY] .float32,
   full "EVEX_Vmaxps_VZ_k1z_HZ_WZ_sae_b" .nds .v512 .none .clear 0x5f [.VZ, .HZ, .WZ] .float32
     k1zbSae,
   full "EVEX_Vmaxpd_VX_k1z_HX_WX_b" .nds .v128 .p66 .set 0x5f [.VX, .HX, .WX] .float64,
   full "EVEX_Vmaxpd_VY_k1z_HY_WY_b" .nds .v256 .p66 .set 0x5f [.VY, .HY, .WY] .float64,
   full "EVEX_Vmaxpd_VZ_k1z_HZ_WZ_sae_b" .nds .v512 .p66 .set 0x5f [.VZ, .HZ, .WZ] .float64 k1zbSae,
   evex "EVEX_Vmaxss_VX_k1z_HX_WX_sae" .nds .lig .pF3 .clear 0x5f [.VX, .HX, .WX] .float32
     .oneScalar k1zSae,
   evex "EVEX_Vmaxsd_VX_k1z_HX_WX_sae" .nds .lig .pF2 .set 0x5f [.VX, .HX, .WX] .float64 .oneScalar
     k1zSae]

end X86Decoder.Table
