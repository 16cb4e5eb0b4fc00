import X86Decoder.Form.Entry
import X86Decoder.Form.Vocabulary

/-!
# Opcodes 20 to 4F of the 0F map
-/

namespace X86Decoder.Table

open Entry

/-- Opcodes 20 to 2F of the 0F map. -/
def map0F20 : List Entry := rows .map0F
  [legacy "Mov_Rd_Cd" .free 0x20 [.Rd, .Cd] .unknown .not64 [.modIgnored],
   legacy "Mov_Rq_Cq" .free 0x20 [.Rq, .Cq] .unknown .only64 [.modIgnored],
   legacy "Mov_Rd_Dd" .free 0x21 [.Rd, .Dd] .unknown .not64 [.modIgnored],
   legacy "Mov_Rq_Dq" .free 0x21 [.Rq, .Dq] .unknown .only64 [.modIgnored],
   legacy "Mov_Cd_Rd" .free 0x22 [.Cd, .Rd] .unknown .not64 [.modIgnored],
   legacy "Mov_Cq_Rq" .free 0x22 [.Cq, .Rq] .unknown .only64 [.modIgnored],
   legacy "Mov_Dd_Rd" .free 0x23 [.Dd, .Rd] .unknown .not64 [.modIgnored],
   legacy "Mov_Dq_Rq" .free 0x23 [.Dq, .Rq] .unknown .only64 [.modIgnored],
   legacy "Movapd_VX_WX" .p66 0x28 [.VX, .WX] .packed128Float64,
   legacy "Movaps_VX_WX" .np 0x28 [.VX, .WX] .packed128Float32,
   vex "VEX_Vmovaps_VX_WX" .plain .v128 .none .any 0x28 [.VX, .WX] .packed128Float32,
   vex "VEX_Vmovaps_VY_WY" .plain .v256 .none .any 0x28 [.VY, .WY] .packed256Float32,
   vex "VEX_Vmovapd_VX_WX" .plain .v128 .p66 .any 0x28 [.VX, .WX] .packed128Float64,
   vex "VEX_Vmovapd_VY_WY" .plain .v256 .p66 .any 0x28 [.VY, .WY] .packed256Float64,
   fullMem "EVEX_Vmovaps_VX_k1z_WX" .plain .v128 .none .clear 0x28 [.VX, .WX] .float32,
   fullMem "EVEX_Vmovaps_VY_k1z_WY" .plain .v256 .none .clear 0x28 [.VY, .WY] .float32,
   fullMem "EVEX_Vmovaps_VZ_k1z_WZ" .plain .v512 .none .clear 0x28 [.VZ, .WZ] .float32,
   fullMem "EVEX_Vmovapd_VX_k1z_WX" .plain .v128 .p66 .set 0x28 [.VX, .WX] .float64,
   fullMem "EVEX_Vmovapd_VY_k1z_WY" .plain .v256 .p66 .set 0x28 [.VY, .WY] .float64,
   fullMem "EVEX_Vmovapd_VZ_k1z_WZ" .plain .v512 .p66 .set 0x28 [.VZ, .WZ] .float64,
   legacy "Movapd_WX_VX" .p66 0x29 [.WX, .VX] .packed128Float64,
   legacy "Movaps_WX_VX" .np 0x29 [.WX, .VX] .packed128Float32,
   vex "VEX_Vmovaps_WX_VX" .plain .v128 .none .any 0x29 [.WX, .VX] .packed128Float32,
   vex "VEX_Vmovaps_WY_VY" .plain .v256 .none .any 0x29 [.WY, .VY] .packed256Float32,
   vex "VEX_Vmovapd_WX_VX" .plain .v128 .p66 .any 0x29 [.WX, .VX] .packed128Float64,
   vex "VEX_Vmovapd_WY_VY" .plain .v256 .p66 .any 0x29 [.WY, .VY] .packed256Float64,
   fullMem "EVEX_Vmovaps_WX_k1z_VX" .plain .v128 .none .clear 0x29 [.WX, .VX] .float32,
   fullMem "EVEX_Vmovaps_WY_k1z_VY" .plain .v256 .none .clear 0x29 [.WY, .VY] .float32,
   fullMem "EVEX_Vmovaps_WZ_k1z_VZ" .plain .v512 .none .clear 0x29 [.WZ, .VZ] .float32,
   fullMem "EVEX_Vmovapd_WX_k1z_VX" .plain .v128 .p66 .set 0x29 [.WX, .VX] .float64,
   fullMem "EVEX_Vmovapd_WY_k1z_VY" .plain .v256 .p66 .set 0x29 [.WY, .VY] .float64,
   fullMem "EVEX_Vmovapd_WZ_k1z_VZ" .plain .v512 .p66 .set 0x29 [.WZ, .VZ] .float64,
   legacy "Cvtsi2ss_VX_Eq" .o64pF3 0x2a [.VX, .Eq] .uint64 .only64,
   legacy "Cvtsi2sd_VX_Eq" { operandSize := some .w64, mandatory := .pF2 } 0x2a [.VX, .Eq] .uint64
     .only64,
   legacy "Cvtpi2pd_VX_Q" .p66 0x2a [.VX, .Q] .packed64Int32,
   legacy "Cvtsi2ss_VX_Ed" .pF3 0x2a [.VX, .Ed] .uint32,
   legacy "Cvtsi2sd_VX_Ed" .pF2 0x2a [.VX, .Ed] .uint32,
   legacy "Cvtpi2ps_VX_Q" .np 0x2a [.VX, .Q] .packed64Int32,
   vex "VEX_Vcvtsi2ss_VX_HX_Ed" .nds .lig .pF3 .clear 0x2a [.VX, .HX, .Ed] .uint32 .all [.wig32],
   vex "VEX_Vcvtsi2ss_VX_HX_Eq" .nds .lig .pF3 .set 0x2a [.VX, .HX, .Eq] .uint64 .only64,
   vex "VEX_Vcvtsi2sd_VX_HX_Ed" .nds .lig .pF2 .clear 0x2a [.VX, .HX, .Ed] .uint32 .all [.wig32],
   vex "VEX_Vcvtsi2sd_VX_HX_Eq" .nds .lig .pF2 .set 0x2a [.VX, .HX, .Eq] .uint64 .only64,
   evex "EVEX_Vcvtsi2ss_VX_HX_Ed_er" .nds .lig .pF3 .clear 0x2a [.VX, .HX, .Ed] .int32 .oneScalar
     [.rounding, .wig32],
   evex "EVEX_Vcvtsi2ss_VX_HX_Eq_er" .nds .lig .pF3 .set 0x2a [.VX, .HX, .Eq] .int64 .oneScalar
     [.rounding] .unknown .only64,
   evex "EVEX_Vcvtsi2sd_VX_HX_Ed" .nds .lig .pF2 .clear 0x2a [.VX, .HX, .Ed] .int32 .oneScalar
     [.wig32],
   evex "EVEX_Vcvtsi2sd_VX_HX_Eq_er" .nds .lig .pF2 .set 0x2a [.VX, .HX, .Eq] .int64 .oneScalar
     [.rounding] .unknown .only64,
   legacy "Movntpd_M_VX" .p66 0x2b [.M, .VX] .packed128Float64 .all mem,
   legacy "Movntps_M_VX" .np 0x2b [.M, .VX] .packed128Float32 .all mem,
   vex "VEX_Vmovntps_M_VX" .plain .v128 .none .any 0x2b [.M, .VX] .packed128Float32 .all mem,
   vex "VEX_Vmovntps_M_VY" .plain .v256 .none .any 0x2b [.M, .VY] .packed256Float32 .all mem,
   vex "VEX_Vmovntpd_M_VX" .plain .v128 .p66 .any 0x2b [.M, .VX] .packed128Float64 .all mem,
   vex "VEX_Vmovntpd_M_VY" .plain .v256 .p66 .any 0x2b [.M, .VY] .packed256Float64 .all mem,
   fullMem "EVEX_Vmovntps_M_VX" .plain .v128 .none .clear 0x2b [.M, .VX] .float32 mem,
   fullMem "EVEX_Vmovntps_M_VY" .plain .v256 .none .clear 0x2b [.M, .VY] .float32 mem,
   fullMem "EVEX_Vmovntps_M_VZ" .plain .v512 .none .clear 0x2b [.M, .VZ] .float32 mem,
   fullMem "EVEX_Vmovntpd_M_VX" .plain .v128 .p66 .set 0x2b [.M, .VX] .float64 mem,
   fullMem "EVEX_Vmovntpd_M_VY" .plain .v256 .p66 .set 0x2b [.M, .VY] .float64 mem,
   fullMem "EVEX_Vmovntpd_M_VZ" .plain .v512 .p66 .set 0x2b [.M, .VZ] .float64 mem,
   legacy "Cvttss2si_Gq_WX" .o64pF3 0x2c [.Gq, .WX] .float32 .only64,
   legacy "Cvttsd2si_Gq_WX" { operandSize := some .w64, mandatory := .pF2 } 0x2c [.Gq, .WX]
     .float64 .only64,
   legacy "Cvttpd2pi_P_WX" .p66 0x2c [.P, .WX] .packed128Float64,
   legacy "Cvttss2si_Gd_WX" .pF3 0x2c [.Gd, .WX] .float32,
   legacy "Cvttsd2si_Gd_WX" .pF2 0x2c [.Gd, .WX] .float64,
   legacy "Cvttps2pi_P_WX" .np 0x2c [.P, .WX] .packed64Float32,
   vex "VEX_Vcvttss2si_Gd_WX" .plain .lig .pF3 .clear 0x2c [.Gd, .WX] .float32 .all [.wig32],
   vex "VEX_Vcvttss2si_Gq_WX" .plain .lig .pF3 .set 0x2c [.Gq, .WX] .float32 .only64,
   vex "VEX_Vcvttsd2si_Gd_WX" .plain .lig .pF2 .clear 0x2c [.Gd, .WX] .float64 .all [.wig32],
   vex "VEX_Vcvttsd2si_Gq_WX" .plain .lig .pF2 .set 0x2c [.Gq, .WX] .float64 .only64,
   evex "EVEX_Vcvttss2si_Gd_WX_sae" .plain .lig .pF3 .clear 0x2c [.Gd, .WX] .float32 .oneScalar4
     [.sae, .wig32],
   evex "EVEX_Vcvttss2si_Gq_WX_sae" .plain .lig .pF3 .set 0x2c [.Gq, .WX] .float32 .oneScalar4
     [.sae] .unknown .only64,
   evex "EVEX_Vcvttsd2si_Gd_WX_sae" .plain .lig .pF2 .clear 0x2c [.Gd, .WX] .float64 .oneScalar8
     [.sae, .wig32],
   evex "EVEX_Vcvttsd2si_Gq_WX_sae" .plain .lig .pF2 .set 0x2c [.Gq, .WX] .float64 .oneScalar8
     [.sae] .unknown .only64,
   legacy "Cvtss2si_Gq_WX" .o64pF3 0x2d [.Gq, .WX] .float32 .only64,
   legacy "Cvtsd2si_Gq_WX" { operandSize := some .w64, mandatory := .pF2 } 0x2d [.Gq, .WX] .float64
     .only64,
   legacy "Cvtpd2pi_P_WX" .p66 0x2d [.P, .WX] .packed128Float64,
   legacy "Cvtss2si_Gd_WX" .pF3 0x2d [.Gd, .WX] .float32,
   legacy "Cvtsd2si_Gd_WX" .pF2 0x2d [.Gd, .WX] .float64,
   legacy "Cvtps2pi_P_WX" .np 0x2d [.P, .WX] .packed64Float32,
   vex "VEX_Vcvtss2si_Gd_WX" .plain .lig .pF3 .clear 0x2d [.Gd, .WX] .float32 .all [.wig32],
   vex "VEX_Vcvtss2si_Gq_WX" .plain .lig .pF3 .set 0x2d [.Gq, .WX] .float32 .only64,
   vex "VEX_Vcvtsd2si_Gd_WX" .plain .lig .pF2 .clear 0x2d [.Gd, .WX] .float64 .all [.wig32],
   vex "VEX_Vcvtsd2si_Gq_WX" .plain .lig .pF2 .set 0x2d [.Gq, .WX] .float64 .only64,
   evex "EVEX_Vcvtss2si_Gd_WX_er" .plain .lig .pF3 .clear 0x2d [.Gd, .WX] .float32 .oneScalar4
     [.rounding, .wig32],
   evex "EVEX_Vcvtss2si_Gq_WX_er" .plain .lig .pF3 .set 0x2d [.Gq, .WX] .float32 .oneScalar4
     [.rounding] .unknown .only64,
   evex "EVEX_Vcvtsd2si_Gd_WX_er" .plain .lig .pF2 .clear 0x2d [.Gd, .WX] .float64 .oneScalar8
     [.rounding, .wig32],
   evex "EVEX_Vcvtsd2si_Gq_WX_er" .plain .lig .pF2 .set 0x2d [.Gq, .WX] .float64 .oneScalar8
     [.rounding] .unknown .only64,
   legacy "Ucomisd_VX_WX" .p66 0x2e [.VX, .WX] .float64,
   legacy "Ucomiss_VX_WX" .np 0x2e [.VX, .WX] .float32,
   vex "VEX_Vucomiss_VX_WX" .plain .lig .none .any 0x2e [.VX, .WX] .float32,
   vex "VEX_Vucomisd_VX_WX" .plain .lig .p66 .any 0x2e [.VX, .WX] .float64,
   evex "EVEX_Vucomiss_VX_WX_sae" .plain .lig .none .clear 0x2e [.VX, .WX] .float32 .oneScalar
     [.sae],
   evex "EVEX_Vucomisd_VX_WX_sae" .plain .lig .p66 .set 0x2e [.VX, .WX] .float64 .oneScalar [.sae],
   legacy "Comisd_VX_WX" .p66 0x2f [.VX, .WX] .float64,
   legacy "Comiss_VX_WX" .np 0x2f [.VX, .WX] .float32,
   vex "VEX_Vcomiss_VX_WX" .plain .lig .none .any 0x2f [.VX, .WX] .float32,
   vex "VEX_Vcomisd_VX_WX" .plain .lig .p66 .any 0x2f [.VX, .WX] .float64,
   evex "EVEX_Vcomiss_VX_WX_sae" .plain .lig .none .clear 0x2f [.VX, .WX] .float32 .oneScalar
     [.sae],
   evex "EVEX_Vcomisd_VX_WX_sae" .plain .lig .p66 .set 0x2f [.VX, .WX] .float64 .oneScalar [.sae]]

/-- Opcodes 30 to 3F of the 0F map. -/
def map0F30 : List Entry := rows .map0F
  [bare "Wrmsr" .free 0x30 [],
   bare "Rdtsc" .free 0x31 [],
   bare "Rdmsr" .free 0x32 [],
   bare "Rdpmc" .free 0x33 [],
   bare "Sysenter" .free 0x34 [],
   bare "Sysexitq" .o64 0x35 [] .unknown .only64,
   bare "Sysexitd" .free 0x35 [],
   bare "Getsec" .free 0x37 []]

/-- Opcodes 40 to 4F of the 0F map. -/
def map0F40 : List Entry := rows .map0F
  [legacy "Cmovo_Gq_Eq" .o64 0x40 [.Gq, .Eq] .uint64 .only64,
   legacy "Cmovo_Gw_Ew" .o16 0x40 [.Gw, .Ew] .uint16,
   legacy "Cmovo_Gd_Ed" .o32 0x40 [.Gd, .Ed] .uint32,
   legacy "Cmovno_Gq_Eq" .o64 0x41 [.Gq, .Eq] .uint64 .only64,
   legacy "Cmovno_Gw_Ew" .o16 0x41 [.Gw, .Ew] .uint16,
   legacy "Cmovno_Gd_Ed" .o32 0x41 [.Gd, .Ed] .uint32,
   legacy "Cmovb_Gq_Eq" .o64 0x42 [.Gq, .Eq] .uint64 .only64,
   legacy "Cmovb_Gw_Ew" .o16 0x42 [.Gw, .Ew] .uint16,
   legacy "Cmovb_Gd_Ed" .o32 0x42 [.Gd, .Ed] .uint32,
   legacy "Cmovae_Gq_Eq" .o64 0x43 [.Gq, .Eq] .uint64 .only64,
   legacy "Cmovae_Gw_Ew" .o16 0x43 [.Gw, .Ew] .uint16,
   legacy "Cmovae_Gd_Ed" .o32 0x43 [.Gd, .Ed] .uint32,
   legacy "Cmove_Gq_Eq" .o64 0x44 [.Gq, .Eq] .uint64 .only64,
   legacy "Cmove_Gw_Ew" .o16 0x44 [.Gw, .Ew] .uint16,
   legacy "Cmove_Gd_Ed" .o32 0x44 [.Gd, .Ed] .uint32,
   legacy "Cmovne_Gq_Eq" .o64 0x45 [.Gq, .Eq] .uint64 .only64,
   legacy "Cmovne_Gw_Ew" .o16 0x45 [.Gw, .Ew] .uint16,
   legacy "Cmovne_Gd_Ed" .o32 0x45 [.Gd, .Ed] .uint32,
   legacy "Cmovbe_Gq_Eq" .o64 0x46 [.Gq, .Eq] .uint64 .only64,
   legacy "Cmovbe_Gw_Ew" .o16 0x46 [.Gw, .Ew] .uint16,
   legacy "Cmovbe_Gd_Ed" .o32 0x46 [.Gd, .Ed] .uint32,
   legacy "Cmova_Gq_Eq" .o64 0x47 [.Gq, .Eq] .uint64 .only64,
   legacy "Cmova_Gw_Ew" .o16 0x47 [.Gw, .Ew] .uint16,
   legacy "Cmova_Gd_Ed" .o32 0x47 [.Gd, .Ed] .uint32,
   legacy "Cmovs_Gq_Eq" .o64 0x48 [.Gq, .Eq] .uint64 .only64,
   legacy "Cmovs_Gw_Ew" .o16 0x48 [.Gw, .Ew] .uint16,
   legacy "Cmovs_Gd_Ed" .o32 0x48 [.Gd, .Ed] .uint32,
   legacy "Cmovns_Gq_Eq" .o64 0x49 [.Gq, .Eq] .uint64 .only64,
   legacy "Cmovns_Gw_Ew" .o16 0x49 [.Gw, .Ew] .uint16,
   legacy "Cmovns_Gd_Ed" .o32 0x49 [.Gd, .Ed] .uint32,
   legacy "Cmovp_Gq_Eq" .o64 0x4a [.Gq, .Eq] .uint64 .only64,
   legacy "Cmovp_Gw_Ew" .o16 0x4a [.Gw, .Ew] .uint16,
   legacy "Cmovp_Gd_Ed" .o32 0x4a [.Gd, .Ed] .uint32,
   legacy "Cmovnp_Gq_Eq" .o64 0x4b [.Gq, .Eq] .uint64 .only64,
   legacy "Cmovnp_Gw_Ew" .o16 0x4b [.Gw, .Ew] .uint16,
   legacy "Cmovnp_Gd_Ed" .o32 0x4b [.Gd, .Ed] .uint32,
   legacy "Cmovl_Gq_Eq" .o64 0x4c [.Gq, .Eq] .uint64 .only64,
   legacy "Cmovl_Gw_Ew" .o16 0x4c [.Gw, .Ew] .uint16,
   legacy "Cmovl_Gd_Ed" .o32 0x4c [.Gd, .Ed] .uint32,
   legacy "Cmovge_Gq_Eq" .o64 0x4d [.Gq, .Eq] .uint64 .only64,
   legacy "Cmovge_Gw_Ew" .o16 0x4d [.Gw, .Ew] .uint16,
   legacy "Cmovge_Gd_Ed" .o32 0x4d [.Gd, .Ed] .uint32,
   legacy "Cmovle_Gq_Eq" .o64 0x4e [.Gq, .Eq] .uint64 .only64,
   legacy "Cmovle_Gw_Ew" .o16 0x4e [.Gw, .Ew] .uint16,
   legacy "Cmovle_Gd_Ed" .o32 0x4e [.Gd, .Ed] .uint32,
   legacy "Cmovg_Gq_Eq" .o64 0x4f [.Gq, .Eq] .uint64 .only64,
   legacy "Cmovg_Gw_Ew" .o16 0x4f [.Gw, .Ew] .uint16,
   legacy "Cmovg_Gd_Ed" .o32 0x4f [.Gd, .Ed] .uint32,
   vex "VEX_Kandw_VK_HK_RK" .nds .l1 .none .clear 0x41 [.VK, .HK, .RK] .unknown .all reg,
   vex "VEX_Kandq_VK_HK_RK" .nds .l1 .none .set 0x41 [.VK, .HK, .RK] .unknown .all reg,
   vex "VEX_Kandb_VK_HK_RK" .nds .l1 .p66 .clear 0x41 [.VK, .HK, .RK] .unknown .all reg,
   vex "VEX_Kandd_VK_HK_RK" .nds .l1 .p66 .set 0x41 [.VK, .HK, .RK] .unknown .all reg,
   vex "VEX_Kandnw_VK_HK_RK" .nds .l1 .none .clear 0x42 [.VK, .HK, .RK] .unknown .all reg,
   vex "VEX_Kandnq_VK_HK_RK" .nds .l1 .none .set 0x42 [.VK, .HK, .RK] .unknown .all reg,
   vex "VEX_Kandnb_VK_HK_RK" .nds .l1 .p66 .clear 0x42 [.VK, .HK, .RK] .unknown .all reg,
   vex "VEX_Kandnd_VK_HK_RK" .nds .l1 .p66 .set 0x42 [.VK, .HK, .RK] .unknown .all reg,
   vex "VEX_Knotw_VK_RK" .plain .l0 .none .clear 0x44 [.VK, .RK] .unknown .all reg,
   vex "VEX_Knotq_VK_RK" .plain .l0 .none .set 0x44 [.VK, .RK] .unknown .all reg,
   vex "VEX_Knotb_VK_RK" .plain .l0 .p66 .clear 0x44 [.VK, .RK] .unknown .all reg,
   vex "VEX_Knotd_VK_RK" .plain .l0 .p66 .set 0x44 [.VK, .RK] .unknown .all reg,
   vex "VEX_Korw_VK_HK_RK" .nds .l1 .none .clear 0x45 [.VK, .HK, .RK] .unknown .all reg,
   vex "VEX_Korq_VK_HK_RK" .nds .l1 .none .set 0x45 [.VK, .HK, .RK] .unknown .all reg,
   vex "VEX_Korb_VK_HK_RK" .nds .l1 .p66 .clear 0x45 [.VK, .HK, .RK] .unknown .all reg,
   vex "VEX_Kord_VK_HK_RK" .nds .l1 .p66 .set 0x45 [.VK, .HK, .RK] .unknown .all reg,
   vex "VEX_Kxnorw_VK_HK_RK" .nds .l1 .none .clear 0x46 [.VK, .HK, .RK] .unknown .all reg,
   vex "VEX_Kxnorq_VK_HK_RK" .nds .l1 .none .set 0x46 [.VK, .HK, .RK] .unknown .all reg,
   vex "VEX_Kxnorb_VK_HK_RK" .nds .l1 .p66 .clear 0x46 [.VK, .HK, .RK] .unknown .all reg,
   vex "VEX_Kxnord_VK_HK_RK" .nds .l1 .p66 .set 0x46 [.VK, .HK, .RK] .unknown .all reg,
   vex "VEX_Kxorw_VK_HK_RK" .nds .l1 .none .clear 0x47 [.VK, .HK, .RK] .unknown .all reg,
   vex "VEX_Kxorq_VK_HK_RK" .nds .l1 .none .set 0x47 [.VK, .HK, .RK] .unknown .all reg,
   vex "VEX_Kxorb_VK_HK_RK" .nds .l1 .p66 .clear 0x47 [.VK, .HK, .RK] .unknown .all reg,
   vex "VEX_Kxord_VK_HK_RK" .nds .l1 .p66 .set 0x47 [.VK, .HK, .RK] .unknown .all reg,
   vex "VEX_Kaddw_VK_HK_RK" .nds .l1 .none .clear 0x4a [.VK, .HK, .RK] .unknown .all reg,
   vex "VEX_Kaddq_VK_HK_RK" .nds .l1 .none .set 0x4a [.VK, .HK, .RK] .unknown .all reg,
   vex "VEX_Kaddb_VK_HK_RK" .nds .l1 .p66 .clear 0x4a [.VK, .HK, .RK] .unknown .all reg,
   vex "VEX_Kaddd_VK_HK_RK" .nds .l1 .p66 .set 0x4a [.VK, .HK, .RK] .unknown .all reg,
   vex "VEX_Kunpckwd_VK_HK_RK" .nds .l1 .none .clear 0x4b [.VK, .HK, .RK] .unknown .all reg,
   vex "VEX_Kunpckdq_VK_HK_RK" .nds .l1 .none .set 0x4b [.VK, .HK, .RK] .unknown .all reg,
   vex "VEX_Kunpckbw_VK_HK_RK" .nds .l1 .p66 .clear 0x4b [.VK, .HK, .RK] .unknown .all reg]

end X86Decoder.Table
