import X86Decoder.Form.Entry
import X86Decoder.Form.Vocabulary

/-!
# Opcodes C0 to CF of the 0F map
-/

namespace X86Decoder.Table

open Entry

/-- Opcodes C0 to CF of the 0F map. -/
def map0FC0 : List Entry := rows .map0F
  [legacy "Xadd_Eb_Gb" .free 0xc0 [.Eb, .Gb] .uint8,
   legacy "Xadd_Eq_Gq" .o64 0xc1 [.Eq, .Gq] .uint64 .only64,
   legacy "Xadd_Ew_Gw" .o16 0xc1 [.Ew, .Gw] .uint16,
   legacy "Xadd_Ed_Gd" .o32 0xc1 [.Ed, .Gd] .uint32,
   legacy "Cmppd_VX_WX_Ib" .p66 0xc2 [.VX, .WX, .Ib] .packed128Float64,
   legacy "Cmpss_VX_WX_Ib" .pF3 0xc2 [.VX, .WX, .Ib] .float32,
   legacy "Cmpsd_VX_WX_Ib" .pF2 0xc2 [.VX, .WX, .Ib] .float64,
   legacy "Cmpps_VX_WX_Ib" .np 0xc2 [.VX, .WX, .Ib] .packed128Float32,
   vex "VEX_Vcmpps_VX_HX_WX_Ib" .nds .v128 .none .any 0xc2 [.VX, .HX, .WX, .Ib] .packed128Float32,
   vex "VEX_Vcmpps_VY_HY_WY_Ib" .nds .v256 .none .any 0xc2 [.VY, .HY, .WY, .Ib] .packed256Float32,
   vex "VEX_Vcmppd_VX_HX_WX_Ib" .nds .v128 .p66 .any 0xc2 [.VX, .HX, .WX, .Ib] .packed128Float64,
   vex "VEX_Vcmppd_VY_HY_WY_Ib" .nds .v256 .p66 .any 0xc2 [.VY, .HY, .WY, .Ib] .packed256Float64,
   vex "VEX_Vcmpss_VX_HX_WX_Ib" .nds .lig .pF3 .any 0xc2 [.VX, .HX, .WX, .Ib] .float32,
   vex "VEX_Vcmpsd_VX_HX_WX_Ib" .nds .lig .pF2 .any 0xc2 [.VX, .HX, .WX, .Ib] .float64,
   full "EVEX_Vcmpps_VK_k1_HX_WX_Ib_b" .nds .v128 .none .clear 0xc2 [.VK, .HX, .WX, .Ib] .float32
     k1b,
   full "EVEX_Vcmpps_VK_k1_HY_WY_Ib_b" .nds .v256 .none .clear 0xc2 [.VK, .HY, .WY, .Ib] .float32
     k1b,
   full "EVEX_Vcmpps_VK_k1_HZ_WZ_Ib_sae_b" .nds .v512 .none .clear 0xc2 [.VK, .HZ, .WZ, .Ib]
     .float32 [.opmask, .broadcast, .sae],
   full "EVEX_Vcmppd_VK_k1_HX_WX_Ib_b" .nds .v128 .p66 .set 0xc2 [.VK, .HX, .WX, .Ib] .float64 k1b,
   full "EVEX_Vcmppd_VK_k1_HY_WY_Ib_b" .nds .v256 .p66 .set 0xc2 [.VK, .HY, .WY, .Ib] .float64 k1b,
   full "EVEX_Vcmppd_VK_k1_HZ_WZ_Ib_sae_b" .nds .v512 .p66 .set 0xc2 [.VK, .HZ, .WZ, .Ib] .float64
     [.opmask, .broadcast, .sae],
   evex "EVEX_Vcmpss_VK_k1_HX_WX_Ib_sae" .nds .lig .pF3 .clear 0xc2 [.VK, .HX, .WX, .Ib] .float32
     .oneScalar [.opmask, .sae],
   evex "EVEX_Vcmpsd_VK_k1_HX_WX_Ib_sae" .nds .lig .pF2 .set 0xc2 [.VK, .HX, .WX, .Ib] .float64
     .oneScalar [.opmask, .sae],
   legacy "Movnti_Mq_Gq" .o64 0xc3 [.Mq, .Gq] .uint64 .only64 mem,
   legacy "Movnti_Md_Gd" .free 0xc3 [.Md, .Gd] .uint32 .all mem,
   legacy "Pinsrw_VX_RqMw_Ib" .o64p66 0xc4 [.VX, .RqMw, .Ib] .uint16 .only64,
   legacy "Pinsrw_VX_RdMw_Ib" .p66 0xc4 [.VX, .RdMw, .Ib] .uint16,
   legacy "Pinsrw_P_RqMw_Ib" .o64 0xc4 [.P, .RqMw, .Ib] .uint16 .only64,
   legacy "Pinsrw_P_RdMw_Ib" .np 0xc4 [.P, .RdMw, .Ib] .uint16,
   vex "VEX_Vpinsrw_VX_HX_RdMw_Ib" .nds .v128 .p66 .clear 0xc4 [.VX, .HX, .RdMw, .Ib] .uint16 .all
     [.wig32],
   vex "VEX_Vpinsrw_VX_HX_RqMw_Ib" .nds .v128 .p66 .set 0xc4 [.VX, .HX, .RqMw, .Ib] .uint16 .only64,
   evex "EVEX_Vpinsrw_VX_HX_RdMw_Ib" .nds .v128 .p66 .clear 0xc4 [.VX, .HX, .RdMw, .Ib] .uint16
     .oneScalar2 [.wig32],
   evex "EVEX_Vpinsrw_VX_HX_RqMw_Ib" .nds .v128 .p66 .set 0xc4 [.VX, .HX, .RqMw, .Ib] .uint16
     .oneScalar2 [] .unknown .only64,
   legacy "Pextrw_Gq_RX_Ib" .o64p66 0xc5 [.Gq, .RX, .Ib] .unknown .only64 reg,
   legacy "Pextrw_Gd_RX_Ib" .p66 0xc5 [.Gd, .RX, .Ib] .unknown .all reg,
   legacy "Pextrw_Gq_N_Ib" .o64 0xc5 [.Gq, .N, .Ib] .unknown .only64 reg,
   legacy "Pextrw_Gd_N_Ib" .np 0xc5 [.Gd, .N, .Ib] .unknown .all reg,
   vex "VEX_Vpextrw_Gd_RX_Ib" .plain .v128 .p66 .clear 0xc5 [.Gd, .RX, .Ib] .unknown .all
     [.wig32, .registerOnly],
   vex "VEX_Vpextrw_Gq_RX_Ib" .plain .v128 .p66 .set 0xc5 [.Gq, .RX, .Ib] .unknown .only64 reg,
   evex "EVEX_Vpextrw_Gd_RX_Ib" .plain .v128 .p66 .clear 0xc5 [.Gd, .RX, .Ib] .unknown .plain
     [.wig32, .registerOnly],
   evex "EVEX_Vpextrw_Gq_RX_Ib" .plain .v128 .p66 .set 0xc5 [.Gq, .RX, .Ib] .unknown .plain reg
     .unknown .only64,
   legacy "Shufpd_VX_WX_Ib" .p66 0xc6 [.VX, .WX, .Ib] .packed128Float64,
   legacy "Shufps_VX_WX_Ib" .np 0xc6 [.VX, .WX, .Ib] .packed128Float32,
   vex "VEX_Vshufps_VX_HX_WX_Ib" .nds .v128 .none .any 0xc6 [.VX, .HX, .WX, .Ib] .packed128Float32,
   vex "VEX_Vshufps_VY_HY_WY_Ib" .nds .v256 .none .any 0xc6 [.VY, .HY, .WY, .Ib] .packed256Float32,
   vex "VEX_Vshufpd_VX_HX_WX_Ib" .nds .v128 .p66 .any 0xc6 [.VX, .HX, .WX, .Ib] .packed128Float64,
   vex "VEX_Vshufpd_VY_HY_WY_Ib" .nds .v256 .p66 .any 0xc6 [.VY, .HY, .WY, .Ib] .packed256Float64,
   full "EVEX_Vshufps_VX_k1z_HX_WX_Ib_b" .nds .v128 .none .clear 0xc6 [.VX, .HX, .WX, .Ib] .float32,
   full "EVEX_Vshufps_VY_k1z_HY_WY_Ib_b" .nds .v256 .none .clear 0xc6 [.VY, .HY, .WY, .Ib] .float32,
   full "EVEX_Vshufps_VZ_k1z_HZ_WZ_Ib_b" .nds .v512 .none .clear 0xc6 [.VZ, .HZ, .WZ, .Ib] .float32,
   full "EVEX_Vshufpd_VX_k1z_HX_WX_Ib_b" .nds .v128 .p66 .set 0xc6 [.VX, .HX, .WX, .Ib] .float64,
   full "EVEX_Vshufpd_VY_k1z_HY_WY_Ib_b" .nds .v256 .p66 .set 0xc6 [.VY, .HY, .WY, .Ib] .float64,
   full "EVEX_Vshufpd_VZ_k1z_HZ_WZ_Ib_b" .nds .v512 .p66 .set 0xc6 [.VZ, .HZ, .WZ, .Ib] .float64,
   group "Cmpxchg16b_Mo" .o64 0xc7 (.reg 1) [.Mo] .uint128 .only64 mem,
   group "Cmpxchg8b_Mq" .free 0xc7 (.reg 1) [.Mq] .uint64 .all mem,
   group "Xrstors64_M" .o64 0xc7 (.reg 3) [.M] .xsave64 .only64 mem,
   group "Xrstors_M" .free 0xc7 (.reg 3) [.M] .xsave .all mem,
   group "Xsavec64_M" .o64 0xc7 (.reg 4) [.M] .xsave64 .only64 mem,
   group "Xsavec_M" .free 0xc7 (.reg 4) [.M] .xsave .all mem,
   group "Xsaves64_M" .o64 0xc7 (.reg 5) [.M] .xsave64 .only64 mem,
   group "Xsaves_M" .free 0xc7 (.reg 5) [.M] .xsave .all mem,
   group "Vmclear_M" .p66 0xc7 (.reg 6) [.M] .uint64 .all mem,
   group "Vmxon_M" .pF3 0xc7 (.reg 6) [.M] .uint64 .all mem,
   group "Rdrand_Rq" .o64 0xc7 (.reg 6) [.Rq] .unknown .only64 reg,
   group "Vmptrld_M" .np 0xc7 (.reg 6) [.M] .uint64 .all mem,
   group "Rdrand_Rw" .o16 0xc7 (.reg 6) [.Rw] .unknown .all reg,
   group "Rdrand_Rd" .o32 0xc7 (.reg 6) [.Rd] .unknown .all reg,
   group "Rdpid_Rd" .pF3 0xc7 (.reg 7) [.Rd] .unknown .all reg,
   group "Rdpid_Rq" .pF3 0xc7 (.reg 7) [.Rq] .unknown .all reg,
   group "Rdseed_Rq" .o64 0xc7 (.reg 7) [.Rq] .unknown .only64 reg,
   group "Vmptrst_M" .np 0xc7 (.reg 7) [.M] .uint64 .all mem,
   group "Rdseed_Rw" .o16 0xc7 (.reg 7) [.Rw] .unknown .all reg,
   group "Rdseed_Rd" .o32 0xc7 (.reg 7) [.Rd] .unknown .all reg,
   bare "Bswap_RAX" .o64NoB 0xc8 [.RAX] .unknown .only64,
   bare "Bswap_R8" .o64B 0xc8 [.R8] .unknown .only64,
   bare "Bswap_AX" .o16NoB 0xc8 [.AX],
   bare "Bswap_R8W" .o16B 0xc8 [.R8W] .unknown .only64,
   bare "Bswap_EAX" .o32NoB 0xc8 [.EAX],
   bare "Bswap_R8D" .o32B 0xc8 [.R8D] .unknown .only64,
   bare "Bswap_RCX" .o64NoB 0xc9 [.RCX] .unknown .only64,
   bare "Bswap_R9" .o64B 0xc9 [.R9] .unknown .only64,
   bare "Bswap_CX" .o16NoB 0xc9 [.CX],
   bare "Bswap_R9W" .o16B 0xc9 [.R9W] .unknown .only64,
   bare "Bswap_ECX" .o32NoB 0xc9 [.ECX],
   bare "Bswap_R9D" .o32B 0xc9 [.R9D] .unknown .only64,
   bare "Bswap_RDX" .o64NoB 0xca [.RDX] .unknown .only64,
   bare "Bswap_R10" .o64B 0xca [.R10] .unknown .only64,
   bare "Bswap_DX" .o16NoB 0xca [.DX],
   bare "Bswap_R10W" .o16B 0xca [.R10W] .unknown .only64,
   bare "Bswap_EDX" .o32NoB 0xca [.EDX],
   bare "Bswap_R10D" .o32B 0xca [.R10D] .unknown .only64,
   bare "Bswap_RBX" .o64NoB 0xcb [.RBX] .unknown .only64,
   bare "Bswap_R11" .o64B 0xcb [.R11] .unknown .only64,
   bare "Bswap_BX" .o16NoB 0xcb [.BX],
   bare "Bswap_R11W" .o16B 0xcb [.R11W] .unknown .only64,
   bare "Bswap_EBX" .o32NoB 0xcb [.EBX],
   bare "Bswap_R11D" .o32B 0xcb [.R11D] .unknown .only64,
   bare "Bswap_RSP" .o64NoB 0xcc [.RSP] .unknown .only64,
   bare "Bswap_R12" .o64B 0xcc [.R12] .unknown .only64,
   bare "Bswap_SP" .o16NoB 0xcc [.SP],
   bare "Bswap_R12W" .o16B 0xcc [.R12W] .unknown .only64,
   bare "Bswap_ESP" .o32NoB 0xcc [.ESP],
   bare "Bswap_R12D" .o32B 0xcc [.R12D] .unknown .only64,
   bare "Bswap_RBP" .o64NoB 0xcd [.RBP] .unknown .only64,
   bare "Bswap_R13" .o64B 0xcd [.R13] .unknown .only64,
   bare "Bswap_BP" .o16NoB 0xcd [.BP],
   bare "Bswap_R13W" .o16B 0xcd [.R13W] .unknown .only64,
   bare "Bswap_EBP" .o32NoB 0xcd [.EBP],
   bare "Bswap_R13D" .o32B 0xcd [.R13D] .unknown .only64,
   bare "Bswap_RSI" .o64NoB 0xce [.RSI] .unknown .only64,
   bare "Bswap_R14" .o64B 0xce [.R14] .unknown .only64,
   bare "Bswap_SI" .o16NoB 0xce [.SI],
   bare "Bswap_R14W" .o16B 0xce [.R14W] .unknown .only64,
   bare "Bswap_ESI" .o32NoB 0xce [.ESI],
   bare "Bswap_R14D" .o32B 0xce [.R14D] .unknown .only64,
   bare "Bswap_RDI" .o64NoB 0xcf [.RDI] .unknown .only64,
   bare "Bswap_R15" .o64B 0xcf [.R15] .unknown .only64,
   bare "Bswap_DI" .o16NoB 0xcf [.DI],
   bare "Bswap_R15W" .o16B 0xcf [.R15W] .unknown .only64,
   bare "Bswap_EDI" .o32NoB 0xcf [.EDI],
   bare "Bswap_R15D" .o32B 0xcf [.R15D] .unknown .only64]

end X86Decoder.Table
