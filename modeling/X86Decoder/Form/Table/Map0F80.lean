import X86Decoder.Form.Entry
import X86Decoder.Form.Vocabulary

/-!
# Opcodes 80 to BF of the 0F map
-/

namespace X86Decoder.Table

open Entry

/-- Opcodes 80 to 8F of the 0F map. -/
def map0F80 : List Entry := rows .map0F
  [bare "Jo_Jw16" .o16 0x80 [.Jw16] .unknown .not64,
   bare "Jo_Jd32" .o32 0x80 [.Jd32] .unknown .not64,
   bare "Jo_Jd64" .free 0x80 [.Jd64] .unknown .only64 [.force64],
   bare "Jno_Jw16" .o16 0x81 [.Jw16] .unknown .not64,
   bare "Jno_Jd32" .o32 0x81 [.Jd32] .unknown .not64,
   bare "Jno_Jd64" .free 0x81 [.Jd64] .unknown .only64 [.force64],
   bare "Jb_Jw16" .o16 0x82 [.Jw16] .unknown .not64,
   bare "Jb_Jd32" .o32 0x82 [.Jd32] .unknown .not64,
   bare "Jb_Jd64" .free 0x82 [.Jd64] .unknown .only64 [.force64],
   bare "Jae_Jw16" .o16 0x83 [.Jw16] .unknown .not64,
   bare "Jae_Jd32" .o32 0x83 [.Jd32] .unknown .not64,
   bare "Jae_Jd64" .free 0x83 [.Jd64] .unknown .only64 [.force64],
   bare "Je_Jw16" .o16 0x84 [.Jw16] .unknown .not64,
   bare "Je_Jd32" .o32 0x84 [.Jd32] .unknown .not64,
   bare "Je_Jd64" .free 0x84 [.Jd64] .unknown .only64 [.force64],
   bare "Jne_Jw16" .o16 0x85 [.Jw16] .unknown .not64,
   bare "Jne_Jd32" .o32 0x85 [.Jd32] .unknown .not64,
   bare "Jne_Jd64" .free 0x85 [.Jd64] .unknown .only64 [.force64],
   bare "Jbe_Jw16" .o16 0x86 [.Jw16] .unknown .not64,
   bare "Jbe_Jd32" .o32 0x86 [.Jd32] .unknown .not64,
   bare "Jbe_Jd64" .free 0x86 [.Jd64] .unknown .only64 [.force64],
   bare "Ja_Jw16" .o16 0x87 [.Jw16] .unknown .not64,
   bare "Ja_Jd32" .o32 0x87 [.Jd32] .unknown .not64,
   bare "Ja_Jd64" .free 0x87 [.Jd64] .unknown .only64 [.force64],
   bare "Js_Jw16" .o16 0x88 [.Jw16] .unknown .not64,
   bare "Js_Jd32" .o32 0x88 [.Jd32] .unknown .not64,
   bare "Js_Jd64" .free 0x88 [.Jd64] .unknown .only64 [.force64],
   bare "Jns_Jw16" .o16 0x89 [.Jw16] .unknown .not64,
   bare "Jns_Jd32" .o32 0x89 [.Jd32] .unknown .not64,
   bare "Jns_Jd64" .free 0x89 [.Jd64] .unknown .only64 [.force64],
   bare "Jp_Jw16" .o16 0x8a [.Jw16] .unknown .not64,
   bare "Jp_Jd32" .o32 0x8a [.Jd32] .unknown .not64,
   bare "Jp_Jd64" .free 0x8a [.Jd64] .unknown .only64 [.force64],
   bare "Jnp_Jw16" .o16 0x8b [.Jw16] .unknown .not64,
   bare "Jnp_Jd32" .o32 0x8b [.Jd32] .unknown .not64,
   bare "Jnp_Jd64" .free 0x8b [.Jd64] .unknown .only64 [.force64],
   bare "Jl_Jw16" .o16 0x8c [.Jw16] .unknown .not64,
   bare "Jl_Jd32" .o32 0x8c [.Jd32] .unknown .not64,
   bare "Jl_Jd64" .free 0x8c [.Jd64] .unknown .only64 [.force64],
   bare "Jge_Jw16" .o16 0x8d [.Jw16] .unknown .not64,
   bare "Jge_Jd32" .o32 0x8d [.Jd32] .unknown .not64,
   bare "Jge_Jd64" .free 0x8d [.Jd64] .unknown .only64 [.force64],
   bare "Jle_Jw16" .o16 0x8e [.Jw16] .unknown .not64,
   bare "Jle_Jd32" .o32 0x8e [.Jd32] .unknown .not64,
   bare "Jle_Jd64" .free 0x8e [.Jd64] .unknown .only64 [.force64],
   bare "Jg_Jw16" .o16 0x8f [.Jw16] .unknown .not64,
   bare "Jg_Jd32" .o32 0x8f [.Jd32] .unknown .not64,
   bare "Jg_Jd64" .free 0x8f [.Jd64] .unknown .only64 [.force64]]

/-- Opcodes 90 to 9F of the 0F map. -/
def map0F90 : List Entry := rows .map0F
  [legacy "Seto_Eb" .free 0x90 [.Eb] .uint8,
   legacy "Setno_Eb" .free 0x91 [.Eb] .uint8,
   legacy "Setb_Eb" .free 0x92 [.Eb] .uint8,
   legacy "Setae_Eb" .free 0x93 [.Eb] .uint8,
   legacy "Sete_Eb" .free 0x94 [.Eb] .uint8,
   legacy "Setne_Eb" .free 0x95 [.Eb] .uint8,
   legacy "Setbe_Eb" .free 0x96 [.Eb] .uint8,
   legacy "Seta_Eb" .free 0x97 [.Eb] .uint8,
   legacy "Sets_Eb" .free 0x98 [.Eb] .uint8,
   legacy "Setns_Eb" .free 0x99 [.Eb] .uint8,
   legacy "Setp_Eb" .free 0x9a [.Eb] .uint8,
   legacy "Setnp_Eb" .free 0x9b [.Eb] .uint8,
   legacy "Setl_Eb" .free 0x9c [.Eb] .uint8,
   legacy "Setge_Eb" .free 0x9d [.Eb] .uint8,
   legacy "Setle_Eb" .free 0x9e [.Eb] .uint8,
   legacy "Setg_Eb" .free 0x9f [.Eb] .uint8,
   vex "VEX_Kmovw_VK_WK" .plain .l0 .none .clear 0x90 [.VK, .WK] .uint16,
   vex "VEX_Kmovq_VK_WK" .plain .l0 .none .set 0x90 [.VK, .WK] .uint64,
   vex "VEX_Kmovb_VK_WK" .plain .l0 .p66 .clear 0x90 [.VK, .WK] .uint8,
   vex "VEX_Kmovd_VK_WK" .plain .l0 .p66 .set 0x90 [.VK, .WK] .uint32,
   vex "VEX_Kmovw_MK_VK" .plain .l0 .none .clear 0x91 [.MK, .VK] .uint16 .all mem,
   vex "VEX_Kmovq_MK_VK" .plain .l0 .none .set 0x91 [.MK, .VK] .uint64 .all mem,
   vex "VEX_Kmovb_MK_VK" .plain .l0 .p66 .clear 0x91 [.MK, .VK] .uint8 .all mem,
   vex "VEX_Kmovd_MK_VK" .plain .l0 .p66 .set 0x91 [.MK, .VK] .uint32 .all mem,
   vex "VEX_Kmovw_VK_Rd" .plain .l0 .none .clear 0x92 [.VK, .Rd] .unknown .all reg,
   vex "VEX_Kmovb_VK_Rd" .plain .l0 .p66 .clear 0x92 [.VK, .Rd] .unknown .all reg,
   vex "VEX_Kmovd_VK_Rd" .plain .l0 .pF2 .clear 0x92 [.VK, .Rd] .unknown .all reg,
   vex "VEX_Kmovw_Gd_RK" .plain .l0 .none .clear 0x93 [.Gd, .RK] .unknown .all reg,
   vex "VEX_Kmovb_Gd_RK" .plain .l0 .p66 .clear 0x93 [.Gd, .RK] .unknown .all reg,
   vex "VEX_Kmovd_Gd_RK" .plain .l0 .pF2 .clear 0x93 [.Gd, .RK] .unknown .all reg,
   vex "VEX_Kortestw_VK_RK" .plain .l0 .none .clear 0x98 [.VK, .RK] .unknown .all reg,
   vex "VEX_Kortestq_VK_RK" .plain .l0 .none .set 0x98 [.VK, .RK] .unknown .all reg,
   vex "VEX_Kortestb_VK_RK" .plain .l0 .p66 .clear 0x98 [.VK, .RK] .unknown .all reg,
   vex "VEX_Kortestd_VK_RK" .plain .l0 .p66 .set 0x98 [.VK, .RK] .unknown .all reg,
   vex "VEX_Ktestw_VK_RK" .plain .l0 .none .clear 0x99 [.VK, .RK] .unknown .all reg,
   vex "VEX_Ktestq_VK_RK" .plain .l0 .none .set 0x99 [.VK, .RK] .unknown .all reg,
   vex "VEX_Ktestb_VK_RK" .plain .l0 .p66 .clear 0x99 [.VK, .RK] .unknown .all reg,
   vex "VEX_Ktestd_VK_RK" .plain .l0 .p66 .set 0x99 [.VK, .RK] .unknown .all reg]

/-- Opcodes A0 to AF of the 0F map. -/
def map0FA0 : List Entry := rows .map0F
  [bare "Pushw_FS" .o16 0xa0 [.FS],
   bare "Pushd_FS" .o32 0xa0 [.FS] .unknown .not64,
   bare "Pushq_FS" .free 0xa0 [.FS] .unknown .only64 [.default64],
   bare "Popw_FS" .o16 0xa1 [.FS],
   bare "Popd_FS" .o32 0xa1 [.FS] .unknown .not64,
   bare "Popq_FS" .free 0xa1 [.FS] .unknown .only64 [.default64],
   bare "Cpuid" .free 0xa2 [],
   legacy "Bt_Eq_Gq" .o64 0xa3 [.Eq, .Gq] .uint64 .only64,
   legacy "Bt_Ew_Gw" .o16 0xa3 [.Ew, .Gw] .uint16,
   legacy "Bt_Ed_Gd" .o32 0xa3 [.Ed, .Gd] .uint32,
   legacy "Shld_Eq_Gq_Ib" .o64 0xa4 [.Eq, .Gq, .Ib] .uint64 .only64,
   legacy "Shld_Ew_Gw_Ib" .o16 0xa4 [.Ew, .Gw, .Ib] .uint16,
   legacy "Shld_Ed_Gd_Ib" .o32 0xa4 [.Ed, .Gd, .Ib] .uint32,
   legacy "Shld_Eq_Gq_CL" .o64 0xa5 [.Eq, .Gq, .CL] .uint64 .only64,
   legacy "Shld_Ew_Gw_CL" .o16 0xa5 [.Ew, .Gw, .CL] .uint16,
   legacy "Shld_Ed_Gd_CL" .o32 0xa5 [.Ed, .Gd, .CL] .uint32,
   bare "Pushw_GS" .o16 0xa8 [.GS],
   bare "Pushd_GS" .o32 0xa8 [.GS] .unknown .not64,
   bare "Pushq_GS" .free 0xa8 [.GS] .unknown .only64 [.default64],
   bare "Popw_GS" .o16 0xa9 [.GS],
   bare "Popd_GS" .o32 0xa9 [.GS] .unknown .not64,
   bare "Popq_GS" .free 0xa9 [.GS] .unknown .only64 [.default64],
   bare "Rsm" .free 0xaa [],
   legacy "Bts_Eq_Gq" .o64 0xab [.Eq, .Gq] .uint64 .only64,
   legacy "Bts_Ew_Gw" .o16 0xab [.Ew, .Gw] .uint16,
   legacy "Bts_Ed_Gd" .o32 0xab [.Ed, .Gd] .uint32,
   legacy "Shrd_Eq_Gq_Ib" .o64 0xac [.Eq, .Gq, .Ib] .uint64 .only64,
   legacy "Shrd_Ew_Gw_Ib" .o16 0xac [.Ew, .Gw, .Ib] .uint16,
   legacy "Shrd_Ed_Gd_Ib" .o32 0xac [.Ed, .Gd, .Ib] .uint32,
   legacy "Shrd_Eq_Gq_CL" .o64 0xad [.Eq, .Gq, .CL] .uint64 .only64,
   legacy "Shrd_Ew_Gw_CL" .o16 0xad [.Ew, .Gw, .CL] .uint16,
   legacy "Shrd_Ed_Gd_CL" .o32 0xad [.Ed, .Gd, .CL] .uint32,
   group "Rdfsbase_Rq" .o64pF3 0xae (.reg 0) [.Rq] .unknown .only64 reg,
   group "Rdfsbase_Rd" .pF3 0xae (.reg 0) [.Rd] .unknown .only64 reg,
   group "Fxsave64_M" .o64 0xae (.reg 0) [.M] .fxsave64512Byte .only64 mem,
   group "Fxsave_M" .np 0xae (.reg 0) [.M] .fxsave512Byte .all mem,
   group "Rdgsbase_Rq" .o64pF3 0xae (.reg 1) [.Rq] .unknown .only64 reg,
   group "Rdgsbase_Rd" .pF3 0xae (.reg 1) [.Rd] .unknown .only64 reg,
   group "Fxrstor64_M" .o64 0xae (.reg 1) [.M] .fxsave64512Byte .only64 mem,
   group "Fxrstor_M" .np 0xae (.reg 1) [.M] .fxsave512Byte .all mem,
   group "Wrfsbase_Rq" .o64pF3 0xae (.reg 2) [.Rq] .unknown .only64 reg,
   group "Wrfsbase_Rd" .pF3 0xae (.reg 2) [.Rd] .unknown .only64 reg,
   group "Ldmxcsr_Md" .np 0xae (.reg 2) [.Md] .uint32 .all mem,
   vex "VEX_Vldmxcsr_Md" .plain .l0 .none .any 0xae [.Md] .uint32 .all mem (.reg 2),
   group "Wrgsbase_Rq" .o64pF3 0xae (.reg 3) [.Rq] .unknown .only64 reg,
   group "Wrgsbase_Rd" .pF3 0xae (.reg 3) [.Rd] .unknown .only64 reg,
   group "Stmxcsr_Md" .np 0xae (.reg 3) [.Md] .uint32 .all mem,
   vex "VEX_Vstmxcsr_Md" .plain .l0 .none .any 0xae [.Md] .uint32 .all mem (.reg 3),
   group "Ptwrite_Eq" .o64pF3 0xae (.reg 4) [.Eq] .uint64 .only64,
   group "Ptwrite_Ed" .pF3 0xae (.reg 4) [.Ed] .uint32,
   group "Xsave64_M" .o64 0xae (.reg 4) [.M] .xsave64 .only64 mem,
   group "Xsave_M" .np 0xae (.reg 4) [.M] .xsave .all mem,
   group "Xrstor64_M" .o64 0xae (.reg 5) [.M] .xsave64 .only64 mem,
   group "Xrstor_M" .free 0xae (.reg 5) [.M] .xsave .all mem,
   group "Clwb_Mb" .p66 0xae (.reg 6) [.Mb] .uint8 .all mem,
   group "Xsaveopt64_M" .o64 0xae (.reg 6) [.M] .xsave64 .only64 mem,
   group "Xsaveopt_M" .np 0xae (.reg 6) [.M] .xsave .all mem,
   group "Clflushopt_Mb" .p66 0xae (.reg 7) [.Mb] .uint8 .all mem,
   group "Clflush_Mb" .np 0xae (.reg 7) [.Mb] .uint8 .all mem,
   group "Lfence" .free 0xae (.registers 5) [] .unknown .all reg,
   group "Mfence" .free 0xae (.registers 6) [] .unknown .all reg,
   group "Sfence" .free 0xae (.registers 7) [] .unknown .all reg,
   legacy "Imul_Gq_Eq" .o64 0xaf [.Gq, .Eq] .uint64 .only64,
   legacy "Imul_Gw_Ew" .o16 0xaf [.Gw, .Ew] .uint16,
   legacy "Imul_Gd_Ed" .o32 0xaf [.Gd, .Ed] .uint32]

/-- Opcodes B0 to BF of the 0F map. -/
def map0FB0 : List Entry := rows .map0F
  [legacy "Cmpxchg_Eb_Gb" .free 0xb0 [.Eb, .Gb] .uint8,
   legacy "Cmpxchg_Eq_Gq" .o64 0xb1 [.Eq, .Gq] .uint64 .only64,
   legacy "Cmpxchg_Ew_Gw" .o16 0xb1 [.Ew, .Gw] .uint16,
   legacy "Cmpxchg_Ed_Gd" .o32 0xb1 [.Ed, .Gd] .uint32,
   legacy "Lss_Gq_Mp" .o64 0xb2 [.Gq, .Mp] .segPtr64 .only64 mem,
   legacy "Lss_Gw_Mp" .o16 0xb2 [.Gw, .Mp] .segPtr16 .all mem,
   legacy "Lss_Gd_Mp" .o32 0xb2 [.Gd, .Mp] .segPtr32 .all mem,
   legacy "Btr_Eq_Gq" .o64 0xb3 [.Eq, .Gq] .uint64 .only64,
   legacy "Btr_Ew_Gw" .o16 0xb3 [.Ew, .Gw] .uint16,
   legacy "Btr_Ed_Gd" .o32 0xb3 [.Ed, .Gd] .uint32,
   legacy "Lfs_Gq_Mp" .o64 0xb4 [.Gq, .Mp] .segPtr64 .only64 mem,
   legacy "Lfs_Gw_Mp" .o16 0xb4 [.Gw, .Mp] .segPtr16 .all mem,
   legacy "Lfs_Gd_Mp" .o32 0xb4 [.Gd, .Mp] .segPtr32 .all mem,
   legacy "Lgs_Gq_Mp" .o64 0xb5 [.Gq, .Mp] .segPtr64 .only64 mem,
   legacy "Lgs_Gw_Mp" .o16 0xb5 [.Gw, .Mp] .segPtr16 .all mem,
   legacy "Lgs_Gd_Mp" .o32 0xb5 [.Gd, .Mp] .segPtr32 .all mem,
   legacy "Movzx_Gq_Eb" .o64 0xb6 [.Gq, .Eb] .uint8 .only64,
   legacy "Movzx_Gw_Eb" .o16 0xb6 [.Gw, .Eb] .uint8,
   legacy "Movzx_Gd_Eb" .o32 0xb6 [.Gd, .Eb] .uint8,
   legacy "Movzx_Gq_Ew" .o64 0xb7 [.Gq, .Ew] .uint16 .only64,
   legacy "Movzx_Gw_Ew" .o16 0xb7 [.Gw, .Ew] .uint16,
   legacy "Movzx_Gd_Ew" .o32 0xb7 [.Gd, .Ew] .uint16,
   legacy "Popcnt_Gq_Eq" .o64pF3 0xb8 [.Gq, .Eq] .uint64 .only64,
   legacy "Popcnt_Gw_Ew" { operandSize := some .w16, mandatory := .pF3 } 0xb8 [.Gw, .Ew] .uint16,
   legacy "Popcnt_Gd_Ed" { operandSize := some .w32, mandatory := .pF3 } 0xb8 [.Gd, .Ed] .uint32,
   legacy "Ud1_Gq_Eq" .o64 0xb9 [.Gq, .Eq] .uint64 .only64,
   legacy "Ud1_Gw_Ew" .o16 0xb9 [.Gw, .Ew] .uint16,
   legacy "Ud1_Gd_Ed" .o32 0xb9 [.Gd, .Ed] .uint32,
   group "Bt_Eq_Ib" .o64 0xba (.reg 4) [.Eq, .Ib] .uint64 .only64,
   group "Bt_Ew_Ib" .o16 0xba (.reg 4) [.Ew, .Ib] .uint16,
   group "Bt_Ed_Ib" .o32 0xba (.reg 4) [.Ed, .Ib] .uint32,
   group "Bts_Eq_Ib" .o64 0xba (.reg 5) [.Eq, .Ib] .uint64 .only64,
   group "Bts_Ew_Ib" .o16 0xba (.reg 5) [.Ew, .Ib] .uint16,
   group "Bts_Ed_Ib" .o32 0xba (.reg 5) [.Ed, .Ib] .uint32,
   group "Btr_Eq_Ib" .o64 0xba (.reg 6) [.Eq, .Ib] .uint64 .only64,
   group "Btr_Ew_Ib" .o16 0xba (.reg 6) [.Ew, .Ib] .uint16,
   group "Btr_Ed_Ib" .o32 0xba (.reg 6) [.Ed, .Ib] .uint32,
   group "Btc_Eq_Ib" .o64 0xba (.reg 7) [.Eq, .Ib] .uint64 .only64,
   group "Btc_Ew_Ib" .o16 0xba (.reg 7) [.Ew, .Ib] .uint16,
   group "Btc_Ed_Ib" .o32 0xba (.reg 7) [.Ed, .Ib] .uint32,
   legacy "Btc_Eq_Gq" .o64 0xbb [.Eq, .Gq] .uint64 .only64,
   legacy "Btc_Ew_Gw" .o16 0xbb [.Ew, .Gw] .uint16,
   legacy "Btc_Ed_Gd" .o32 0xbb [.Ed, .Gd] .uint32,
   legacy "Tzcnt_Gq_Eq" .o64pF3 0xbc [.Gq, .Eq] .uint64 .only64,
   legacy "Tzcnt_Gw_Ew" { operandSize := some .w16, mandatory := .pF3 } 0xbc [.Gw, .Ew] .uint16,
   legacy "Tzcnt_Gd_Ed" { operandSize := some .w32, mandatory := .pF3 } 0xbc [.Gd, .Ed] .uint32,
   legacy "Bsf_Gq_Eq" .o64 0xbc [.Gq, .Eq] .uint64 .only64,
   legacy "Bsf_Gw_Ew" .o16 0xbc [.Gw, .Ew] .uint16,
   legacy "Bsf_Gd_Ed" .o32 0xbc [.Gd, .Ed] .uint32,
   legacy "Lzcnt_Gq_Eq" .o64pF3 0xbd [.Gq, .Eq] .uint64 .only64,
   legacy "Lzcnt_Gw_Ew" { operandSize := some .w16, mandatory := .pF3 } 0xbd [.Gw, .Ew] .uint16,
   legacy "Lzcnt_Gd_Ed" { operandSize := some .w32, mandatory := .pF3 } 0xbd [.Gd, .Ed] .uint32,
   legacy "Bsr_Gq_Eq" .o64 0xbd [.Gq, .Eq] .uint64 .only64,
   legacy "Bsr_Gw_Ew" .o16 0xbd [.Gw, .Ew] .uint16,
   legacy "Bsr_Gd_Ed" .o32 0xbd [.Gd, .Ed] .uint32,
   legacy "Movsx_Gq_Eb" .o64 0xbe [.Gq, .Eb] .int8 .only64,
   legacy "Movsx_Gw_Eb" .o16 0xbe [.Gw, .Eb] .int8,
   legacy "Movsx_Gd_Eb" .o32 0xbe [.Gd, .Eb] .int8,
   legacy "Movsx_Gq_Ew" .o64 0xbf [.Gq, .Ew] .int16 .only64,
   legacy "Movsx_Gw_Ew" .o16 0xbf [.Gw, .Ew] .int16,
   legacy "Movsx_Gd_Ew" .o32 0xbf [.Gd, .Ew] .int16]

end X86Decoder.Table
