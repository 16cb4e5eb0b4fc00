import X86Decoder.Form.Entry
import X86Decoder.Form.Vocabulary

/-!
# Opcodes D0 to DF of the one-byte map
-/

namespace X86Decoder.Table

open Entry

/-- Opcodes D0 to DF of the one-byte map. -/
def primaryD0 : List Entry := rows .primary
  [group "Rol_Eb_1" .free 0xd0 (.reg 0) [.Eb, .One] .uint8,
   group "Ror_Eb_1" .free 0xd0 (.reg 1) [.Eb, .One] .uint8,
   group "Rcl_Eb_1" .free 0xd0 (.reg 2) [.Eb, .One] .uint8,
   group "Rcr_Eb_1" .free 0xd0 (.reg 3) [.Eb, .One] .uint8,
   group "Shl_Eb_1" .free 0xd0 (.reg 4) [.Eb, .One] .uint8,
   group "Shr_Eb_1" .free 0xd0 (.reg 5) [.Eb, .One] .uint8,
   group "Sar_Eb_1" .free 0xd0 (.reg 7) [.Eb, .One] .int8,
   group "Rol_Eq_1" .o64 0xd1 (.reg 0) [.Eq, .One] .uint64 .only64,
   group "Rol_Ew_1" .o16 0xd1 (.reg 0) [.Ew, .One] .uint16,
   group "Rol_Ed_1" .o32 0xd1 (.reg 0) [.Ed, .One] .uint32,
   group "Ror_Eq_1" .o64 0xd1 (.reg 1) [.Eq, .One] .uint64 .only64,
   group "Ror_Ew_1" .o16 0xd1 (.reg 1) [.Ew, .One] .uint16,
   group "Ror_Ed_1" .o32 0xd1 (.reg 1) [.Ed, .One] .uint32,
   group "Rcl_Eq_1" .o64 0xd1 (.reg 2) [.Eq, .One] .uint64 .only64,
   group "Rcl_Ew_1" .o16 0xd1 (.reg 2) [.Ew, .One] .uint16,
   group "Rcl_Ed_1" .o32 0xd1 (.reg 2) [.Ed, .One] .uint32,
   group "Rcr_Eq_1" .o64 0xd1 (.reg 3) [.Eq, .One] .uint64 .only64,
   group "Rcr_Ew_1" .o16 0xd1 (.reg 3) [.Ew, .One] .uint16,
   group "Rcr_Ed_1" .o32 0xd1 (.reg 3) [.Ed, .One] .uint32,
   group "Shl_Eq_1" .o64 0xd1 (.reg 4) [.Eq, .One] .uint64 .only64,
   group "Shl_Ew_1" .o16 0xd1 (.reg 4) [.Ew, .One] .uint16,
   group "Shl_Ed_1" .o32 0xd1 (.reg 4) [.Ed, .One] .uint32,
   group "Shr_Eq_1" .o64 0xd1 (.reg 5) [.Eq, .One] .uint64 .only64,
   group "Shr_Ew_1" .o16 0xd1 (.reg 5) [.Ew, .One] .uint16,
   group "Shr_Ed_1" .o32 0xd1 (.reg 5) [.Ed, .One] .uint32,
   group "Sar_Eq_1" .o64 0xd1 (.reg 7) [.Eq, .One] .uint64 .only64,
   group "Sar_Ew_1" .o16 0xd1 (.reg 7) [.Ew, .One] .uint16,
   group "Sar_Ed_1" .o32 0xd1 (.reg 7) [.Ed, .One] .uint32,
   group "Rol_Eb_CL" .free 0xd2 (.reg 0) [.Eb, .CL] .uint8,
   group "Ror_Eb_CL" .free 0xd2 (.reg 1) [.Eb, .CL] .uint8,
   group "Rcl_Eb_CL" .free 0xd2 (.reg 2) [.Eb, .CL] .uint8,
   group "Rcr_Eb_CL" .free 0xd2 (.reg 3) [.Eb, .CL] .uint8,
   group "Shl_Eb_CL" .free 0xd2 (.reg 4) [.Eb, .CL] .uint8,
   group "Shr_Eb_CL" .free 0xd2 (.reg 5) [.Eb, .CL] .uint8,
   group "Sar_Eb_CL" .free 0xd2 (.reg 7) [.Eb, .CL] .int8,
   group "Rol_Eq_CL" .o64 0xd3 (.reg 0) [.Eq, .CL] .uint64 .only64,
   group "Rol_Ew_CL" .o16 0xd3 (.reg 0) [.Ew, .CL] .uint16,
   group "Rol_Ed_CL" .o32 0xd3 (.reg 0) [.Ed, .CL] .uint32,
   group "Ror_Eq_CL" .o64 0xd3 (.reg 1) [.Eq, .CL] .uint64 .only64,
   group "Ror_Ew_CL" .o16 0xd3 (.reg 1) [.Ew, .CL] .uint16,
   group "Ror_Ed_CL" .o32 0xd3 (.reg 1) [.Ed, .CL] .uint32,
   group "Rcl_Eq_CL" .o64 0xd3 (.reg 2) [.Eq, .CL] .uint64 .only64,
   group "Rcl_Ew_CL" .o16 0xd3 (.reg 2) [.Ew, .CL] .uint16,
   group "Rcl_Ed_CL" .o32 0xd3 (.reg 2) [.Ed, .CL] .uint32,
   group "Rcr_Eq_CL" .o64 0xd3 (.reg 3) [.Eq, .CL] .uint64 .only64,
   group "Rcr_Ew_CL" .o16 0xd3 (.reg 3) [.Ew, .CL] .uint16,
   group "Rcr_Ed_CL" .o32 0xd3 (.reg 3) [.Ed, .CL] .uint32,
   group "Shl_Eq_CL" .o64 0xd3 (.reg 4) [.Eq, .CL] .uint64 .only64,
   group "Shl_Ew_CL" .o16 0xd3 (.reg 4) [.Ew, .CL] .uint16,
   group "Shl_Ed_CL" .o32 0xd3 (.reg 4) [.Ed, .CL] .uint32,
   group "Shr_Eq_CL" .o64 0xd3 (.reg 5) [.Eq, .CL] .uint64 .only64,
   group "Shr_Ew_CL" .o16 0xd3 (.reg 5) [.Ew, .CL] .uint16,
   group "Shr_Ed_CL" .o32 0xd3 (.reg 5) [.Ed, .CL] .uint32,
   group "Sar_Eq_CL" .o64 0xd3 (.reg 7) [.Eq, .CL] .uint64 .only64,
   group "Sar_Ew_CL" .o16 0xd3 (.reg 7) [.Ew, .CL] .uint16,
   group "Sar_Ed_CL" .o32 0xd3 (.reg 7) [.Ed, .CL] .uint32,
   bare "Aam_Ib" .free 0xd4 [.Ib] .unknown .not64,
   bare "Aad_Ib" .free 0xd5 [.Ib] .unknown .not64,
   bare "Salc" .free 0xd6 [] .unknown .not64,
   bare "Xlatb" .free 0xd7 [],
   group "Fadd_Mf32" .free 0xd8 (.reg 0) [.Mf32] .float32 .all mem,
   group "Fmul_Mf32" .free 0xd8 (.reg 1) [.Mf32] .float32 .all mem,
   group "Fcom_Mf32" .free 0xd8 (.reg 2) [.Mf32] .float32 .all mem,
   group "Fcomp_Mf32" .free 0xd8 (.reg 3) [.Mf32] .float32 .all mem,
   group "Fsub_Mf32" .free 0xd8 (.reg 4) [.Mf32] .float32 .all mem,
   group "Fsubr_Mf32" .free 0xd8 (.reg 5) [.Mf32] .float32 .all mem,
   group "Fdiv_Mf32" .free 0xd8 (.reg 6) [.Mf32] .float32 .all mem,
   group "Fdivr_Mf32" .free 0xd8 (.reg 7) [.Mf32] .float32 .all mem,
   group "Fadd_ST_STi" .free 0xd8 (.registers 0) [.ST, .STi] .unknown .all reg,
   group "Fmul_ST_STi" .free 0xd8 (.registers 1) [.ST, .STi] .unknown .all reg,
   group "Fcom_ST_STi" .free 0xd8 (.registers 2) [.ST, .STi] .unknown .all reg,
   group "Fcomp_ST_STi" .free 0xd8 (.registers 3) [.ST, .STi] .unknown .all reg,
   group "Fsub_ST_STi" .free 0xd8 (.registers 4) [.ST, .STi] .unknown .all reg,
   group "Fsubr_ST_STi" .free 0xd8 (.registers 5) [.ST, .STi] .unknown .all reg,
   group "Fdiv_ST_STi" .free 0xd8 (.registers 6) [.ST, .STi] .unknown .all reg,
   group "Fdivr_ST_STi" .free 0xd8 (.registers 7) [.ST, .STi] .unknown .all reg,
   group "Fld_Mf32" .free 0xd9 (.reg 0) [.Mf32] .float32 .all mem,
   group "Fst_Mf32" .free 0xd9 (.reg 2) [.Mf32] .float32 .all mem,
   group "Fstp_Mf32" .free 0xd9 (.reg 3) [.Mf32] .float32 .all mem,
   group "Fldenv_M14" .o16 0xd9 (.reg 4) [.M14] .fpuEnv14 .all mem,
   group "Fldenv_M28" .o32 0xd9 (.reg 4) [.M28] .fpuEnv28 .all mem,
   group "Fldcw_Mw" .free 0xd9 (.reg 5) [.Mw] .uint16 .all mem,
   group "Fnstenv_M14" .o16 0xd9 (.reg 6) [.M14] .fpuEnv14 .all mem,
   group "Fnstenv_M28" .o32 0xd9 (.reg 6) [.M28] .fpuEnv28 .all mem,
   group "Fnstcw_Mw" .free 0xd9 (.reg 7) [.Mw] .uint16 .all mem,
   group "Fld_ST_STi" .free 0xd9 (.registers 0) [.ST, .STi] .unknown .all reg,
   group "Fxch_ST_STi" .free 0xd9 (.registers 1) [.ST, .STi] .unknown .all reg,
   group "Fnop" .free 0xd9 (.byte 0xd0) [],
   group "Fchs" .free 0xd9 (.byte 0xe0) [],
   group "Fabs" .free 0xd9 (.byte 0xe1) [],
   group "Ftst" .free 0xd9 (.byte 0xe4) [],
   group "Fxam" .free 0xd9 (.byte 0xe5) [],
   group "Fld1" .free 0xd9 (.byte 0xe8) [],
   group "Fldl2t" .free 0xd9 (.byte 0xe9) [],
   group "Fldl2e" .free 0xd9 (.byte 0xea) [],
   group "Fldpi" .free 0xd9 (.byte 0xeb) [],
   group "Fldlg2" .free 0xd9 (.byte 0xec) [],
   group "Fldln2" .free 0xd9 (.byte 0xed) [],
   group "Fldz" .free 0xd9 (.byte 0xee) [],
   group "F2xm1" .free 0xd9 (.byte 0xf0) [],
   group "Fyl2x" .free 0xd9 (.byte 0xf1) [],
   group "Fptan" .free 0xd9 (.byte 0xf2) [],
   group "Fpatan" .free 0xd9 (.byte 0xf3) [],
   group "Fxtract" .free 0xd9 (.byte 0xf4) [],
   group "Fprem1" .free 0xd9 (.byte 0xf5) [],
   group "Fdecstp" .free 0xd9 (.byte 0xf6) [],
   group "Fincstp" .free 0xd9 (.byte 0xf7) [],
   group "Fprem" .free 0xd9 (.byte 0xf8) [],
   group "Fyl2xp1" .free 0xd9 (.byte 0xf9) [],
   group "Fsqrt" .free 0xd9 (.byte 0xfa) [],
   group "Fsincos" .free 0xd9 (.byte 0xfb) [],
   group "Frndint" .free 0xd9 (.byte 0xfc) [],
   group "Fscale" .free 0xd9 (.byte 0xfd) [],
   group "Fsin" .free 0xd9 (.byte 0xfe) [],
   group "Fcos" .free 0xd9 (.byte 0xff) [],
   group "Fiadd_Mfi32" .free 0xda (.reg 0) [.Mfi32] .int32 .all mem,
   group "Fimul_Mfi32" .free 0xda (.reg 1) [.Mfi32] .int32 .all mem,
   group "Ficom_Mfi32" .free 0xda (.reg 2) [.Mfi32] .int32 .all mem,
   group "Ficomp_Mfi32" .free 0xda (.reg 3) [.Mfi32] .int32 .all mem,
   group "Fisub_Mfi32" .free 0xda (.reg 4) [.Mfi32] .int32 .all mem,
   group "Fisubr_Mfi32" .free 0xda (.reg 5) [.Mfi32] .int32 .all mem,
   group "Fidiv_Mfi32" .free 0xda (.reg 6) [.Mfi32] .int32 .all mem,
   group "Fidivr_Mfi32" .free 0xda (.reg 7) [.Mfi32] .int32 .all mem,
   group "Fcmovb_ST_STi" .free 0xda (.registers 0) [.ST, .STi] .unknown .all reg,
   group "Fcmove_ST_STi" .free 0xda (.registers 1) [.ST, .STi] .unknown .all reg,
   group "Fcmovbe_ST_STi" .free 0xda (.registers 2) [.ST, .STi] .unknown .all reg,
   group "Fcmovu_ST_STi" .free 0xda (.registers 3) [.ST, .STi] .unknown .all reg,
   group "Fucompp" .free 0xda (.byte 0xe9) [],
   group "Fild_Mfi32" .free 0xdb (.reg 0) [.Mfi32] .int32 .all mem,
   group "Fisttp_Mfi32" .free 0xdb (.reg 1) [.Mfi32] .int32 .all mem,
   group "Fist_Mfi32" .free 0xdb (.reg 2) [.Mfi32] .int32 .all mem,
   group "Fistp_Mfi32" .free 0xdb (.reg 3) [.Mfi32] .int32 .all mem,
   group "Fld_Mf80" .free 0xdb (.reg 5) [.Mf80] .float80 .all mem,
   group "Fstp_Mf80" .free 0xdb (.reg 7) [.Mf80] .float80 .all mem,
   group "Fcmovnb_ST_STi" .free 0xdb (.registers 0) [.ST, .STi] .unknown .all reg,
   group "Fcmovne_ST_STi" .free 0xdb (.registers 1) [.ST, .STi] .unknown .all reg,
   group "Fcmovnbe_ST_STi" .free 0xdb (.registers 2) [.ST, .STi] .unknown .all reg,
   group "Fcmovnu_ST_STi" .free 0xdb (.registers 3) [.ST, .STi] .unknown .all reg,
   group "Fnclex" .free 0xdb (.byte 0xe2) [],
   group "Fninit" .free 0xdb (.byte 0xe3) [],
   group "Fucomi_ST_STi" .free 0xdb (.registers 5) [.ST, .STi] .unknown .all reg,
   group "Fcomi_ST_STi" .free 0xdb (.registers 6) [.ST, .STi] .unknown .all reg,
   group "Fadd_Mf64" .free 0xdc (.reg 0) [.Mf64] .float64 .all mem,
   group "Fmul_Mf64" .free 0xdc (.reg 1) [.Mf64] .float64 .all mem,
   group "Fcom_Mf64" .free 0xdc (.reg 2) [.Mf64] .float64 .all mem,
   group "Fcomp_Mf64" .free 0xdc (.reg 3) [.Mf64] .float64 .all mem,
   group "Fsub_Mf64" .free 0xdc (.reg 4) [.Mf64] .float64 .all mem,
   group "Fsubr_Mf64" .free 0xdc (.reg 5) [.Mf64] .float64 .all mem,
   group "Fdiv_Mf64" .free 0xdc (.reg 6) [.Mf64] .float64 .all mem,
   group "Fdivr_Mf64" .free 0xdc (.reg 7) [.Mf64] .float64 .all mem,
   group "Fadd_STi_ST" .free 0xdc (.registers 0) [.STi, .ST] .unknown .all reg,
   group "Fmul_STi_ST" .free 0xdc (.registers 1) [.STi, .ST] .unknown .all reg,
   group "Fsubr_STi_ST" .free 0xdc (.registers 4) [.STi, .ST] .unknown .all reg,
   group "Fsub_STi_ST" .free 0xdc (.registers 5) [.STi, .ST] .unknown .all reg,
   group "Fdivr_STi_ST" .free 0xdc (.registers 6) [.STi, .ST] .unknown .all reg,
   group "Fdiv_STi_ST" .free 0xdc (.registers 7) [.STi, .ST] .unknown .all reg,
   group "Fld_Mf64" .free 0xdd (.reg 0) [.Mf64] .float64 .all mem,
   group "Fisttp_Mf64" .free 0xdd (.reg 1) [.Mf64] .float64 .all mem,
   group "Fst_Mf64" .free 0xdd (.reg 2) [.Mf64] .float64 .all mem,
   group "Fstp_Mf64" .free 0xdd (.reg 3) [.Mf64] .float64 .all mem,
   group "Frstor_M98" .o16 0xdd (.reg 4) [.M98] .fpuState94 .all mem,
   group "Frstor_M108" .o32 0xdd (.reg 4) [.M108] .fpuState108 .all mem,
   group "Fnsave_M98" .o16 0xdd (.reg 6) [.M98] .fpuState94 .all mem,
   group "Fnsave_M108" .o32 0xdd (.reg 6) [.M108] .fpuState108 .all mem,
   group "Fnstsw_Mw" .free 0xdd (.reg 7) [.Mw] .uint16 .all mem,
   group "Ffree_STi" .free 0xdd (.registers 0) [.STi] .unknown .all reg,
   group "Fst_STi" .free 0xdd (.registers 2) [.STi] .unknown .all reg,
   group "Fstp_STi" .free 0xdd (.registers 3) [.STi] .unknown .all reg,
   group "Fucom_ST_STi" .free 0xdd (.registers 4) [.ST, .STi] .unknown .all reg,
   group "Fucomp_ST_STi" .free 0xdd (.registers 5) [.ST, .STi] .unknown .all reg,
   group "Fiadd_Mfi16" .free 0xde (.reg 0) [.Mfi16] .int16 .all mem,
   group "Fimul_Mfi16" .free 0xde (.reg 1) [.Mfi16] .int16 .all mem,
   group "Ficom_Mfi16" .free 0xde (.reg 2) [.Mfi16] .int16 .all mem,
   group "Ficomp_Mfi16" .free 0xde (.reg 3) [.Mfi16] .int16 .all mem,
   group "Fisub_Mfi16" .free 0xde (.reg 4) [.Mfi16] .int16 .all mem,
   group "Fisubr_Mfi16" .free 0xde (.reg 5) [.Mfi16] .int16 .all mem,
   group "Fidiv_Mfi16" .free 0xde (.reg 6) [.Mfi16] .int16 .all mem,
   group "Fidivr_Mfi16" .free 0xde (.reg 7) [.Mfi16] .int16 .all mem,
   group "Faddp_STi_ST" .free 0xde (.registers 0) [.STi, .ST] .unknown .all reg,
   group "Fmulp_STi_ST" .free 0xde (.registers 1) [.STi, .ST] .unknown .all reg,
   group "Fcompp" .free 0xde (.byte 0xd9) [],
   group "Fsubrp_STi_ST" .free 0xde (.registers 4) [.STi, .ST] .unknown .all reg,
   group "Fsubp_STi_ST" .free 0xde (.registers 5) [.STi, .ST] .unknown .all reg,
   group "Fdivrp_STi_ST" .free 0xde (.registers 6) [.STi, .ST] .unknown .all reg,
   group "Fdivp_STi_ST" .free 0xde (.registers 7) [.STi, .ST] .unknown .all reg,
   group "Fild_Mfi16" .free 0xdf (.reg 0) [.Mfi16] .int16 .all mem,
   group "Fisttp_Mfi16" .free 0xdf (.reg 1) [.Mfi16] .int16 .all mem,
   group "Fist_Mfi16" .free 0xdf (.reg 2) [.Mfi16] .int16 .all mem,
   group "Fistp_Mfi16" .free 0xdf (.reg 3) [.Mfi16] .int16 .all mem,
   group "Fbld_Mfbcd" .free 0xdf (.reg 4) [.Mfbcd] .bcd .all mem,
   group "Fild_Mfi64" .free 0xdf (.reg 5) [.Mfi64] .int64 .all mem,
   group "Fbstp_Mfbcd" .free 0xdf (.reg 6) [.Mfbcd] .bcd .all mem,
   group "Fistp_Mfi64" .free 0xdf (.reg 7) [.Mfi64] .int64 .all mem,
   group "Fnstsw_AX" .free 0xdf (.byte 0xe0) [.AX],
   group "Fucomip_ST_STi" .free 0xdf (.registers 5) [.ST, .STi] .unknown .all reg,
   group "Fcomip_ST_STi" .free 0xdf (.registers 6) [.ST, .STi] .unknown .all reg]

end X86Decoder.Table
