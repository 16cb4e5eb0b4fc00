import X86Decoder.Form.Entry
import X86Decoder.Form.Vocabulary

/-!
# Opcodes B0 to CF of the one-byte map
-/

namespace X86Decoder.Table

open Entry

/-- Opcodes B0 to BF of the one-byte map. -/
def primaryB0 : List Entry := rows .primary
  [bare "Mov_AL_Ib" .noB 0xb0 [.AL, .Ib],
   bare "Mov_R8L_Ib" .b 0xb0 [.R8L, .Ib] .unknown .only64,
   bare "Mov_CL_Ib" .noB 0xb1 [.CL, .Ib],
   bare "Mov_R9L_Ib" .b 0xb1 [.R9L, .Ib] .unknown .only64,
   bare "Mov_DL_Ib" .noB 0xb2 [.DL, .Ib],
   bare "Mov_R10L_Ib" .b 0xb2 [.R10L, .Ib] .unknown .only64,
   bare "Mov_BL_Ib" .noB 0xb3 [.BL, .Ib],
   bare "Mov_R11L_Ib" .b 0xb3 [.R11L, .Ib] .unknown .only64,
   bare "Mov_AH_Ib" { rex := .clear, rexB := .clear } 0xb4 [.AH, .Ib],
   bare "Mov_SPL_Ib" { rex := .set, rexB := .clear } 0xb4 [.SPL, .Ib] .unknown .only64,
   bare "Mov_R12L_Ib" { rex := .clear, rexB := .set } 0xb4 [.R12L, .Ib] .unknown .only64,
   bare "Mov_CH_Ib" { rex := .clear, rexB := .clear } 0xb5 [.CH, .Ib],
   bare "Mov_BPL_Ib" { rex := .set, rexB := .clear } 0xb5 [.BPL, .Ib] .unknown .only64,
   bare "Mov_R13L_Ib" { rex := .clear, rexB := .set } 0xb5 [.R13L, .Ib] .unknown .only64,
   bare "Mov_DH_Ib" { rex := .clear, rexB := .clear } 0xb6 [.DH, .Ib],
   bare "Mov_SIL_Ib" { rex := .set, rexB := .clear } 0xb6 [.SIL, .Ib] .unknown .only64,
   bare "Mov_R14L_Ib" { rex := .clear, rexB := .set } 0xb6 [.R14L, .Ib] .unknown .only64,
   bare "Mov_BH_Ib" { rex := .clear, rexB := .clear } 0xb7 [.BH, .Ib],
   bare "Mov_DIL_Ib" { rex := .set, rexB := .clear } 0xb7 [.DIL, .Ib] .unknown .only64,
   bare "Mov_R15L_Ib" { rex := .clear, rexB := .set } 0xb7 [.R15L, .Ib] .unknown .only64,
   bare "Mov_RAX_Iq" .o64NoB 0xb8 [.RAX, .Iq] .unknown .only64,
   bare "Mov_R8_Iq" .o64B 0xb8 [.R8, .Iq] .unknown .only64,
   bare "Mov_AX_Iw" .o16NoB 0xb8 [.AX, .Iw],
   bare "Mov_R8W_Iw" .o16B 0xb8 [.R8W, .Iw] .unknown .only64,
   bare "Mov_EAX_Id" .o32NoB 0xb8 [.EAX, .Id],
   bare "Mov_R8D_Id" .o32B 0xb8 [.R8D, .Id] .unknown .only64,
   bare "Mov_RCX_Iq" .o64NoB 0xb9 [.RCX, .Iq] .unknown .only64,
   bare "Mov_R9_Iq" .o64B 0xb9 [.R9, .Iq] .unknown .only64,
   bare "Mov_CX_Iw" .o16NoB 0xb9 [.CX, .Iw],
   bare "Mov_R9W_Iw" .o16B 0xb9 [.R9W, .Iw] .unknown .only64,
   bare "Mov_ECX_Id" .o32NoB 0xb9 [.ECX, .Id],
   bare "Mov_R9D_Id" .o32B 0xb9 [.R9D, .Id] .unknown .only64,
   bare "Mov_RDX_Iq" .o64NoB 0xba [.RDX, .Iq] .unknown .only64,
   bare "Mov_R10_Iq" .o64B 0xba [.R10, .Iq] .unknown .only64,
   bare "Mov_DX_Iw" .o16NoB 0xba [.DX, .Iw],
   bare "Mov_R10W_Iw" .o16B 0xba [.R10W, .Iw] .unknown .only64,
   bare "Mov_EDX_Id" .o32NoB 0xba [.EDX, .Id],
   bare "Mov_R10D_Id" .o32B 0xba [.R10D, .Id] .unknown .only64,
   bare "Mov_RBX_Iq" .o64NoB 0xbb [.RBX, .Iq] .unknown .only64,
   bare "Mov_R11_Iq" .o64B 0xbb [.R11, .Iq] .unknown .only64,
   bare "Mov_BX_Iw" .o16NoB 0xbb [.BX, .Iw],
   bare "Mov_R11W_Iw" .o16B 0xbb [.R11W, .Iw] .unknown .only64,
   bare "Mov_EBX_Id" .o32NoB 0xbb [.EBX, .Id],
   bare "Mov_R11D_Id" .o32B 0xbb [.R11D, .Id] .unknown .only64,
   bare "Mov_RSP_Iq" .o64NoB 0xbc [.RSP, .Iq] .unknown .only64,
   bare "Mov_R12_Iq" .o64B 0xbc [.R12, .Iq] .unknown .only64,
   bare "Mov_SP_Iw" .o16NoB 0xbc [.SP, .Iw],
   bare "Mov_R12W_Iw" .o16B 0xbc [.R12W, .Iw] .unknown .only64,
   bare "Mov_ESP_Id" .o32NoB 0xbc [.ESP, .Id],
   bare "Mov_R12D_Id" .o32B 0xbc [.R12D, .Id] .unknown .only64,
   bare "Mov_RBP_Iq" .o64NoB 0xbd [.RBP, .Iq] .unknown .only64,
   bare "Mov_R13_Iq" .o64B 0xbd [.R13, .Iq] .unknown .only64,
   bare "Mov_BP_Iw" .o16NoB 0xbd [.BP, .Iw],
   bare "Mov_R13W_Iw" .o16B 0xbd [.R13W, .Iw] .unknown .only64,
   bare "Mov_EBP_Id" .o32NoB 0xbd [.EBP, .Id],
   bare "Mov_R13D_Id" .o32B 0xbd [.R13D, .Id] .unknown .only64,
   bare "Mov_RSI_Iq" .o64NoB 0xbe [.RSI, .Iq] .unknown .only64,
   bare "Mov_R14_Iq" .o64B 0xbe [.R14, .Iq] .unknown .only64,
   bare "Mov_SI_Iw" .o16NoB 0xbe [.SI, .Iw],
   bare "Mov_R14W_Iw" .o16B 0xbe [.R14W, .Iw] .unknown .only64,
   bare "Mov_ESI_Id" .o32NoB 0xbe [.ESI, .Id],
   bare "Mov_R14D_Id" .o32B 0xbe [.R14D, .Id] .unknown .only64,
   bare "Mov_RDI_Iq" .o64NoB 0xbf [.RDI, .Iq] .unknown .only64,
   bare "Mov_R15_Iq" .o64B 0xbf [.R15, .Iq] .unknown .only64,
   bare "Mov_DI_Iw" .o16NoB 0xbf [.DI, .Iw],
   bare "Mov_R15W_Iw" .o16B 0xbf [.R15W, .Iw] .unknown .only64,
   bare "Mov_EDI_Id" .o32NoB 0xbf [.EDI, .Id],
   bare "Mov_R15D_Id" .o32B 0xbf [.R15D, .Id] .unknown .only64]

/-- Opcodes C0 to CF of the one-byte map. -/
def primaryC0 : List Entry := rows .primary
  [group "Rol_Eb_Ib" .free 0xc0 (.reg 0) [.Eb, .Ib] .uint8,
   group "Ror_Eb_Ib" .free 0xc0 (.reg 1) [.Eb, .Ib] .uint8,
   group "Rcl_Eb_Ib" .free 0xc0 (.reg 2) [.Eb, .Ib] .uint8,
   group "Rcr_Eb_Ib" .free 0xc0 (.reg 3) [.Eb, .Ib] .uint8,
   group "Shl_Eb_Ib" .free 0xc0 (.reg 4) [.Eb, .Ib] .uint8,
   group "Shr_Eb_Ib" .free 0xc0 (.reg 5) [.Eb, .Ib] .uint8,
   group "Sar_Eb_Ib" .free 0xc0 (.reg 7) [.Eb, .Ib] .int8,
   group "Rol_Eq_Ib" .o64 0xc1 (.reg 0) [.Eq, .Ib] .uint64 .only64,
   group "Rol_Ew_Ib" .o16 0xc1 (.reg 0) [.Ew, .Ib] .uint16,
   group "Rol_Ed_Ib" .o32 0xc1 (.reg 0) [.Ed, .Ib] .uint32,
   group "Ror_Eq_Ib" .o64 0xc1 (.reg 1) [.Eq, .Ib] .uint64 .only64,
   group "Ror_Ew_Ib" .o16 0xc1 (.reg 1) [.Ew, .Ib] .uint16,
   group "Ror_Ed_Ib" .o32 0xc1 (.reg 1) [.Ed, .Ib] .uint32,
   group "Rcl_Eq_Ib" .o64 0xc1 (.reg 2) [.Eq, .Ib] .uint64 .only64,
   group "Rcl_Ew_Ib" .o16 0xc1 (.reg 2) [.Ew, .Ib] .uint16,
   group "Rcl_Ed_Ib" .o32 0xc1 (.reg 2) [.Ed, .Ib] .uint32,
   group "Rcr_Eq_Ib" .o64 0xc1 (.reg 3) [.Eq, .Ib] .uint64 .only64,
   group "Rcr_Ew_Ib" .o16 0xc1 (.reg 3) [.Ew, .Ib] .uint16,
   group "Rcr_Ed_Ib" .o32 0xc1 (.reg 3) [.Ed, .Ib] .uint32,
   group "Shl_Eq_Ib" .o64 0xc1 (.reg 4) [.Eq, .Ib] .uint64 .only64,
   group "Shl_Ew_Ib" .o16 0xc1 (.reg 4) [.Ew, .Ib] .uint16,
   group "Shl_Ed_Ib" .o32 0xc1 (.reg 4) [.Ed, .Ib] .uint32,
   group "Shr_Eq_Ib" .o64 0xc1 (.reg 5) [.Eq, .Ib] .uint64 .only64,
   group "Shr_Ew_Ib" .o16 0xc1 (.reg 5) [.Ew, .Ib] .uint16,
   group "Shr_Ed_Ib" .o32 0xc1 (.reg 5) [.Ed, .Ib] .uint32,
   group "Sar_Eq_Ib" .o64 0xc1 (.reg 7) [.Eq, .Ib] .uint64 .only64,
   group "Sar_Ew_Ib" .o16 0xc1 (.reg 7) [.Ew, .Ib] .uint16,
   group "Sar_Ed_Ib" .o32 0xc1 (.reg 7) [.Ed, .Ib] .uint32,
   bare "Retnw_Iw" .o16 0xc2 [.Iw] .unknown .not64,
   bare "Retnd_Iw" .o32 0xc2 [.Iw] .unknown .not64,
   bare "Retnq_Iw" .free 0xc2 [.Iw] .unknown .only64 [.force64],
   bare "Retnw" .o16 0xc3 [] .unknown .not64,
   bare "Retnd" .o32 0xc3 [] .unknown .not64,
   bare "Retnq" .free 0xc3 [] .unknown .only64 [.force64],
   legacy "Les_Gw_Mp" .o16 0xc4 [.Gw, .Mp] .segPtr16 .not64 mem,
   legacy "Les_Gd_Mp" .o32 0xc4 [.Gd, .Mp] .segPtr32 .not64 mem,
   legacy "Lds_Gw_Mp" .o16 0xc5 [.Gw, .Mp] .segPtr16 .not64 mem,
   legacy "Lds_Gd_Mp" .o32 0xc5 [.Gd, .Mp] .segPtr32 .not64 mem,
   group "Mov_Eb_Ib" .free 0xc6 (.reg 0) [.Eb, .Ib] .uint8,
   group "Xabort_Ib" .free 0xc6 (.byte 0xf8) [.Ib],
   group "Mov_Eq_Id64" .o64 0xc7 (.reg 0) [.Eq, .Id64] .uint64 .only64,
   group "Mov_Ew_Iw" .o16 0xc7 (.reg 0) [.Ew, .Iw] .uint16,
   group "Mov_Ed_Id" .o32 0xc7 (.reg 0) [.Ed, .Id] .uint32,
   group "Xbegin_Jd64" .o64 0xc7 (.byte 0xf8) [.Jd64] .unknown .only64 [.default64],
   group "Xbegin_Jw16" .o16 0xc7 (.byte 0xf8) [.Jw16],
   group "Xbegin_Jd32" .o32 0xc7 (.byte 0xf8) [.Jd32] .unknown .not64,
   bare "Enterq_Iw_Ib" .o64 0xc8 [.Iw, .IbSecond] .unknown .only64 [.default64],
   bare "Enterw_Iw_Ib" .o16 0xc8 [.Iw, .IbSecond],
   bare "Enterd_Iw_Ib" .o32 0xc8 [.Iw, .IbSecond] .unknown .not64,
   bare "Leaveq" .o64 0xc9 [] .unknown .only64 [.default64],
   bare "Leavew" .o16 0xc9 [],
   bare "Leaved" .o32 0xc9 [] .unknown .not64,
   bare "Retfq_Iw" .o64 0xca [.Iw] .unknown .only64,
   bare "Retfw_Iw" .o16 0xca [.Iw],
   bare "Retfd_Iw" .o32 0xca [.Iw],
   bare "Retfq" .o64 0xcb [] .unknown .only64,
   bare "Retfw" .o16 0xcb [],
   bare "Retfd" .o32 0xcb [],
   bare "Int3" .free 0xcc [],
   bare "Int_Ib" .free 0xcd [.Ib],
   bare "Into" .free 0xce [] .unknown .not64,
   bare "Iretq" .o64 0xcf [] .unknown .only64,
   bare "Iretw" .o16 0xcf [],
   bare "Iretd" .o32 0xcf []]

end X86Decoder.Table
