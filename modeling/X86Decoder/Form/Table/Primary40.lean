import X86Decoder.Form.Entry
import X86Decoder.Form.Vocabulary

/-!
# Opcodes 40 to 7F of the one-byte map
-/

namespace X86Decoder.Table

open Entry

/-- Opcodes 40 to 4F of the one-byte map. -/
def primary40 : List Entry := rows .primary
  [bare "Inc_AX" .o16 0x40 [.AX] .unknown .not64,
   bare "Inc_EAX" .o32 0x40 [.EAX] .unknown .not64,
   bare "Inc_CX" .o16 0x41 [.CX] .unknown .not64,
   bare "Inc_ECX" .o32 0x41 [.ECX] .unknown .not64,
   bare "Inc_DX" .o16 0x42 [.DX] .unknown .not64,
   bare "Inc_EDX" .o32 0x42 [.EDX] .unknown .not64,
   bare "Inc_BX" .o16 0x43 [.BX] .unknown .not64,
   bare "Inc_EBX" .o32 0x43 [.EBX] .unknown .not64,
   bare "Inc_SP" .o16 0x44 [.SP] .unknown .not64,
   bare "Inc_ESP" .o32 0x44 [.ESP] .unknown .not64,
   bare "Inc_BP" .o16 0x45 [.BP] .unknown .not64,
   bare "Inc_EBP" .o32 0x45 [.EBP] .unknown .not64,
   bare "Inc_SI" .o16 0x46 [.SI] .unknown .not64,
   bare "Inc_ESI" .o32 0x46 [.ESI] .unknown .not64,
   bare "Inc_DI" .o16 0x47 [.DI] .unknown .not64,
   bare "Inc_EDI" .o32 0x47 [.EDI] .unknown .not64,
   bare "Dec_AX" .o16 0x48 [.AX] .unknown .not64,
   bare "Dec_EAX" .o32 0x48 [.EAX] .unknown .not64,
   bare "Dec_CX" .o16 0x49 [.CX] .unknown .not64,
   bare "Dec_ECX" .o32 0x49 [.ECX] .unknown .not64,
   bare "Dec_DX" .o16 0x4a [.DX] .unknown .not64,
   bare "Dec_EDX" .o32 0x4a [.EDX] .unknown .not64,
   bare "Dec_BX" .o16 0x4b [.BX] .unknown .not64,
   bare "Dec_EBX" .o32 0x4b [.EBX] .unknown .not64,
   bare "Dec_SP" .o16 0x4c [.SP] .unknown .not64,
   bare "Dec_ESP" .o32 0x4c [.ESP] .unknown .not64,
   bare "Dec_BP" .o16 0x4d [.BP] .unknown .not64,
   bare "Dec_EBP" .o32 0x4d [.EBP] .unknown .not64,
   bare "Dec_SI" .o16 0x4e [.SI] .unknown .not64,
   bare "Dec_ESI" .o32 0x4e [.ESI] .unknown .not64,
   bare "Dec_DI" .o16 0x4f [.DI] .unknown .not64,
   bare "Dec_EDI" .o32 0x4f [.EDI] .unknown .not64]

/-- Opcodes 50 to 5F of the one-byte map. -/
def primary50 : List Entry := rows .primary
  [bare "Push_AX" .o16NoB 0x50 [.AX],
   bare "Push_R8W" .o16B 0x50 [.R8W] .unknown .only64,
   bare "Push_EAX" .o32NoB 0x50 [.EAX] .unknown .not64,
   bare "Push_RAX" .noB 0x50 [.RAX] .unknown .only64 [.default64],
   bare "Push_R8" .b 0x50 [.R8] .unknown .only64 [.default64],
   bare "Push_CX" .o16NoB 0x51 [.CX],
   bare "Push_R9W" .o16B 0x51 [.R9W] .unknown .only64,
   bare "Push_ECX" .o32NoB 0x51 [.ECX] .unknown .not64,
   bare "Push_RCX" .noB 0x51 [.RCX] .unknown .only64 [.default64],
   bare "Push_R9" .b 0x51 [.R9] .unknown .only64 [.default64],
   bare "Push_DX" .o16NoB 0x52 [.DX],
   bare "Push_R10W" .o16B 0x52 [.R10W] .unknown .only64,
   bare "Push_EDX" .o32NoB 0x52 [.EDX] .unknown .not64,
   bare "Push_RDX" .noB 0x52 [.RDX] .unknown .only64 [.default64],
   bare "Push_R10" .b 0x52 [.R10] .unknown .only64 [.default64],
   bare "Push_BX" .o16NoB 0x53 [.BX],
   bare "Push_R11W" .o16B 0x53 [.R11W] .unknown .only64,
   bare "Push_EBX" .o32NoB 0x53 [.EBX] .unknown .not64,
   bare "Push_RBX" .noB 0x53 [.RBX] .unknown .only64 [.default64],
   bare "Push_R11" .b 0x53 [.R11] .unknown .only64 [.default64],
   bare "Push_SP" .o16NoB 0x54 [.SP],
   bare "Push_R12W" .o16B 0x54 [.R12W] .unknown .only64,
   bare "Push_ESP" .o32NoB 0x54 [.ESP] .unknown .not64,
   bare "Push_RSP" .noB 0x54 [.RSP] .unknown .only64 [.default64],
   bare "Push_R12" .b 0x54 [.R12] .unknown .only64 [.default64],
   bare "Push_BP" .o16NoB 0x55 [.BP],
   bare "Push_R13W" .o16B 0x55 [.R13W] .unknown .only64,
   bare "Push_EBP" .o32NoB 0x55 [.EBP] .unknown .not64,
   bare "Push_RBP" .noB 0x55 [.RBP] .unknown .only64 [.default64],
   bare "Push_R13" .b 0x55 [.R13] .unknown .only64 [.default64],
   bare "Push_SI" .o16NoB 0x56 [.SI],
   bare "Push_R14W" .o16B 0x56 [.R14W] .unknown .only64,
   bare "Push_ESI" .o32NoB 0x56 [.ESI] .unknown .not64,
   bare "Push_RSI" .noB 0x56 [.RSI] .unknown .only64 [.default64],
   bare "Push_R14" .b 0x56 [.R14] .unknown .only64 [.default64],
   bare "Push_DI" .o16NoB 0x57 [.DI],
   bare "Push_R15W" .o16B 0x57 [.R15W] .unknown .only64,
   bare "Push_EDI" .o32NoB 0x57 [.EDI] .unknown .not64,
   bare "Push_RDI" .noB 0x57 [.RDI] .unknown .only64 [.default64],
   bare "Push_R15" .b 0x57 [.R15] .unknown .only64 [.default64],
   bare "Pop_AX" .o16NoB 0x58 [.AX],
   bare "Pop_R8W" .o16B 0x58 [.R8W] .unknown .only64,
   bare "Pop_EAX" .o32NoB 0x58 [.EAX] .unknown .not64,
   bare "Pop_RAX" .noB 0x58 [.RAX] .unknown .only64 [.default64],
   bare "Pop_R8" .b 0x58 [.R8] .unknown .only64 [.default64],
   bare "Pop_CX" .o16NoB 0x59 [.CX],
   bare "Pop_R9W" .o16B 0x59 [.R9W] .unknown .only64,
   bare "Pop_ECX" .o32NoB 0x59 [.ECX] .unknown .not64,
   bare "Pop_RCX" .noB 0x59 [.RCX] .unknown .only64 [.default64],
   bare "Pop_R9" .b 0x59 [.R9] .unknown .only64 [.default64],
   bare "Pop_DX" .o16NoB 0x5a [.DX],
   bare "Pop_R10W" .o16B 0x5a [.R10W] .unknown .only64,
   bare "Pop_EDX" .o32NoB 0x5a [.EDX] .unknown .not64,
   bare "Pop_RDX" .noB 0x5a [.RDX] .unknown .only64 [.default64],
   bare "Pop_R10" .b 0x5a [.R10] .unknown .only64 [.default64],
   bare "Pop_BX" .o16NoB 0x5b [.BX],
   bare "Pop_R11W" .o16B 0x5b [.R11W] .unknown .only64,
   bare "Pop_EBX" .o32NoB 0x5b [.EBX] .unknown .not64,
   bare "Pop_RBX" .noB 0x5b [.RBX] .unknown .only64 [.default64],
   bare "Pop_R11" .b 0x5b [.R11] .unknown .only64 [.default64],
   bare "Pop_SP" .o16NoB 0x5c [.SP],
   bare "Pop_R12W" .o16B 0x5c [.R12W] .unknown .only64,
   bare "Pop_ESP" .o32NoB 0x5c [.ESP] .unknown .not64,
   bare "Pop_RSP" .noB 0x5c [.RSP] .unknown .only64 [.default64],
   bare "Pop_R12" .b 0x5c [.R12] .unknown .only64 [.default64],
   bare "Pop_BP" .o16NoB 0x5d [.BP],
   bare "Pop_R13W" .o16B 0x5d [.R13W] .unknown .only64,
   bare "Pop_EBP" .o32NoB 0x5d [.EBP] .unknown .not64,
   bare "Pop_RBP" .noB 0x5d [.RBP] .unknown .only64 [.default64],
   bare "Pop_R13" .b 0x5d [.R13] .unknown .only64 [.default64],
   bare "Pop_SI" .o16NoB 0x5e [.SI],
   bare "Pop_R14W" .o16B 0x5e [.R14W] .unknown .only64,
   bare "Pop_ESI" .o32NoB 0x5e [.ESI] .unknown .not64,
   bare "Pop_RSI" .noB 0x5e [.RSI] .unknown .only64 [.default64],
   bare "Pop_R14" .b 0x5e [.R14] .unknown .only64 [.default64],
   bare "Pop_DI" .o16NoB 0x5f [.DI],
   bare "Pop_R15W" .o16B 0x5f [.R15W] .unknown .only64,
   bare "Pop_EDI" .o32NoB 0x5f [.EDI] .unknown .not64,
   bare "Pop_RDI" .noB 0x5f [.RDI] .unknown .only64 [.default64],
   bare "Pop_R15" .b 0x5f [.R15] .unknown .only64 [.default64]]

/-- Opcodes 60 to 6F of the one-byte map. -/
def primary60 : List Entry := rows .primary
  [bare "Pushaw" .o16 0x60 [] .unknown .not64,
   bare "Pushad" .o32 0x60 [] .unknown .not64,
   bare "Popaw" .o16 0x61 [] .unknown .not64,
   bare "Popad" .o32 0x61 [] .unknown .not64,
   legacy "Bound_Gw_Mw2" .o16 0x62 [.Gw, .Mw2] .bound16WordWord .not64 mem,
   legacy "Bound_Gd_Md2" .o32 0x62 [.Gd, .Md2] .bound32DwordDword .not64 mem,
   legacy "Movsxd_Gq_Ed" .o64 0x63 [.Gq, .Ed] .uint32 .only64,
   legacy "Arpl_Ew_Gw" .free 0x63 [.Ew, .Gw] .uint16 .not64,
   legacy "Movsxd_Gw_Ew" .o16 0x63 [.Gw, .Ew] .uint16 .only64,
   legacy "Movsxd_Gd_Ed" .o32 0x63 [.Gd, .Ed] .uint32 .only64,
   bare "Push_Id64" .o64 0x68 [.Id64] .unknown .only64 [.default64],
   bare "Push_Iw" .o16 0x68 [.Iw],
   bare "Push_Id" .o32 0x68 [.Id] .unknown .not64,
   legacy "Imul_Gq_Eq_Id64" .o64 0x69 [.Gq, .Eq, .Id64] .uint64 .only64,
   legacy "Imul_Gw_Ew_Iw" .o16 0x69 [.Gw, .Ew, .Iw] .uint16,
   legacy "Imul_Gd_Ed_Id" .o32 0x69 [.Gd, .Ed, .Id] .uint32,
   bare "Push_Ib64" .o64 0x6a [.Ib64] .unknown .only64 [.default64],
   bare "Push_Ib16" .o16 0x6a [.Ib16],
   bare "Push_Ib32" .o32 0x6a [.Ib32] .unknown .not64,
   legacy "Imul_Gq_Eq_Ib64" .o64 0x6b [.Gq, .Eq, .Ib64] .uint64 .only64,
   legacy "Imul_Gw_Ew_Ib16" .o16 0x6b [.Gw, .Ew, .Ib16] .uint16,
   legacy "Imul_Gd_Ed_Ib32" .o32 0x6b [.Gd, .Ed, .Ib32] .uint32,
   bare "Insb_Yb_DX" .free 0x6c [.Yb, .DX] .uint8,
   bare "Insw_Yw_DX" .o16 0x6d [.Yw, .DX] .uint16,
   bare "Insd_Yd_DX" .o32 0x6d [.Yd, .DX] .uint32,
   bare "Outsb_DX_Xb" .free 0x6e [.DX, .Xb] .uint8,
   bare "Outsw_DX_Xw" .o16 0x6f [.DX, .Xw] .uint16,
   bare "Outsd_DX_Xd" .o32 0x6f [.DX, .Xd] .uint32]

/-- Opcodes 70 to 7F of the one-byte map. -/
def primary70 : List Entry := rows .primary
  [bare "Jo_Jb16" .o16 0x70 [.Jb16] .unknown .not64,
   bare "Jo_Jb32" .o32 0x70 [.Jb32] .unknown .not64,
   bare "Jo_Jb64" .free 0x70 [.Jb64] .unknown .only64 [.force64],
   bare "Jno_Jb16" .o16 0x71 [.Jb16] .unknown .not64,
   bare "Jno_Jb32" .o32 0x71 [.Jb32] .unknown .not64,
   bare "Jno_Jb64" .free 0x71 [.Jb64] .unknown .only64 [.force64],
   bare "Jb_Jb16" .o16 0x72 [.Jb16] .unknown .not64,
   bare "Jb_Jb32" .o32 0x72 [.Jb32] .unknown .not64,
   bare "Jb_Jb64" .free 0x72 [.Jb64] .unknown .only64 [.force64],
   bare "Jae_Jb16" .o16 0x73 [.Jb16] .unknown .not64,
   bare "Jae_Jb32" .o32 0x73 [.Jb32] .unknown .not64,
   bare "Jae_Jb64" .free 0x73 [.Jb64] .unknown .only64 [.force64],
   bare "Je_Jb16" .o16 0x74 [.Jb16] .unknown .not64,
   bare "Je_Jb32" .o32 0x74 [.Jb32] .unknown .not64,
   bare "Je_Jb64" .free 0x74 [.Jb64] .unknown .only64 [.force64],
   bare "Jne_Jb16" .o16 0x75 [.Jb16] .unknown .not64,
   bare "Jne_Jb32" .o32 0x75 [.Jb32] .unknown .not64,
   bare "Jne_Jb64" .free 0x75 [.Jb64] .unknown .only64 [.force64],
   bare "Jbe_Jb16" .o16 0x76 [.Jb16] .unknown .not64,
   bare "Jbe_Jb32" .o32 0x76 [.Jb32] .unknown .not64,
   bare "Jbe_Jb64" .free 0x76 [.Jb64] .unknown .only64 [.force64],
   bare "Ja_Jb16" .o16 0x77 [.Jb16] .unknown .not64,
   bare "Ja_Jb32" .o32 0x77 [.Jb32] .unknown .not64,
   bare "Ja_Jb64" .free 0x77 [.Jb64] .unknown .only64 [.force64],
   bare "Js_Jb16" .o16 0x78 [.Jb16] .unknown .not64,
   bare "Js_Jb32" .o32 0x78 [.Jb32] .unknown .not64,
   bare "Js_Jb64" .free 0x78 [.Jb64] .unknown .only64 [.force64],
   bare "Jns_Jb16" .o16 0x79 [.Jb16] .unknown .not64,
   bare "Jns_Jb32" .o32 0x79 [.Jb32] .unknown .not64,
   bare "Jns_Jb64" .free 0x79 [.Jb64] .unknown .only64 [.force64],
   bare "Jp_Jb16" .o16 0x7a [.Jb16] .unknown .not64,
   bare "Jp_Jb32" .o32 0x7a [.Jb32] .unknown .not64,
   bare "Jp_Jb64" .free 0x7a [.Jb64] .unknown .only64 [.force64],
   bare "Jnp_Jb16" .o16 0x7b [.Jb16] .unknown .not64,
   bare "Jnp_Jb32" .o32 0x7b [.Jb32] .unknown .not64,
   bare "Jnp_Jb64" .free 0x7b [.Jb64] .unknown .only64 [.force64],
   bare "Jl_Jb16" .o16 0x7c [.Jb16] .unknown .not64,
   bare "Jl_Jb32" .o32 0x7c [.Jb32] .unknown .not64,
   bare "Jl_Jb64" .free 0x7c [.Jb64] .unknown .only64 [.force64],
   bare "Jge_Jb16" .o16 0x7d [.Jb16] .unknown .not64,
   bare "Jge_Jb32" .o32 0x7d [.Jb32] .unknown .not64,
   bare "Jge_Jb64" .free 0x7d [.Jb64] .unknown .only64 [.force64],
   bare "Jle_Jb16" .o16 0x7e [.Jb16] .unknown .not64,
   bare "Jle_Jb32" .o32 0x7e [.Jb32] .unknown .not64,
   bare "Jle_Jb64" .free 0x7e [.Jb64] .unknown .only64 [.force64],
   bare "Jg_Jb16" .o16 0x7f [.Jb16] .unknown .not64,
   bare "Jg_Jb32" .o32 0x7f [.Jb32] .unknown .not64,
   bare "Jg_Jb64" .free 0x7f [.Jb64] .unknown .only64 [.force64]]

end X86Decoder.Table
