import X86Decoder.Form.Entry
import X86Decoder.Form.Vocabulary

/-!
# Opcodes 80 to AF of the one-byte map
-/

namespace X86Decoder.Table

open Entry

/-- Opcodes 80 to 8F of the one-byte map. -/
def primary80 : List Entry := rows .primary
  [group "Add_Eb_Ib" .free 0x80 (.reg 0) [.Eb, .Ib] .uint8,
   group "Or_Eb_Ib" .free 0x80 (.reg 1) [.Eb, .Ib] .uint8,
   group "Adc_Eb_Ib" .free 0x80 (.reg 2) [.Eb, .Ib] .uint8,
   group "Sbb_Eb_Ib" .free 0x80 (.reg 3) [.Eb, .Ib] .uint8,
   group "And_Eb_Ib" .free 0x80 (.reg 4) [.Eb, .Ib] .uint8,
   group "Sub_Eb_Ib" .free 0x80 (.reg 5) [.Eb, .Ib] .uint8,
   group "Xor_Eb_Ib" .free 0x80 (.reg 6) [.Eb, .Ib] .uint8,
   group "Cmp_Eb_Ib" .free 0x80 (.reg 7) [.Eb, .Ib] .uint8,
   group "Add_Eq_Id64" .o64 0x81 (.reg 0) [.Eq, .Id64] .uint64 .only64,
   group "Add_Ew_Iw" .o16 0x81 (.reg 0) [.Ew, .Iw] .uint16,
   group "Add_Ed_Id" .o32 0x81 (.reg 0) [.Ed, .Id] .uint32,
   group "Or_Eq_Id64" .o64 0x81 (.reg 1) [.Eq, .Id64] .uint64 .only64,
   group "Or_Ew_Iw" .o16 0x81 (.reg 1) [.Ew, .Iw] .uint16,
   group "Or_Ed_Id" .o32 0x81 (.reg 1) [.Ed, .Id] .uint32,
   group "Adc_Eq_Id64" .o64 0x81 (.reg 2) [.Eq, .Id64] .uint64 .only64,
   group "Adc_Ew_Iw" .o16 0x81 (.reg 2) [.Ew, .Iw] .uint16,
   group "Adc_Ed_Id" .o32 0x81 (.reg 2) [.Ed, .Id] .uint32,
   group "Sbb_Eq_Id64" .o64 0x81 (.reg 3) [.Eq, .Id64] .uint64 .only64,
   group "Sbb_Ew_Iw" .o16 0x81 (.reg 3) [.Ew, .Iw] .uint16,
   group "Sbb_Ed_Id" .o32 0x81 (.reg 3) [.Ed, .Id] .uint32,
   group "And_Eq_Id64" .o64 0x81 (.reg 4) [.Eq, .Id64] .uint64 .only64,
   group "And_Ew_Iw" .o16 0x81 (.reg 4) [.Ew, .Iw] .uint16,
   group "And_Ed_Id" .o32 0x81 (.reg 4) [.Ed, .Id] .uint32,
   group "Sub_Eq_Id64" .o64 0x81 (.reg 5) [.Eq, .Id64] .uint64 .only64,
   group "Sub_Ew_Iw" .o16 0x81 (.reg 5) [.Ew, .Iw] .uint16,
   group "Sub_Ed_Id" .o32 0x81 (.reg 5) [.Ed, .Id] .uint32,
   group "Xor_Eq_Id64" .o64 0x81 (.reg 6) [.Eq, .Id64] .uint64 .only64,
   group "Xor_Ew_Iw" .o16 0x81 (.reg 6) [.Ew, .Iw] .uint16,
   group "Xor_Ed_Id" .o32 0x81 (.reg 6) [.Ed, .Id] .uint32,
   group "Cmp_Eq_Id64" .o64 0x81 (.reg 7) [.Eq, .Id64] .uint64 .only64,
   group "Cmp_Ew_Iw" .o16 0x81 (.reg 7) [.Ew, .Iw] .uint16,
   group "Cmp_Ed_Id" .o32 0x81 (.reg 7) [.Ed, .Id] .uint32,
   group "Add_Eq_Ib64" .o64 0x83 (.reg 0) [.Eq, .Ib64] .uint64 .only64,
   group "Add_Ew_Ib16" .o16 0x83 (.reg 0) [.Ew, .Ib16] .uint16,
   group "Add_Ed_Ib32" .o32 0x83 (.reg 0) [.Ed, .Ib32] .uint32,
   group "Or_Eq_Ib64" .o64 0x83 (.reg 1) [.Eq, .Ib64] .uint64 .only64,
   group "Or_Ew_Ib16" .o16 0x83 (.reg 1) [.Ew, .Ib16] .uint16,
   group "Or_Ed_Ib32" .o32 0x83 (.reg 1) [.Ed, .Ib32] .uint32,
   group "Adc_Eq_Ib64" .o64 0x83 (.reg 2) [.Eq, .Ib64] .uint64 .only64,
   group "Adc_Ew_Ib16" .o16 0x83 (.reg 2) [.Ew, .Ib16] .uint16,
   group "Adc_Ed_Ib32" .o32 0x83 (.reg 2) [.Ed, .Ib32] .uint32,
   group "Sbb_Eq_Ib64" .o64 0x83 (.reg 3) [.Eq, .Ib64] .uint64 .only64,
   group "Sbb_Ew_Ib16" .o16 0x83 (.reg 3) [.Ew, .Ib16] .uint16,
   group "Sbb_Ed_Ib32" .o32 0x83 (.reg 3) [.Ed, .Ib32] .uint32,
   group "And_Eq_Ib64" .o64 0x83 (.reg 4) [.Eq, .Ib64] .uint64 .only64,
   group "And_Ew_Ib16" .o16 0x83 (.reg 4) [.Ew, .Ib16] .uint16,
   group "And_Ed_Ib32" .o32 0x83 (.reg 4) [.Ed, .Ib32] .uint32,
   group "Sub_Eq_Ib64" .o64 0x83 (.reg 5) [.Eq, .Ib64] .uint64 .only64,
   group "Sub_Ew_Ib16" .o16 0x83 (.reg 5) [.Ew, .Ib16] .uint16,
   group "Sub_Ed_Ib32" .o32 0x83 (.reg 5) [.Ed, .Ib32] .uint32,
   group "Xor_Eq_Ib64" .o64 0x83 (.reg 6) [.Eq, .Ib64] .uint64 .only64,
   group "Xor_Ew_Ib16" .o16 0x83 (.reg 6) [.Ew, .Ib16] .uint16,
   group "Xor_Ed_Ib32" .o32 0x83 (.reg 6) [.Ed, .Ib32] .uint32,
   group "Cmp_Eq_Ib64" .o64 0x83 (.reg 7) [.Eq, .Ib64] .uint64 .only64,
   group "Cmp_Ew_Ib16" .o16 0x83 (.reg 7) [.Ew, .Ib16] .uint16,
   group "Cmp_Ed_Ib32" .o32 0x83 (.reg 7) [.Ed, .Ib32] .uint32,
   legacy "Test_Eb_Gb" .free 0x84 [.Eb, .Gb] .uint8,
   legacy "Test_Eq_Gq" .o64 0x85 [.Eq, .Gq] .uint64 .only64,
   legacy "Test_Ew_Gw" .o16 0x85 [.Ew, .Gw] .uint16,
   legacy "Test_Ed_Gd" .o32 0x85 [.Ed, .Gd] .uint32,
   legacy "Xchg_Eb_Gb" .free 0x86 [.Eb, .Gb] .uint8,
   legacy "Xchg_Eq_Gq" .o64 0x87 [.Eq, .Gq] .uint64 .only64,
   legacy "Xchg_Ew_Gw" .o16 0x87 [.Ew, .Gw] .uint16,
   legacy "Xchg_Ed_Gd" .o32 0x87 [.Ed, .Gd] .uint32,
   legacy "Mov_Eb_Gb" .free 0x88 [.Eb, .Gb] .uint8,
   legacy "Mov_Eq_Gq" .o64 0x89 [.Eq, .Gq] .uint64 .only64,
   legacy "Mov_Ew_Gw" .o16 0x89 [.Ew, .Gw] .uint16,
   legacy "Mov_Ed_Gd" .o32 0x89 [.Ed, .Gd] .uint32,
   legacy "Mov_Gb_Eb" .free 0x8a [.Gb, .Eb] .uint8,
   legacy "Mov_Gq_Eq" .o64 0x8b [.Gq, .Eq] .uint64 .only64,
   legacy "Mov_Gw_Ew" .o16 0x8b [.Gw, .Ew] .uint16,
   legacy "Mov_Gd_Ed" .o32 0x8b [.Gd, .Ed] .uint32,
   legacy "Mov_Eq_Sw" .o64 0x8c [.Eq, .Sw] .uint64 .only64,
   legacy "Mov_Ew_Sw" .o16 0x8c [.Ew, .Sw] .uint16,
   legacy "Mov_Ed_Sw" .o32 0x8c [.Ed, .Sw] .uint32,
   legacy "Lea_Gq_M" .o64 0x8d [.Gq, .M] .unknown .only64 mem,
   legacy "Lea_Gw_M" .o16 0x8d [.Gw, .M] .unknown .all mem,
   legacy "Lea_Gd_M" .o32 0x8d [.Gd, .M] .unknown .all mem,
   legacy "Mov_Sw_Eq" .o64 0x8e [.Sw, .Eq] .uint64 .only64,
   legacy "Mov_Sw_Ew" .o16 0x8e [.Sw, .Ew] .uint16,
   legacy "Mov_Sw_Ed" .o32 0x8e [.Sw, .Ed] .uint32,
   group "Pop_Eq" .o64 0x8f (.reg 0) [.Eq] .uint64 .only64 [.default64],
   group "Pop_Ew" .o16 0x8f (.reg 0) [.Ew] .uint16,
   group "Pop_Ed" .o32 0x8f (.reg 0) [.Ed] .uint32 .not64]

/-- Opcodes 90 to 9F of the one-byte map. -/
def primary90 : List Entry := rows .primary
  [bare "Pause" { mandatory := .pF3, rexB := .clear } 0x90 [],
   bare "Nopq" .o64NoB 0x90 [] .unknown .only64,
   bare "Xchg_R8_RAX" .o64B 0x90 [.R8, .RAX] .unknown .only64,
   bare "Nopw" .o16NoB 0x90 [],
   bare "Xchg_R8W_AX" .o16B 0x90 [.R8W, .AX] .unknown .only64,
   bare "Nopd" .o32NoB 0x90 [],
   bare "Xchg_R8D_EAX" .o32B 0x90 [.R8D, .EAX] .unknown .only64,
   bare "Xchg_RCX_RAX" .o64NoB 0x91 [.RCX, .RAX] .unknown .only64,
   bare "Xchg_R9_RAX" .o64B 0x91 [.R9, .RAX] .unknown .only64,
   bare "Xchg_CX_AX" .o16NoB 0x91 [.CX, .AX],
   bare "Xchg_R9W_AX" .o16B 0x91 [.R9W, .AX] .unknown .only64,
   bare "Xchg_ECX_EAX" .o32NoB 0x91 [.ECX, .EAX],
   bare "Xchg_R9D_EAX" .o32B 0x91 [.R9D, .EAX] .unknown .only64,
   bare "Xchg_RDX_RAX" .o64NoB 0x92 [.RDX, .RAX] .unknown .only64,
   bare "Xchg_R10_RAX" .o64B 0x92 [.R10, .RAX] .unknown .only64,
   bare "Xchg_DX_AX" .o16NoB 0x92 [.DX, .AX],
   bare "Xchg_R10W_AX" .o16B 0x92 [.R10W, .AX] .unknown .only64,
   bare "Xchg_EDX_EAX" .o32NoB 0x92 [.EDX, .EAX],
   bare "Xchg_R10D_EAX" .o32B 0x92 [.R10D, .EAX] .unknown .only64,
   bare "Xchg_RBX_RAX" .o64NoB 0x93 [.RBX, .RAX] .unknown .only64,
   bare "Xchg_R11_RAX" .o64B 0x93 [.R11, .RAX] .unknown .only64,
   bare "Xchg_BX_AX" .o16NoB 0x93 [.BX, .AX],
   bare "Xchg_R11W_AX" .o16B 0x93 [.R11W, .AX] .unknown .only64,
   bare "Xchg_EBX_EAX" .o32NoB 0x93 [.EBX, .EAX],
   bare "Xchg_R11D_EAX" .o32B 0x93 [.R11D, .EAX] .unknown .only64,
   bare "Xchg_RSP_RAX" .o64NoB 0x94 [.RSP, .RAX] .unknown .only64,
   bare "Xchg_R12_RAX" .o64B 0x94 [.R12, .RAX] .unknown .only64,
   bare "Xchg_SP_AX" .o16NoB 0x94 [.SP, .AX],
   bare "Xchg_R12W_AX" .o16B 0x94 [.R12W, .AX] .unknown .only64,
   bare "Xchg_ESP_EAX" .o32NoB 0x94 [.ESP, .EAX],
   bare "Xchg_R12D_EAX" .o32B 0x94 [.R12D, .EAX] .unknown .only64,
   bare "Xchg_RBP_RAX" .o64NoB 0x95 [.RBP, .RAX] .unknown .only64,
   bare "Xchg_R13_RAX" .o64B 0x95 [.R13, .RAX] .unknown .only64,
   bare "Xchg_BP_AX" .o16NoB 0x95 [.BP, .AX],
   bare "Xchg_R13W_AX" .o16B 0x95 [.R13W, .AX] .unknown .only64,
   bare "Xchg_EBP_EAX" .o32NoB 0x95 [.EBP, .EAX],
   bare "Xchg_R13D_EAX" .o32B 0x95 [.R13D, .EAX] .unknown .only64,
   bare "Xchg_RSI_RAX" .o64NoB 0x96 [.RSI, .RAX] .unknown .only64,
   bare "Xchg_R14_RAX" .o64B 0x96 [.R14, .RAX] .unknown .only64,
   bare "Xchg_SI_AX" .o16NoB 0x96 [.SI, .AX],
   bare "Xchg_R14W_AX" .o16B 0x96 [.R14W, .AX] .unknown .only64,
   bare "Xchg_ESI_EAX" .o32NoB 0x96 [.ESI, .EAX],
   bare "Xchg_R14D_EAX" .o32B 0x96 [.R14D, .EAX] .unknown .only64,
   bare "Xchg_RDI_RAX" .o64NoB 0x97 [.RDI, .RAX] .unknown .only64,
   bare "Xchg_R15_RAX" .o64B 0x97 [.R15, .RAX] .unknown .only64,
   bare "Xchg_DI_AX" .o16NoB 0x97 [.DI, .AX],
   bare "Xchg_R15W_AX" .o16B 0x97 [.R15W, .AX] .unknown .only64,
   bare "Xchg_EDI_EAX" .o32NoB 0x97 [.EDI, .EAX],
   bare "Xchg_R15D_EAX" .o32B 0x97 [.R15D, .EAX] .unknown .only64,
   bare "Cdqe" .o64 0x98 [] .unknown .only64,
   bare "Cbw" .o16 0x98 [],
   bare "Cwde" .o32 0x98 [],
   bare "Cqo" .o64 0x99 [] .unknown .only64,
   bare "Cwd" .o16 0x99 [],
   bare "Cdq" .o32 0x99 [],
   bare "Call_Aww" .o16 0x9a [.Aww] .unknown .not64,
   bare "Call_Adw" .o32 0x9a [.Adw] .unknown .not64,
   bare "Wait" .free 0x9b [],
   bare "Pushfw" .o16 0x9c [],
   bare "Pushfd" .o32 0x9c [] .unknown .not64,
   bare "Pushfq" .free 0x9c [] .unknown .only64 [.default64],
   bare "Popfw" .o16 0x9d [],
   bare "Popfd" .o32 0x9d [] .unknown .not64,
   bare "Popfq" .free 0x9d [] .unknown .only64 [.default64],
   bare "Sahf" .free 0x9e [],
   bare "Lahf" .free 0x9f []]

/-- Opcodes A0 to AF of the one-byte map. -/
def primaryA0 : List Entry := rows .primary
  [bare "Mov_AL_Ob" .free 0xa0 [.AL, .Ob] .uint8,
   bare "Mov_RAX_Oq" .o64 0xa1 [.RAX, .Oq] .uint64 .only64,
   bare "Mov_AX_Ow" .o16 0xa1 [.AX, .Ow] .uint16,
   bare "Mov_EAX_Od" .o32 0xa1 [.EAX, .Od] .uint32,
   bare "Mov_Ob_AL" .free 0xa2 [.Ob, .AL] .uint8,
   bare "Mov_Oq_RAX" .o64 0xa3 [.Oq, .RAX] .uint64 .only64,
   bare "Mov_Ow_AX" .o16 0xa3 [.Ow, .AX] .uint16,
   bare "Mov_Od_EAX" .o32 0xa3 [.Od, .EAX] .uint32,
   bare "Movsb_Yb_Xb" .free 0xa4 [.Yb, .Xb] .uint8,
   bare "Movsq_Yq_Xq" .o64 0xa5 [.Yq, .Xq] .uint64 .only64,
   bare "Movsw_Yw_Xw" .o16 0xa5 [.Yw, .Xw] .uint16,
   bare "Movsd_Yd_Xd" .o32 0xa5 [.Yd, .Xd] .uint32,
   bare "Cmpsb_Xb_Yb" .free 0xa6 [.Xb, .Yb] .uint8,
   bare "Cmpsq_Xq_Yq" .o64 0xa7 [.Xq, .Yq] .uint64 .only64,
   bare "Cmpsw_Xw_Yw" .o16 0xa7 [.Xw, .Yw] .uint16,
   bare "Cmpsd_Xd_Yd" .o32 0xa7 [.Xd, .Yd] .uint32,
   bare "Test_AL_Ib" .free 0xa8 [.AL, .Ib],
   bare "Test_RAX_Id64" .o64 0xa9 [.RAX, .Id64] .unknown .only64,
   bare "Test_AX_Iw" .o16 0xa9 [.AX, .Iw],
   bare "Test_EAX_Id" .o32 0xa9 [.EAX, .Id],
   bare "Stosb_Yb_AL" .free 0xaa [.Yb, .AL] .uint8,
   bare "Stosq_Yq_RAX" .o64 0xab [.Yq, .RAX] .uint64 .only64,
   bare "Stosw_Yw_AX" .o16 0xab [.Yw, .AX] .uint16,
   bare "Stosd_Yd_EAX" .o32 0xab [.Yd, .EAX] .uint32,
   bare "Lodsb_AL_Xb" .free 0xac [.AL, .Xb] .uint8,
   bare "Lodsq_RAX_Xq" .o64 0xad [.RAX, .Xq] .uint64 .only64,
   bare "Lodsw_AX_Xw" .o16 0xad [.AX, .Xw] .uint16,
   bare "Lodsd_EAX_Xd" .o32 0xad [.EAX, .Xd] .uint32,
   bare "Scasb_AL_Yb" .free 0xae [.AL, .Yb] .uint8,
   bare "Scasq_RAX_Yq" .o64 0xaf [.RAX, .Yq] .uint64 .only64,
   bare "Scasw_AX_Yw" .o16 0xaf [.AX, .Yw] .uint16,
   bare "Scasd_EAX_Yd" .o32 0xaf [.EAX, .Yd] .uint32]

end X86Decoder.Table
