import X86Decoder.Form.Entry
import X86Decoder.Form.Vocabulary

/-!
# Opcodes E0 to FF of the one-byte map
-/

namespace X86Decoder.Table

open Entry

/-- Opcodes E0 to EF of the one-byte map. -/
def primaryE0 : List Entry := rows .primary
  [bare "Loopne_Jb16_CX" { addressSize := some .w16, operandSize := some .w16 } 0xe0 [.Jb16]
     .unknown .not64,
   bare "Loopne_Jb32_CX" { addressSize := some .w16, operandSize := some .w32 } 0xe0 [.Jb32]
     .unknown .not64,
   bare "Loopne_Jb16_ECX" { addressSize := some .w32, operandSize := some .w16 } 0xe0 [.Jb16]
     .unknown .not64,
   bare "Loopne_Jb32_ECX" { addressSize := some .w32, operandSize := some .w32 } 0xe0 [.Jb32]
     .unknown .not64,
   bare "Loopne_Jb64_ECX" { addressSize := some .w32 } 0xe0 [.Jb64] .unknown .only64 [.force64],
   bare "Loopne_Jb64_RCX" .free 0xe0 [.Jb64] .unknown .only64 [.force64],
   bare "Loope_Jb16_CX" { addressSize := some .w16, operandSize := some .w16 } 0xe1 [.Jb16]
     .unknown .not64,
   bare "Loope_Jb32_CX" { addressSize := some .w16, operandSize := some .w32 } 0xe1 [.Jb32]
     .unknown .not64,
   bare "Loope_Jb16_ECX" { addressSize := some .w32, operandSize := some .w16 } 0xe1 [.Jb16]
     .unknown .not64,
   bare "Loope_Jb32_ECX" { addressSize := some .w32, operandSize := some .w32 } 0xe1 [.Jb32]
     .unknown .not64,
   bare "Loope_Jb64_ECX" { addressSize := some .w32 } 0xe1 [.Jb64] .unknown .only64 [.force64],
   bare "Loope_Jb64_RCX" .free 0xe1 [.Jb64] .unknown .only64 [.force64],
   bare "Loop_Jb16_CX" { addressSize := some .w16, operandSize := some .w16 } 0xe2 [.Jb16] .unknown
     .not64,
   bare "Loop_Jb32_CX" { addressSize := some .w16, operandSize := some .w32 } 0xe2 [.Jb32] .unknown
     .not64,
   bare "Loop_Jb16_ECX" { addressSize := some .w32, operandSize := some .w16 } 0xe2 [.Jb16]
     .unknown .not64,
   bare "Loop_Jb32_ECX" { addressSize := some .w32, operandSize := some .w32 } 0xe2 [.Jb32]
     .unknown .not64,
   bare "Loop_Jb64_ECX" { addressSize := some .w32 } 0xe2 [.Jb64] .unknown .only64 [.force64],
   bare "Loop_Jb64_RCX" .free 0xe2 [.Jb64] .unknown .only64 [.force64],
   bare "Jcxz_Jb16" { addressSize := some .w16, operandSize := some .w16 } 0xe3 [.Jb16] .unknown
     .not64,
   bare "Jcxz_Jb32" { addressSize := some .w16, operandSize := some .w32 } 0xe3 [.Jb32] .unknown
     .not64,
   bare "Jecxz_Jb16" { addressSize := some .w32, operandSize := some .w16 } 0xe3 [.Jb16] .unknown
     .not64,
   bare "Jecxz_Jb32" { addressSize := some .w32, operandSize := some .w32 } 0xe3 [.Jb32] .unknown
     .not64,
   bare "Jecxz_Jb64" { addressSize := some .w32 } 0xe3 [.Jb64] .unknown .only64 [.force64],
   bare "Jrcxz_Jb64" .free 0xe3 [.Jb64] .unknown .only64 [.force64],
   bare "In_AL_Ib" .free 0xe4 [.AL, .Ib],
   bare "In_AX_Ib" .o16 0xe5 [.AX, .Ib],
   bare "In_EAX_Ib" .o32 0xe5 [.EAX, .Ib],
   bare "Out_Ib_AL" .free 0xe6 [.Ib, .AL],
   bare "Out_Ib_AX" .o16 0xe7 [.Ib, .AX],
   bare "Out_Ib_EAX" .o32 0xe7 [.Ib, .EAX],
   bare "Call_Jw16" .o16 0xe8 [.Jw16] .unknown .not64,
   bare "Call_Jd32" .o32 0xe8 [.Jd32] .unknown .not64,
   bare "Call_Jd64" .free 0xe8 [.Jd64] .unknown .only64 [.force64],
   bare "Jmp_Jw16" .o16 0xe9 [.Jw16] .unknown .not64,
   bare "Jmp_Jd32" .o32 0xe9 [.Jd32] .unknown .not64,
   bare "Jmp_Jd64" .free 0xe9 [.Jd64] .unknown .only64 [.force64],
   bare "Jmp_Aww" .o16 0xea [.Aww] .unknown .not64,
   bare "Jmp_Adw" .o32 0xea [.Adw] .unknown .not64,
   bare "Jmp_Jb16" .o16 0xeb [.Jb16] .unknown .not64,
   bare "Jmp_Jb32" .o32 0xeb [.Jb32] .unknown .not64,
   bare "Jmp_Jb64" .free 0xeb [.Jb64] .unknown .only64 [.force64],
   bare "In_AL_DX" .free 0xec [.AL, .DX],
   bare "In_AX_DX" .o16 0xed [.AX, .DX],
   bare "In_EAX_DX" .o32 0xed [.EAX, .DX],
   bare "Out_DX_AL" .free 0xee [.DX, .AL],
   bare "Out_DX_AX" .o16 0xef [.DX, .AX],
   bare "Out_DX_EAX" .o32 0xef [.DX, .EAX]]

/-- Opcodes F0 to FF of the one-byte map. -/
def primaryF0 : List Entry := rows .primary
  [bare "Int1" .free 0xf1 [],
   bare "Hlt" .free 0xf4 [],
   bare "Cmc" .free 0xf5 [],
   group "Test_Eb_Ib" .free 0xf6 (.reg 0) [.Eb, .Ib] .uint8,
   group "Not_Eb" .free 0xf6 (.reg 2) [.Eb] .uint8,
   group "Neg_Eb" .free 0xf6 (.reg 3) [.Eb] .int8,
   group "Mul_Eb" .free 0xf6 (.reg 4) [.Eb] .uint8,
   group "Imul_Eb" .free 0xf6 (.reg 5) [.Eb] .int8,
   group "Div_Eb" .free 0xf6 (.reg 6) [.Eb] .uint8,
   group "Idiv_Eb" .free 0xf6 (.reg 7) [.Eb] .int8,
   group "Test_Eq_Id64" .o64 0xf7 (.reg 0) [.Eq, .Id64] .uint64 .only64,
   group "Test_Ew_Iw" .o16 0xf7 (.reg 0) [.Ew, .Iw] .uint16,
   group "Test_Ed_Id" .o32 0xf7 (.reg 0) [.Ed, .Id] .uint32,
   group "Not_Eq" .o64 0xf7 (.reg 2) [.Eq] .uint64 .only64,
   group "Not_Ew" .o16 0xf7 (.reg 2) [.Ew] .uint16,
   group "Not_Ed" .o32 0xf7 (.reg 2) [.Ed] .uint32,
   group "Neg_Eq" .o64 0xf7 (.reg 3) [.Eq] .uint64 .only64,
   group "Neg_Ew" .o16 0xf7 (.reg 3) [.Ew] .uint16,
   group "Neg_Ed" .o32 0xf7 (.reg 3) [.Ed] .uint32,
   group "Mul_Eq" .o64 0xf7 (.reg 4) [.Eq] .uint64 .only64,
   group "Mul_Ew" .o16 0xf7 (.reg 4) [.Ew] .uint16,
   group "Mul_Ed" .o32 0xf7 (.reg 4) [.Ed] .uint32,
   group "Imul_Eq" .o64 0xf7 (.reg 5) [.Eq] .uint64 .only64,
   group "Imul_Ew" .o16 0xf7 (.reg 5) [.Ew] .uint16,
   group "Imul_Ed" .o32 0xf7 (.reg 5) [.Ed] .uint32,
   group "Div_Eq" .o64 0xf7 (.reg 6) [.Eq] .uint64 .only64,
   group "Div_Ew" .o16 0xf7 (.reg 6) [.Ew] .uint16,
   group "Div_Ed" .o32 0xf7 (.reg 6) [.Ed] .uint32,
   group "Idiv_Eq" .o64 0xf7 (.reg 7) [.Eq] .uint64 .only64,
   group "Idiv_Ew" .o16 0xf7 (.reg 7) [.Ew] .uint16,
   group "Idiv_Ed" .o32 0xf7 (.reg 7) [.Ed] .uint32,
   bare "Clc" .free 0xf8 [],
   bare "Stc" .free 0xf9 [],
   bare "Cli" .free 0xfa [],
   bare "Sti" .free 0xfb [],
   bare "Cld" .free 0xfc [],
   bare "Std" .free 0xfd [],
   group "Inc_Eb" .free 0xfe (.reg 0) [.Eb] .uint8,
   group "Dec_Eb" .free 0xfe (.reg 1) [.Eb] .uint8,
   group "Inc_Eq" .o64 0xff (.reg 0) [.Eq] .uint64 .only64,
   group "Inc_Ew" .o16 0xff (.reg 0) [.Ew] .uint16,
   group "Inc_Ed" .o32 0xff (.reg 0) [.Ed] .uint32,
   group "Dec_Eq" .o64 0xff (.reg 1) [.Eq] .uint64 .only64,
   group "Dec_Ew" .o16 0xff (.reg 1) [.Ew] .uint16,
   group "Dec_Ed" .o32 0xff (.reg 1) [.Ed] .uint32,
   group "Call_Ew" .o16 0xff (.reg 2) [.Ew] .uint16 .not64,
   group "Call_Ed" .o32 0xff (.reg 2) [.Ed] .uint32 .not64,
   group "Call_Eq" .free 0xff (.reg 2) [.Eq] .uint64 .only64 [.force64],
   group "Call_Eqw" .o64 0xff (.reg 3) [.Eqw] .segPtr64 .only64 mem,
   group "Call_Eww" .o16 0xff (.reg 3) [.Eww] .segPtr16 .all mem,
   group "Call_Edw" .o32 0xff (.reg 3) [.Edw] .segPtr32 .all mem,
   group "Jmp_Ew" .o16 0xff (.reg 4) [.Ew] .uint16 .not64,
   group "Jmp_Ed" .o32 0xff (.reg 4) [.Ed] .uint32 .not64,
   group "Jmp_Eq" .free 0xff (.reg 4) [.Eq] .uint64 .only64 [.force64],
   group "Jmp_Eqw" .o64 0xff (.reg 5) [.Eqw] .segPtr64 .only64 mem,
   group "Jmp_Eww" .o16 0xff (.reg 5) [.Eww] .segPtr16 .all mem,
   group "Jmp_Edw" .o32 0xff (.reg 5) [.Edw] .segPtr32 .all mem,
   group "Push_Eq" .o64 0xff (.reg 6) [.Eq] .uint64 .only64 [.default64],
   group "Push_Ew" .o16 0xff (.reg 6) [.Ew] .uint16,
   group "Push_Ed" .o32 0xff (.reg 6) [.Ed] .uint32 .not64]

end X86Decoder.Table
