import X86Decoder.Form.Operand

/-!
# Operand vocabulary

The operands that forms are written with. A name follows the usual notation: the first letter is
where the operand is encoded and the rest is its width or register class. A name outside the
vocabulary is that of a register, which the instruction implies. Definitions keep the spelling of
the notation.
-/

namespace X86Decoder.FormOperand

/-! ### The reg field -/

def Gb : FormOperand := ⟨"Gb", .reg (.general .w8)⟩
def Gw : FormOperand := ⟨"Gw", .reg (.general .w16)⟩
def Gd : FormOperand := ⟨"Gd", .reg (.general .w32)⟩
def Gq : FormOperand := ⟨"Gq", .reg (.general .w64)⟩
def Sw : FormOperand := ⟨"Sw", .reg .segment⟩
def Cd : FormOperand := ⟨"Cd", .reg (.control .w32)⟩
def Cq : FormOperand := ⟨"Cq", .reg (.control .w64)⟩
def Dd : FormOperand := ⟨"Dd", .reg (.debug .w32)⟩
def Dq : FormOperand := ⟨"Dq", .reg (.debug .w64)⟩
def P : FormOperand := ⟨"P", .reg .mmx⟩
def VX : FormOperand := ⟨"VX", .reg .xmm⟩
def VY : FormOperand := ⟨"VY", .reg .ymm⟩
def VZ : FormOperand := ⟨"VZ", .reg .zmm⟩
def VK : FormOperand := ⟨"VK", .reg .opmask⟩

/-! ### The rm field, register or memory -/

def Eb : FormOperand := ⟨"Eb", .rm (.general .w8)⟩
def Ew : FormOperand := ⟨"Ew", .rm (.general .w16)⟩
def Ed : FormOperand := ⟨"Ed", .rm (.general .w32)⟩
def Eq : FormOperand := ⟨"Eq", .rm (.general .w64)⟩
def Q : FormOperand := ⟨"Q", .rm .mmx⟩
def WX : FormOperand := ⟨"WX", .rm .xmm⟩
def WY : FormOperand := ⟨"WY", .rm .ymm⟩
def WZ : FormOperand := ⟨"WZ", .rm .zmm⟩
def WK : FormOperand := ⟨"WK", .rm .opmask⟩
def RdMb : FormOperand := ⟨"RdMb", .rm (.general .w32)⟩
def RqMb : FormOperand := ⟨"RqMb", .rm (.general .w64)⟩
def RdMw : FormOperand := ⟨"RdMw", .rm (.general .w32)⟩
def RqMw : FormOperand := ⟨"RqMw", .rm (.general .w64)⟩

/-! ### The rm field, register only -/

def Rw : FormOperand := ⟨"Rw", .rmRegister (.general .w16)⟩
def Rd : FormOperand := ⟨"Rd", .rmRegister (.general .w32)⟩
def Rq : FormOperand := ⟨"Rq", .rmRegister (.general .w64)⟩
def N : FormOperand := ⟨"N", .rmRegister .mmx⟩
def RX : FormOperand := ⟨"RX", .rmRegister .xmm⟩
def RY : FormOperand := ⟨"RY", .rmRegister .ymm⟩
def RZ : FormOperand := ⟨"RZ", .rmRegister .zmm⟩
def RK : FormOperand := ⟨"RK", .rmRegister .opmask⟩
def STi : FormOperand := ⟨"STi", .rmRegister .x87⟩

/-! ### The rm field, memory only -/

def M : FormOperand := ⟨"M", .rmMemory⟩
def Mb : FormOperand := ⟨"Mb", .rmMemory⟩
def Mw : FormOperand := ⟨"Mw", .rmMemory⟩
def Md : FormOperand := ⟨"Md", .rmMemory⟩
def Mq : FormOperand := ⟨"Mq", .rmMemory⟩
def Mo : FormOperand := ⟨"Mo", .rmMemory⟩
def Mp : FormOperand := ⟨"Mp", .rmMemory⟩
def Ms : FormOperand := ⟨"Ms", .rmMemory⟩
def Mw2 : FormOperand := ⟨"Mw2", .rmMemory⟩
def Md2 : FormOperand := ⟨"Md2", .rmMemory⟩
def Mf32 : FormOperand := ⟨"Mf32", .rmMemory⟩
def Mf64 : FormOperand := ⟨"Mf64", .rmMemory⟩
def Mf80 : FormOperand := ⟨"Mf80", .rmMemory⟩
def Mfbcd : FormOperand := ⟨"Mfbcd", .rmMemory⟩
def Mfi16 : FormOperand := ⟨"Mfi16", .rmMemory⟩
def Mfi32 : FormOperand := ⟨"Mfi32", .rmMemory⟩
def Mfi64 : FormOperand := ⟨"Mfi64", .rmMemory⟩
def M14 : FormOperand := ⟨"M14", .rmMemory⟩
def M28 : FormOperand := ⟨"M28", .rmMemory⟩
def M98 : FormOperand := ⟨"M98", .rmMemory⟩
def M108 : FormOperand := ⟨"M108", .rmMemory⟩
def MK : FormOperand := ⟨"MK", .rmMemory⟩
def Eww : FormOperand := ⟨"Eww", .rmMemory⟩
def Edw : FormOperand := ⟨"Edw", .rmMemory⟩
def Eqw : FormOperand := ⟨"Eqw", .rmMemory⟩

/-! ### The vvvv field -/

def HX : FormOperand := ⟨"HX", .vvvv .xmm⟩
def HY : FormOperand := ⟨"HY", .vvvv .ymm⟩
def HZ : FormOperand := ⟨"HZ", .vvvv .zmm⟩
def HK : FormOperand := ⟨"HK", .vvvv .opmask⟩
def Hd : FormOperand := ⟨"Hd", .vvvv (.general .w32)⟩
def Hq : FormOperand := ⟨"Hq", .vvvv (.general .w64)⟩

/-! ### A register in an immediate -/

def Is4X : FormOperand := ⟨"Is4X", .is4 .xmm⟩
def Is4Y : FormOperand := ⟨"Is4Y", .is4 .ymm⟩

/-! ### Memory with a vector of indices -/

def VM32X : FormOperand := ⟨"VM32X", .vsib .xmm .w32⟩
def VM32Y : FormOperand := ⟨"VM32Y", .vsib .ymm .w32⟩
def VM32Z : FormOperand := ⟨"VM32Z", .vsib .zmm .w32⟩
def VM64X : FormOperand := ⟨"VM64X", .vsib .xmm .w64⟩
def VM64Y : FormOperand := ⟨"VM64Y", .vsib .ymm .w64⟩
def VM64Z : FormOperand := ⟨"VM64Z", .vsib .zmm .w64⟩

/-! ### Immediates -/

def One : FormOperand := ⟨"1", .one⟩
def Ib : FormOperand := ⟨"Ib", .immediate .byte⟩
def Ib16 : FormOperand := ⟨"Ib16", .immediate (.byteTo .w16)⟩
def Ib32 : FormOperand := ⟨"Ib32", .immediate (.byteTo .w32)⟩
def Ib64 : FormOperand := ⟨"Ib64", .immediate (.byteTo .w64)⟩
def Iw : FormOperand := ⟨"Iw", .immediate .word⟩
def Id : FormOperand := ⟨"Id", .immediate .dword⟩
def Id64 : FormOperand := ⟨"Id64", .immediate .dwordToQword⟩
def Iq : FormOperand := ⟨"Iq", .immediate .qword⟩

/-! ### Branches -/

def Jb16 : FormOperand := ⟨"Jb16", .relative .w8 .w16⟩
def Jb32 : FormOperand := ⟨"Jb32", .relative .w8 .w32⟩
def Jb64 : FormOperand := ⟨"Jb64", .relative .w8 .w64⟩
def Jw16 : FormOperand := ⟨"Jw16", .relative .w16 .w16⟩
def Jd32 : FormOperand := ⟨"Jd32", .relative .w32 .w32⟩
def Jd64 : FormOperand := ⟨"Jd64", .relative .w32 .w64⟩
def Aww : FormOperand := ⟨"Aww", .far false⟩
def Adw : FormOperand := ⟨"Adw", .far true⟩

/-! ### Memory offsets and string operands -/

def Ob : FormOperand := ⟨"Ob", .moffs .w8⟩
def Xb : FormOperand := ⟨"Xb", .stringSource .w8⟩
def Yb : FormOperand := ⟨"Yb", .stringDestination .w8⟩
def Ow : FormOperand := ⟨"Ow", .moffs .w16⟩
def Xw : FormOperand := ⟨"Xw", .stringSource .w16⟩
def Yw : FormOperand := ⟨"Yw", .stringDestination .w16⟩
def Od : FormOperand := ⟨"Od", .moffs .w32⟩
def Xd : FormOperand := ⟨"Xd", .stringSource .w32⟩
def Yd : FormOperand := ⟨"Yd", .stringDestination .w32⟩
def Oq : FormOperand := ⟨"Oq", .moffs .w64⟩
def Xq : FormOperand := ⟨"Xq", .stringSource .w64⟩
def Yq : FormOperand := ⟨"Yq", .stringDestination .w64⟩
def rDI : FormOperand := ⟨"rDI", .maskDestination⟩

/-- A byte that follows another immediate. -/
def IbSecond : FormOperand := ⟨"Ib", .immediate .secondByte⟩

/-! ### Registers that instructions imply -/

def AL : FormOperand := ⟨"AL", .implicit ⟨1⟩⟩
def CL : FormOperand := ⟨"CL", .implicit ⟨2⟩⟩
def DL : FormOperand := ⟨"DL", .implicit ⟨3⟩⟩
def BL : FormOperand := ⟨"BL", .implicit ⟨4⟩⟩
def AH : FormOperand := ⟨"AH", .implicit ⟨5⟩⟩
def CH : FormOperand := ⟨"CH", .implicit ⟨6⟩⟩
def DH : FormOperand := ⟨"DH", .implicit ⟨7⟩⟩
def BH : FormOperand := ⟨"BH", .implicit ⟨8⟩⟩
def SPL : FormOperand := ⟨"SPL", .implicit ⟨9⟩⟩
def BPL : FormOperand := ⟨"BPL", .implicit ⟨10⟩⟩
def SIL : FormOperand := ⟨"SIL", .implicit ⟨11⟩⟩
def DIL : FormOperand := ⟨"DIL", .implicit ⟨12⟩⟩
def R8L : FormOperand := ⟨"R8L", .implicit ⟨13⟩⟩
def R9L : FormOperand := ⟨"R9L", .implicit ⟨14⟩⟩
def R10L : FormOperand := ⟨"R10L", .implicit ⟨15⟩⟩
def R11L : FormOperand := ⟨"R11L", .implicit ⟨16⟩⟩
def R12L : FormOperand := ⟨"R12L", .implicit ⟨17⟩⟩
def R13L : FormOperand := ⟨"R13L", .implicit ⟨18⟩⟩
def R14L : FormOperand := ⟨"R14L", .implicit ⟨19⟩⟩
def R15L : FormOperand := ⟨"R15L", .implicit ⟨20⟩⟩
def AX : FormOperand := ⟨"AX", .implicit ⟨21⟩⟩
def CX : FormOperand := ⟨"CX", .implicit ⟨22⟩⟩
def DX : FormOperand := ⟨"DX", .implicit ⟨23⟩⟩
def BX : FormOperand := ⟨"BX", .implicit ⟨24⟩⟩
def SP : FormOperand := ⟨"SP", .implicit ⟨25⟩⟩
def BP : FormOperand := ⟨"BP", .implicit ⟨26⟩⟩
def SI : FormOperand := ⟨"SI", .implicit ⟨27⟩⟩
def DI : FormOperand := ⟨"DI", .implicit ⟨28⟩⟩
def R8W : FormOperand := ⟨"R8W", .implicit ⟨29⟩⟩
def R9W : FormOperand := ⟨"R9W", .implicit ⟨30⟩⟩
def R10W : FormOperand := ⟨"R10W", .implicit ⟨31⟩⟩
def R11W : FormOperand := ⟨"R11W", .implicit ⟨32⟩⟩
def R12W : FormOperand := ⟨"R12W", .implicit ⟨33⟩⟩
def R13W : FormOperand := ⟨"R13W", .implicit ⟨34⟩⟩
def R14W : FormOperand := ⟨"R14W", .implicit ⟨35⟩⟩
def R15W : FormOperand := ⟨"R15W", .implicit ⟨36⟩⟩
def EAX : FormOperand := ⟨"EAX", .implicit ⟨37⟩⟩
def ECX : FormOperand := ⟨"ECX", .implicit ⟨38⟩⟩
def EDX : FormOperand := ⟨"EDX", .implicit ⟨39⟩⟩
def EBX : FormOperand := ⟨"EBX", .implicit ⟨40⟩⟩
def ESP : FormOperand := ⟨"ESP", .implicit ⟨41⟩⟩
def EBP : FormOperand := ⟨"EBP", .implicit ⟨42⟩⟩
def ESI : FormOperand := ⟨"ESI", .implicit ⟨43⟩⟩
def EDI : FormOperand := ⟨"EDI", .implicit ⟨44⟩⟩
def R8D : FormOperand := ⟨"R8D", .implicit ⟨45⟩⟩
def R9D : FormOperand := ⟨"R9D", .implicit ⟨46⟩⟩
def R10D : FormOperand := ⟨"R10D", .implicit ⟨47⟩⟩
def R11D : FormOperand := ⟨"R11D", .implicit ⟨48⟩⟩
def R12D : FormOperand := ⟨"R12D", .implicit ⟨49⟩⟩
def R13D : FormOperand := ⟨"R13D", .implicit ⟨50⟩⟩
def R14D : FormOperand := ⟨"R14D", .implicit ⟨51⟩⟩
def R15D : FormOperand := ⟨"R15D", .implicit ⟨52⟩⟩
def RAX : FormOperand := ⟨"RAX", .implicit ⟨53⟩⟩
def RCX : FormOperand := ⟨"RCX", .implicit ⟨54⟩⟩
def RDX : FormOperand := ⟨"RDX", .implicit ⟨55⟩⟩
def RBX : FormOperand := ⟨"RBX", .implicit ⟨56⟩⟩
def RSP : FormOperand := ⟨"RSP", .implicit ⟨57⟩⟩
def RBP : FormOperand := ⟨"RBP", .implicit ⟨58⟩⟩
def RSI : FormOperand := ⟨"RSI", .implicit ⟨59⟩⟩
def RDI : FormOperand := ⟨"RDI", .implicit ⟨60⟩⟩
def R8 : FormOperand := ⟨"R8", .implicit ⟨61⟩⟩
def R9 : FormOperand := ⟨"R9", .implicit ⟨62⟩⟩
def R10 : FormOperand := ⟨"R10", .implicit ⟨63⟩⟩
def R11 : FormOperand := ⟨"R11", .implicit ⟨64⟩⟩
def R12 : FormOperand := ⟨"R12", .implicit ⟨65⟩⟩
def R13 : FormOperand := ⟨"R13", .implicit ⟨66⟩⟩
def R14 : FormOperand := ⟨"R14", .implicit ⟨67⟩⟩
def R15 : FormOperand := ⟨"R15", .implicit ⟨68⟩⟩
def ES : FormOperand := ⟨"ES", .implicit ⟨71⟩⟩
def CS : FormOperand := ⟨"CS", .implicit ⟨72⟩⟩
def SS : FormOperand := ⟨"SS", .implicit ⟨73⟩⟩
def DS : FormOperand := ⟨"DS", .implicit ⟨74⟩⟩
def FS : FormOperand := ⟨"FS", .implicit ⟨75⟩⟩
def GS : FormOperand := ⟨"GS", .implicit ⟨76⟩⟩
def ST : FormOperand := ⟨"ST", .implicit ⟨77⟩⟩

/-- Every operand of the vocabulary, implied registers apart. -/
def vocabulary : List FormOperand :=
  [Gb, Gw, Gd, Gq, Sw, Cd, Cq, Dd, Dq, P, VX, VY, VZ, VK, Eb, Ew, Ed, Eq, Q, WX, WY, WZ, WK, RdMb,
   RqMb, RdMw, RqMw, Rw, Rd, Rq, N, RX, RY, RZ, RK, STi, M, Mb, Mw, Md, Mq, Mo, Mp, Ms, Mw2, Md2,
   Mf32, Mf64, Mf80, Mfbcd, Mfi16, Mfi32, Mfi64, M14, M28, M98, M108, MK, Eww, Edw, Eqw, HX, HY, HZ,
   HK, Hd, Hq, Is4X, Is4Y, VM32X, VM32Y, VM32Z, VM64X, VM64Y, VM64Z, One, Ib, Ib16, Ib32, Ib64, Iw,
   Id, Id64, Iq, Jb16, Jb32, Jb64, Jw16, Jd32, Jd64, Aww, Adw, Ob, Xb, Yb, Ow, Xw, Yw, Od, Xd, Yd,
   Oq, Xq, Yq, rDI]

end X86Decoder.FormOperand
