import X86Decoder.Form.Entry
import X86Decoder.Form.Vocabulary

/-!
# Opcodes 00 to 3F of the one-byte map
-/

namespace X86Decoder.Table

open Entry

/-- Opcodes 00 to 0F of the one-byte map. -/
def primary00 : List Entry := rows .primary
  [legacy "Add_Eb_Gb" .free 0x00 [.Eb, .Gb] .uint8,
   legacy "Add_Eq_Gq" .o64 0x01 [.Eq, .Gq] .uint64 .only64,
   legacy "Add_Ew_Gw" .o16 0x01 [.Ew, .Gw] .uint16,
   legacy "Add_Ed_Gd" .o32 0x01 [.Ed, .Gd] .uint32,
   legacy "Add_Gb_Eb" .free 0x02 [.Gb, .Eb] .uint8,
   legacy "Add_Gq_Eq" .o64 0x03 [.Gq, .Eq] .uint64 .only64,
   legacy "Add_Gw_Ew" .o16 0x03 [.Gw, .Ew] .uint16,
   legacy "Add_Gd_Ed" .o32 0x03 [.Gd, .Ed] .uint32,
   bare "Add_AL_Ib" .free 0x04 [.AL, .Ib],
   bare "Add_RAX_Id64" .o64 0x05 [.RAX, .Id64] .unknown .only64,
   bare "Add_AX_Iw" .o16 0x05 [.AX, .Iw],
   bare "Add_EAX_Id" .o32 0x05 [.EAX, .Id],
   bare "Pushw_ES" .o16 0x06 [.ES] .unknown .not64,
   bare "Pushd_ES" .o32 0x06 [.ES] .unknown .not64,
   bare "Popw_ES" .o16 0x07 [.ES] .unknown .not64,
   bare "Popd_ES" .o32 0x07 [.ES] .unknown .not64,
   legacy "Or_Eb_Gb" .free 0x08 [.Eb, .Gb] .uint8,
   legacy "Or_Eq_Gq" .o64 0x09 [.Eq, .Gq] .uint64 .only64,
   legacy "Or_Ew_Gw" .o16 0x09 [.Ew, .Gw] .uint16,
   legacy "Or_Ed_Gd" .o32 0x09 [.Ed, .Gd] .uint32,
   legacy "Or_Gb_Eb" .free 0x0a [.Gb, .Eb] .uint8,
   legacy "Or_Gq_Eq" .o64 0x0b [.Gq, .Eq] .uint64 .only64,
   legacy "Or_Gw_Ew" .o16 0x0b [.Gw, .Ew] .uint16,
   legacy "Or_Gd_Ed" .o32 0x0b [.Gd, .Ed] .uint32,
   bare "Or_AL_Ib" .free 0x0c [.AL, .Ib],
   bare "Or_RAX_Id64" .o64 0x0d [.RAX, .Id64] .unknown .only64,
   bare "Or_AX_Iw" .o16 0x0d [.AX, .Iw],
   bare "Or_EAX_Id" .o32 0x0d [.EAX, .Id],
   bare "Pushw_CS" .o16 0x0e [.CS] .unknown .not64,
   bare "Pushd_CS" .o32 0x0e [.CS] .unknown .not64]

/-- Opcodes 10 to 1F of the one-byte map. -/
def primary10 : List Entry := rows .primary
  [legacy "Adc_Eb_Gb" .free 0x10 [.Eb, .Gb] .uint8,
   legacy "Adc_Eq_Gq" .o64 0x11 [.Eq, .Gq] .uint64 .only64,
   legacy "Adc_Ew_Gw" .o16 0x11 [.Ew, .Gw] .uint16,
   legacy "Adc_Ed_Gd" .o32 0x11 [.Ed, .Gd] .uint32,
   legacy "Adc_Gb_Eb" .free 0x12 [.Gb, .Eb] .uint8,
   legacy "Adc_Gq_Eq" .o64 0x13 [.Gq, .Eq] .uint64 .only64,
   legacy "Adc_Gw_Ew" .o16 0x13 [.Gw, .Ew] .uint16,
   legacy "Adc_Gd_Ed" .o32 0x13 [.Gd, .Ed] .uint32,
   bare "Adc_AL_Ib" .free 0x14 [.AL, .Ib],
   bare "Adc_RAX_Id64" .o64 0x15 [.RAX, .Id64] .unknown .only64,
   bare "Adc_AX_Iw" .o16 0x15 [.AX, .Iw],
   bare "Adc_EAX_Id" .o32 0x15 [.EAX, .Id],
   bare "Pushw_SS" .o16 0x16 [.SS] .unknown .not64,
   bare "Pushd_SS" .o32 0x16 [.SS] .unknown .not64,
   bare "Popw_SS" .o16 0x17 [.SS] .unknown .not64,
   bare "Popd_SS" .o32 0x17 [.SS] .unknown .not64,
   legacy "Sbb_Eb_Gb" .free 0x18 [.Eb, .Gb] .uint8,
   legacy "Sbb_Eq_Gq" .o64 0x19 [.Eq, .Gq] .uint64 .only64,
   legacy "Sbb_Ew_Gw" .o16 0x19 [.Ew, .Gw] .uint16,
   legacy "Sbb_Ed_Gd" .o32 0x19 [.Ed, .Gd] .uint32,
   legacy "Sbb_Gb_Eb" .free 0x1a [.Gb, .Eb] .uint8,
   legacy "Sbb_Gq_Eq" .o64 0x1b [.Gq, .Eq] .uint64 .only64,
   legacy "Sbb_Gw_Ew" .o16 0x1b [.Gw, .Ew] .uint16,
   legacy "Sbb_Gd_Ed" .o32 0x1b [.Gd, .Ed] .uint32,
   bare "Sbb_AL_Ib" .free 0x1c [.AL, .Ib],
   bare "Sbb_RAX_Id64" .o64 0x1d [.RAX, .Id64] .unknown .only64,
   bare "Sbb_AX_Iw" .o16 0x1d [.AX, .Iw],
   bare "Sbb_EAX_Id" .o32 0x1d [.EAX, .Id],
   bare "Pushw_DS" .o16 0x1e [.DS] .unknown .not64,
   bare "Pushd_DS" .o32 0x1e [.DS] .unknown .not64,
   bare "Popw_DS" .o16 0x1f [.DS] .unknown .not64,
   bare "Popd_DS" .o32 0x1f [.DS] .unknown .not64]

/-- Opcodes 20 to 2F of the one-byte map. -/
def primary20 : List Entry := rows .primary
  [legacy "And_Eb_Gb" .free 0x20 [.Eb, .Gb] .uint8,
   legacy "And_Eq_Gq" .o64 0x21 [.Eq, .Gq] .uint64 .only64,
   legacy "And_Ew_Gw" .o16 0x21 [.Ew, .Gw] .uint16,
   legacy "And_Ed_Gd" .o32 0x21 [.Ed, .Gd] .uint32,
   legacy "And_Gb_Eb" .free 0x22 [.Gb, .Eb] .uint8,
   legacy "And_Gq_Eq" .o64 0x23 [.Gq, .Eq] .uint64 .only64,
   legacy "And_Gw_Ew" .o16 0x23 [.Gw, .Ew] .uint16,
   legacy "And_Gd_Ed" .o32 0x23 [.Gd, .Ed] .uint32,
   bare "And_AL_Ib" .free 0x24 [.AL, .Ib],
   bare "And_RAX_Id64" .o64 0x25 [.RAX, .Id64] .unknown .only64,
   bare "And_AX_Iw" .o16 0x25 [.AX, .Iw],
   bare "And_EAX_Id" .o32 0x25 [.EAX, .Id],
   bare "Daa" .free 0x27 [] .unknown .not64,
   legacy "Sub_Eb_Gb" .free 0x28 [.Eb, .Gb] .uint8,
   legacy "Sub_Eq_Gq" .o64 0x29 [.Eq, .Gq] .uint64 .only64,
   legacy "Sub_Ew_Gw" .o16 0x29 [.Ew, .Gw] .uint16,
   legacy "Sub_Ed_Gd" .o32 0x29 [.Ed, .Gd] .uint32,
   legacy "Sub_Gb_Eb" .free 0x2a [.Gb, .Eb] .uint8,
   legacy "Sub_Gq_Eq" .o64 0x2b [.Gq, .Eq] .uint64 .only64,
   legacy "Sub_Gw_Ew" .o16 0x2b [.Gw, .Ew] .uint16,
   legacy "Sub_Gd_Ed" .o32 0x2b [.Gd, .Ed] .uint32,
   bare "Sub_AL_Ib" .free 0x2c [.AL, .Ib],
   bare "Sub_RAX_Id64" .o64 0x2d [.RAX, .Id64] .unknown .only64,
   bare "Sub_AX_Iw" .o16 0x2d [.AX, .Iw],
   bare "Sub_EAX_Id" .o32 0x2d [.EAX, .Id],
   bare "Das" .free 0x2f [] .unknown .not64]

/-- Opcodes 30 to 3F of the one-byte map. -/
def primary30 : List Entry := rows .primary
  [legacy "Xor_Eb_Gb" .free 0x30 [.Eb, .Gb] .uint8,
   legacy "Xor_Eq_Gq" .o64 0x31 [.Eq, .Gq] .uint64 .only64,
   legacy "Xor_Ew_Gw" .o16 0x31 [.Ew, .Gw] .uint16,
   legacy "Xor_Ed_Gd" .o32 0x31 [.Ed, .Gd] .uint32,
   legacy "Xor_Gb_Eb" .free 0x32 [.Gb, .Eb] .uint8,
   legacy "Xor_Gq_Eq" .o64 0x33 [.Gq, .Eq] .uint64 .only64,
   legacy "Xor_Gw_Ew" .o16 0x33 [.Gw, .Ew] .uint16,
   legacy "Xor_Gd_Ed" .o32 0x33 [.Gd, .Ed] .uint32,
   bare "Xor_AL_Ib" .free 0x34 [.AL, .Ib],
   bare "Xor_RAX_Id64" .o64 0x35 [.RAX, .Id64] .unknown .only64,
   bare "Xor_AX_Iw" .o16 0x35 [.AX, .Iw],
   bare "Xor_EAX_Id" .o32 0x35 [.EAX, .Id],
   bare "Aaa" .free 0x37 [] .unknown .not64,
   legacy "Cmp_Eb_Gb" .free 0x38 [.Eb, .Gb] .uint8,
   legacy "Cmp_Eq_Gq" .o64 0x39 [.Eq, .Gq] .uint64 .only64,
   legacy "Cmp_Ew_Gw" .o16 0x39 [.Ew, .Gw] .uint16,
   legacy "Cmp_Ed_Gd" .o32 0x39 [.Ed, .Gd] .uint32,
   legacy "Cmp_Gb_Eb" .free 0x3a [.Gb, .Eb] .uint8,
   legacy "Cmp_Gq_Eq" .o64 0x3b [.Gq, .Eq] .uint64 .only64,
   legacy "Cmp_Gw_Ew" .o16 0x3b [.Gw, .Ew] .uint16,
   legacy "Cmp_Gd_Ed" .o32 0x3b [.Gd, .Ed] .uint32,
   bare "Cmp_AL_Ib" .free 0x3c [.AL, .Ib],
   bare "Cmp_RAX_Id64" .o64 0x3d [.RAX, .Id64] .unknown .only64,
   bare "Cmp_AX_Iw" .o16 0x3d [.AX, .Iw],
   bare "Cmp_EAX_Id" .o32 0x3d [.EAX, .Id],
   bare "Aas" .free 0x3f [] .unknown .not64]

end X86Decoder.Table
