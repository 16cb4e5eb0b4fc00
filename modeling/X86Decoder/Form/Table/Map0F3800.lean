import X86Decoder.Form.Entry
import X86Decoder.Form.Vocabulary

/-!
# Opcodes 00 to 1F of the 0F38 map
-/

namespace X86Decoder.Table

open Entry

/-- Opcodes 00 to 0F of the 0F38 map. -/
def map0F3800 : List Entry := rows .map0F38
  [legacy "Pshufb_VX_WX" .p66 0x00 [.VX, .WX] .packed128UInt8,
   legacy "Pshufb_P_Q" .np 0x00 [.P, .Q] .packed64UInt8,
   vex "VEX_Vpshufb_VX_HX_WX" .nds .v128 .p66 .any 0x00 [.VX, .HX, .WX] .packed128UInt8,
   vex "VEX_Vpshufb_VY_HY_WY" .nds .v256 .p66 .any 0x00 [.VY, .HY, .WY] .packed256UInt8,
   fullMem "EVEX_Vpshufb_VX_k1z_HX_WX" .nds .v128 .p66 .any 0x00 [.VX, .HX, .WX] .uint8,
   fullMem "EVEX_Vpshufb_VY_k1z_HY_WY" .nds .v256 .p66 .any 0x00 [.VY, .HY, .WY] .uint8,
   fullMem "EVEX_Vpshufb_VZ_k1z_HZ_WZ" .nds .v512 .p66 .any 0x00 [.VZ, .HZ, .WZ] .uint8,
   legacy "Phaddw_VX_WX" .p66 0x01 [.VX, .WX] .packed128Int16,
   legacy "Phaddw_P_Q" .np 0x01 [.P, .Q] .packed64Int16,
   vex "VEX_Vphaddw_VX_HX_WX" .nds .v128 .p66 .any 0x01 [.VX, .HX, .WX] .packed128Int16,
   vex "VEX_Vphaddw_VY_HY_WY" .nds .v256 .p66 .any 0x01 [.VY, .HY, .WY] .packed256Int16,
   legacy "Phaddd_VX_WX" .p66 0x02 [.VX, .WX] .packed128Int32,
   legacy "Phaddd_P_Q" .np 0x02 [.P, .Q] .packed64Int32,
   vex "VEX_Vphaddd_VX_HX_WX" .nds .v128 .p66 .any 0x02 [.VX, .HX, .WX] .packed128Int32,
   vex "VEX_Vphaddd_VY_HY_WY" .nds .v256 .p66 .any 0x02 [.VY, .HY, .WY] .packed256Int32,
   legacy "Phaddsw_VX_WX" .p66 0x03 [.VX, .WX] .packed128Int16,
   legacy "Phaddsw_P_Q" .np 0x03 [.P, .Q] .packed64Int16,
   vex "VEX_Vphaddsw_VX_HX_WX" .nds .v128 .p66 .any 0x03 [.VX, .HX, .WX] .packed128Int16,
   vex "VEX_Vphaddsw_VY_HY_WY" .nds .v256 .p66 .any 0x03 [.VY, .HY, .WY] .packed256Int16,
   legacy "Pmaddubsw_VX_WX" .p66 0x04 [.VX, .WX] .packed128Int8,
   legacy "Pmaddubsw_P_Q" .np 0x04 [.P, .Q] .packed64Int8,
   vex "VEX_Vpmaddubsw_VX_HX_WX" .nds .v128 .p66 .any 0x04 [.VX, .HX, .WX] .packed128Int8,
   vex "VEX_Vpmaddubsw_VY_HY_WY" .nds .v256 .p66 .any 0x04 [.VY, .HY, .WY] .packed256Int8,
   fullMem "EVEX_Vpmaddubsw_VX_k1z_HX_WX" .nds .v128 .p66 .any 0x04 [.VX, .HX, .WX] .int8,
   fullMem "EVEX_Vpmaddubsw_VY_k1z_HY_WY" .nds .v256 .p66 .any 0x04 [.VY, .HY, .WY] .int8,
   fullMem "EVEX_Vpmaddubsw_VZ_k1z_HZ_WZ" .nds .v512 .p66 .any 0x04 [.VZ, .HZ, .WZ] .int8,
   legacy "Phsubw_VX_WX" .p66 0x05 [.VX, .WX] .packed128Int16,
   legacy "Phsubw_P_Q" .np 0x05 [.P, .Q] .packed64Int16,
   vex "VEX_Vphsubw_VX_HX_WX" .nds .v128 .p66 .any 0x05 [.VX, .HX, .WX] .packed128Int16,
   vex "VEX_Vphsubw_VY_HY_WY" .nds .v256 .p66 .any 0x05 [.VY, .HY, .WY] .packed256Int16,
   legacy "Phsubd_VX_WX" .p66 0x06 [.VX, .WX] .packed128Int32,
   legacy "Phsubd_P_Q" .np 0x06 [.P, .Q] .packed64Int32,
   vex "VEX_Vphsubd_VX_HX_WX" .nds .v128 .p66 .any 0x06 [.VX, .HX, .WX] .packed128Int32,
   vex "VEX_Vphsubd_VY_HY_WY" .nds .v256 .p66 .any 0x06 [.VY, .HY, .WY] .packed256Int32,
   legacy "Phsubsw_VX_WX" .p66 0x07 [.VX, .WX] .packed128Int16,
   legacy "Phsubsw_P_Q" .np 0x07 [.P, .Q] .packed64Int16,
   vex "VEX_Vphsubsw_VX_HX_WX" .nds .v128 .p66 .any 0x07 [.VX, .HX, .WX] .packed128Int16,
   vex "VEX_Vphsubsw_VY_HY_WY" .nds .v256 .p66 .any 0x07 [.VY, .HY, .WY] .packed256Int16,
   legacy "Psignb_VX_WX" .p66 0x08 [.VX, .WX] .packed128Int8,
   legacy "Psignb_P_Q" .np 0x08 [.P, .Q] .packed64Int8,
   vex "VEX_Vpsignb_VX_HX_WX" .nds .v128 .p66 .any 0x08 [.VX, .HX, .WX] .packed128Int8,
   vex "VEX_Vpsignb_VY_HY_WY" .nds .v256 .p66 .any 0x08 [.VY, .HY, .WY] .packed256Int8,
   legacy "Psignw_VX_WX" .p66 0x09 [.VX, .WX] .packed128Int16,
   legacy "Psignw_P_Q" .np 0x09 [.P, .Q] .packed64Int16,
   vex "VEX_Vpsignw_VX_HX_WX" .nds .v128 .p66 .any 0x09 [.VX, .HX, .WX] .packed128Int16,
   vex "VEX_Vpsignw_VY_HY_WY" .nds .v256 .p66 .any 0x09 [.VY, .HY, .WY] .packed256Int16,
   legacy "Psignd_VX_WX" .p66 0x0a [.VX, .WX] .packed128Int32,
   legacy "Psignd_P_Q" .np 0x0a [.P, .Q] .packed64Int32,
   vex "VEX_Vpsignd_VX_HX_WX" .nds .v128 .p66 .any 0x0a [.VX, .HX, .WX] .packed128Int32,
   vex "VEX_Vpsignd_VY_HY_WY" .nds .v256 .p66 .any 0x0a [.VY, .HY, .WY] .packed256Int32,
   legacy "Pmulhrsw_VX_WX" .p66 0x0b [.VX, .WX] .packed128Int16,
   legacy "Pmulhrsw_P_Q" .np 0x0b [.P, .Q] .packed64Int16,
   vex "VEX_Vpmulhrsw_VX_HX_WX" .nds .v128 .p66 .any 0x0b [.VX, .HX, .WX] .packed128Int16,
   vex "VEX_Vpmulhrsw_VY_HY_WY" .nds .v256 .p66 .any 0x0b [.VY, .HY, .WY] .packed256Int16,
   fullMem "EVEX_Vpmulhrsw_VX_k1z_HX_WX" .nds .v128 .p66 .any 0x0b [.VX, .HX, .WX] .int16,
   fullMem "EVEX_Vpmulhrsw_VY_k1z_HY_WY" .nds .v256 .p66 .any 0x0b [.VY, .HY, .WY] .int16,
   fullMem "EVEX_Vpmulhrsw_VZ_k1z_HZ_WZ" .nds .v512 .p66 .any 0x0b [.VZ, .HZ, .WZ] .int16,
   vex "VEX_Vpermilps_VX_HX_WX" .nds .v128 .p66 .clear 0x0c [.VX, .HX, .WX] .packed128Float32,
   vex "VEX_Vpermilps_VY_HY_WY" .nds .v256 .p66 .clear 0x0c [.VY, .HY, .WY] .packed256Float32,
   full "EVEX_Vpermilps_VX_k1z_HX_WX_b" .nds .v128 .p66 .clear 0x0c [.VX, .HX, .WX] .float32,
   full "EVEX_Vpermilps_VY_k1z_HY_WY_b" .nds .v256 .p66 .clear 0x0c [.VY, .HY, .WY] .float32,
   full "EVEX_Vpermilps_VZ_k1z_HZ_WZ_b" .nds .v512 .p66 .clear 0x0c [.VZ, .HZ, .WZ] .float32,
   vex "VEX_Vpermilpd_VX_HX_WX" .nds .v128 .p66 .clear 0x0d [.VX, .HX, .WX] .packed128Float64,
   vex "VEX_Vpermilpd_VY_HY_WY" .nds .v256 .p66 .clear 0x0d [.VY, .HY, .WY] .packed256Float64,
   full "EVEX_Vpermilpd_VX_k1z_HX_WX_b" .nds .v128 .p66 .set 0x0d [.VX, .HX, .WX] .float64,
   full "EVEX_Vpermilpd_VY_k1z_HY_WY_b" .nds .v256 .p66 .set 0x0d [.VY, .HY, .WY] .float64,
   full "EVEX_Vpermilpd_VZ_k1z_HZ_WZ_b" .nds .v512 .p66 .set 0x0d [.VZ, .HZ, .WZ] .float64,
   vex "VEX_Vtestps_VX_WX" .plain .v128 .p66 .clear 0x0e [.VX, .WX] .packed128Float32,
   vex "VEX_Vtestps_VY_WY" .plain .v256 .p66 .clear 0x0e [.VY, .WY] .packed256Float32,
   vex "VEX_Vtestpd_VX_WX" .plain .v128 .p66 .clear 0x0f [.VX, .WX] .packed128Float64,
   vex "VEX_Vtestpd_VY_WY" .plain .v256 .p66 .clear 0x0f [.VY, .WY] .packed256Float64]

/-- Opcodes 10 to 1F of the 0F38 map. -/
def map0F3810 : List Entry := rows .map0F38
  [legacy "Pblendvb_VX_WX" .p66 0x10 [.VX, .WX] .packed128Int8,
   fullMem "EVEX_Vpsrlvw_VX_k1z_HX_WX" .nds .v128 .p66 .set 0x10 [.VX, .HX, .WX] .uint16,
   fullMem "EVEX_Vpsrlvw_VY_k1z_HY_WY" .nds .v256 .p66 .set 0x10 [.VY, .HY, .WY] .uint16,
   fullMem "EVEX_Vpsrlvw_VZ_k1z_HZ_WZ" .nds .v512 .p66 .set 0x10 [.VZ, .HZ, .WZ] .uint16,
   evex "EVEX_Vpmovuswb_WX_k1z_VX" .plain .v128 .pF3 .clear 0x10 [.WX, .VX] .packed64UInt8
     .halfMem128 k1z,
   evex "EVEX_Vpmovuswb_WX_k1z_VY" .plain .v256 .pF3 .clear 0x10 [.WX, .VY] .packed128UInt8
     .halfMem256 k1z,
   evex "EVEX_Vpmovuswb_WY_k1z_VZ" .plain .v512 .pF3 .clear 0x10 [.WY, .VZ] .packed256UInt8
     .halfMem512 k1z,
   fullMem "EVEX_Vpsravw_VX_k1z_HX_WX" .nds .v128 .p66 .set 0x11 [.VX, .HX, .WX] .uint16,
   fullMem "EVEX_Vpsravw_VY_k1z_HY_WY" .nds .v256 .p66 .set 0x11 [.VY, .HY, .WY] .uint16,
   fullMem "EVEX_Vpsravw_VZ_k1z_HZ_WZ" .nds .v512 .p66 .set 0x11 [.VZ, .HZ, .WZ] .uint16,
   evex "EVEX_Vpmovusdb_WX_k1z_VX" .plain .v128 .pF3 .clear 0x11 [.WX, .VX] .packed32UInt8
     .quarterMem128 k1z,
   evex "EVEX_Vpmovusdb_WX_k1z_VY" .plain .v256 .pF3 .clear 0x11 [.WX, .VY] .packed64UInt8
     .quarterMem256 k1z,
   evex "EVEX_Vpmovusdb_WX_k1z_VZ" .plain .v512 .pF3 .clear 0x11 [.WX, .VZ] .packed128UInt8
     .quarterMem512 k1z,
   fullMem "EVEX_Vpsllvw_VX_k1z_HX_WX" .nds .v128 .p66 .set 0x12 [.VX, .HX, .WX] .uint16,
   fullMem "EVEX_Vpsllvw_VY_k1z_HY_WY" .nds .v256 .p66 .set 0x12 [.VY, .HY, .WY] .uint16,
   fullMem "EVEX_Vpsllvw_VZ_k1z_HZ_WZ" .nds .v512 .p66 .set 0x12 [.VZ, .HZ, .WZ] .uint16,
   evex "EVEX_Vpmovusqb_WX_k1z_VX" .plain .v128 .pF3 .clear 0x12 [.WX, .VX] .packed16UInt8
     .eighthMem128 k1z,
   evex "EVEX_Vpmovusqb_WX_k1z_VY" .plain .v256 .pF3 .clear 0x12 [.WX, .VY] .packed32UInt8
     .eighthMem256 k1z,
   evex "EVEX_Vpmovusqb_WX_k1z_VZ" .plain .v512 .pF3 .clear 0x12 [.WX, .VZ] .packed64UInt8
     .eighthMem512 k1z,
   vex "VEX_Vcvtph2ps_VX_WX" .plain .v128 .p66 .clear 0x13 [.VX, .WX] .packed64Float16,
   vex "VEX_Vcvtph2ps_VY_WX" .plain .v256 .p66 .clear 0x13 [.VY, .WX] .packed128Float16,
   evex "EVEX_Vcvtph2ps_VX_k1z_WX" .plain .v128 .p66 .clear 0x13 [.VX, .WX] .packed64Float16
     .halfMem128 k1z,
   evex "EVEX_Vcvtph2ps_VY_k1z_WX" .plain .v256 .p66 .clear 0x13 [.VY, .WX] .packed128Float16
     .halfMem256 k1z,
   evex "EVEX_Vcvtph2ps_VZ_k1z_WY_sae" .plain .v512 .p66 .clear 0x13 [.VZ, .WY] .packed256Float16
     .halfMem512 k1zSae,
   evex "EVEX_Vpmovusdw_WX_k1z_VX" .plain .v128 .pF3 .clear 0x13 [.WX, .VX] .packed64UInt16
     .halfMem128 k1z,
   evex "EVEX_Vpmovusdw_WX_k1z_VY" .plain .v256 .pF3 .clear 0x13 [.WX, .VY] .packed128UInt16
     .halfMem256 k1z,
   evex "EVEX_Vpmovusdw_WY_k1z_VZ" .plain .v512 .pF3 .clear 0x13 [.WY, .VZ] .packed256UInt16
     .halfMem512 k1z,
   legacy "Blendvps_VX_WX" .p66 0x14 [.VX, .WX] .packed128Float32,
   full "EVEX_Vprorvd_VX_k1z_HX_WX_b" .nds .v128 .p66 .clear 0x14 [.VX, .HX, .WX] .uint32,
   full "EVEX_Vprorvd_VY_k1z_HY_WY_b" .nds .v256 .p66 .clear 0x14 [.VY, .HY, .WY] .uint32,
   full "EVEX_Vprorvd_VZ_k1z_HZ_WZ_b" .nds .v512 .p66 .clear 0x14 [.VZ, .HZ, .WZ] .uint32,
   full "EVEX_Vprorvq_VX_k1z_HX_WX_b" .nds .v128 .p66 .set 0x14 [.VX, .HX, .WX] .uint64,
   full "EVEX_Vprorvq_VY_k1z_HY_WY_b" .nds .v256 .p66 .set 0x14 [.VY, .HY, .WY] .uint64,
   full "EVEX_Vprorvq_VZ_k1z_HZ_WZ_b" .nds .v512 .p66 .set 0x14 [.VZ, .HZ, .WZ] .uint64,
   evex "EVEX_Vpmovusqw_WX_k1z_VX" .plain .v128 .pF3 .clear 0x14 [.WX, .VX] .packed32UInt16
     .quarterMem128 k1z,
   evex "EVEX_Vpmovusqw_WX_k1z_VY" .plain .v256 .pF3 .clear 0x14 [.WX, .VY] .packed64UInt16
     .quarterMem256 k1z,
   evex "EVEX_Vpmovusqw_WX_k1z_VZ" .plain .v512 .pF3 .clear 0x14 [.WX, .VZ] .packed128UInt16
     .quarterMem512 k1z,
   legacy "Blendvpd_VX_WX" .p66 0x15 [.VX, .WX] .packed128Float64,
   full "EVEX_Vprolvd_VX_k1z_HX_WX_b" .nds .v128 .p66 .clear 0x15 [.VX, .HX, .WX] .uint32,
   full "EVEX_Vprolvd_VY_k1z_HY_WY_b" .nds .v256 .p66 .clear 0x15 [.VY, .HY, .WY] .uint32,
   full "EVEX_Vprolvd_VZ_k1z_HZ_WZ_b" .nds .v512 .p66 .clear 0x15 [.VZ, .HZ, .WZ] .uint32,
   full "EVEX_Vprolvq_VX_k1z_HX_WX_b" .nds .v128 .p66 .set 0x15 [.VX, .HX, .WX] .uint64,
   full "EVEX_Vprolvq_VY_k1z_HY_WY_b" .nds .v256 .p66 .set 0x15 [.VY, .HY, .WY] .uint64,
   full "EVEX_Vprolvq_VZ_k1z_HZ_WZ_b" .nds .v512 .p66 .set 0x15 [.VZ, .HZ, .WZ] .uint64,
   evex "EVEX_Vpmovusqd_WX_k1z_VX" .plain .v128 .pF3 .clear 0x15 [.WX, .VX] .packed64UInt32
     .halfMem128 k1z,
   evex "EVEX_Vpmovusqd_WX_k1z_VY" .plain .v256 .pF3 .clear 0x15 [.WX, .VY] .packed128UInt32
     .halfMem256 k1z,
   evex "EVEX_Vpmovusqd_WY_k1z_VZ" .plain .v512 .pF3 .clear 0x15 [.WY, .VZ] .packed256UInt32
     .halfMem512 k1z,
   vex "VEX_Vpermps_VY_HY_WY" .plain .v256 .p66 .clear 0x16 [.VY, .HY, .WY] .packed256Float32,
   full "EVEX_Vpermps_VY_k1z_HY_WY_b" .nds .v256 .p66 .clear 0x16 [.VY, .HY, .WY] .float32,
   full "EVEX_Vpermps_VZ_k1z_HZ_WZ_b" .nds .v512 .p66 .clear 0x16 [.VZ, .HZ, .WZ] .float32,
   full "EVEX_Vpermpd_VY_k1z_HY_WY_b" .nds .v256 .p66 .set 0x16 [.VY, .HY, .WY] .float64,
   full "EVEX_Vpermpd_VZ_k1z_HZ_WZ_b" .nds .v512 .p66 .set 0x16 [.VZ, .HZ, .WZ] .float64,
   legacy "Ptest_VX_WX" .p66 0x17 [.VX, .WX] .uint128,
   vex "VEX_Vptest_VX_WX" .plain .v128 .p66 .any 0x17 [.VX, .WX] .uint128,
   vex "VEX_Vptest_VY_WY" .plain .v256 .p66 .any 0x17 [.VY, .WY] .uint256,
   vex "VEX_Vbroadcastss_VX_WX" .plain .v128 .p66 .clear 0x18 [.VX, .WX] .float32,
   vex "VEX_Vbroadcastss_VY_WX" .plain .v256 .p66 .clear 0x18 [.VY, .WX] .float32,
   evex "EVEX_Vbroadcastss_VX_k1z_WX" .plain .v128 .p66 .clear 0x18 [.VX, .WX] .float32 .oneScalar
     k1z,
   evex "EVEX_Vbroadcastss_VY_k1z_WX" .plain .v256 .p66 .clear 0x18 [.VY, .WX] .float32 .oneScalar
     k1z,
   evex "EVEX_Vbroadcastss_VZ_k1z_WX" .plain .v512 .p66 .clear 0x18 [.VZ, .WX] .float32 .oneScalar
     k1z,
   vex "VEX_Vbroadcastsd_VY_WX" .plain .v256 .p66 .clear 0x19 [.VY, .WX] .float64,
   evex "EVEX_Vbroadcastf32x2_VY_k1z_WX" .plain .v256 .p66 .clear 0x19 [.VY, .WX] .packed64Float32
     .two k1z,
   evex "EVEX_Vbroadcastf32x2_VZ_k1z_WX" .plain .v512 .p66 .clear 0x19 [.VZ, .WX] .packed64Float32
     .two k1z,
   evex "EVEX_Vbroadcastsd_VY_k1z_WX" .plain .v256 .p66 .set 0x19 [.VY, .WX] .float64 .oneScalar
     k1z,
   evex "EVEX_Vbroadcastsd_VZ_k1z_WX" .plain .v512 .p66 .set 0x19 [.VZ, .WX] .float64 .oneScalar
     k1z,
   vex "VEX_Vbroadcastf128_VY_M" .plain .v256 .p66 .clear 0x1a [.VY, .M] .float128 .all mem,
   evex "EVEX_Vbroadcastf32x4_VY_k1z_M" .plain .v256 .p66 .clear 0x1a [.VY, .M] .packed128Float32
     .four [.opmask, .zeroing, .memoryOnly],
   evex "EVEX_Vbroadcastf32x4_VZ_k1z_M" .plain .v512 .p66 .clear 0x1a [.VZ, .M] .packed128Float32
     .four [.opmask, .zeroing, .memoryOnly],
   evex "EVEX_Vbroadcastf64x2_VY_k1z_M" .plain .v256 .p66 .set 0x1a [.VY, .M] .packed128Float64
     .two [.opmask, .zeroing, .memoryOnly],
   evex "EVEX_Vbroadcastf64x2_VZ_k1z_M" .plain .v512 .p66 .set 0x1a [.VZ, .M] .packed128Float64
     .two [.opmask, .zeroing, .memoryOnly],
   evex "EVEX_Vbroadcastf32x8_VZ_k1z_M" .plain .v512 .p66 .clear 0x1b [.VZ, .M] .packed256Float32
     .eight [.opmask, .zeroing, .memoryOnly],
   evex "EVEX_Vbroadcastf64x4_VZ_k1z_M" .plain .v512 .p66 .set 0x1b [.VZ, .M] .packed256Float64
     .four [.opmask, .zeroing, .memoryOnly],
   legacy "Pabsb_VX_WX" .p66 0x1c [.VX, .WX] .packed128Int8,
   legacy "Pabsb_P_Q" .np 0x1c [.P, .Q] .packed64Int8,
   vex "VEX_Vpabsb_VX_WX" .plain .v128 .p66 .any 0x1c [.VX, .WX] .packed128Int8,
   vex "VEX_Vpabsb_VY_WY" .plain .v256 .p66 .any 0x1c [.VY, .WY] .packed256Int8,
   fullMem "EVEX_Vpabsb_VX_k1z_WX" .plain .v128 .p66 .any 0x1c [.VX, .WX] .int8,
   fullMem "EVEX_Vpabsb_VY_k1z_WY" .plain .v256 .p66 .any 0x1c [.VY, .WY] .int8,
   fullMem "EVEX_Vpabsb_VZ_k1z_WZ" .plain .v512 .p66 .any 0x1c [.VZ, .WZ] .int8,
   legacy "Pabsw_VX_WX" .p66 0x1d [.VX, .WX] .packed128Int16,
   legacy "Pabsw_P_Q" .np 0x1d [.P, .Q] .packed64Int16,
   vex "VEX_Vpabsw_VX_WX" .plain .v128 .p66 .any 0x1d [.VX, .WX] .packed128Int16,
   vex "VEX_Vpabsw_VY_WY" .plain .v256 .p66 .any 0x1d [.VY, .WY] .packed256Int16,
   fullMem "EVEX_Vpabsw_VX_k1z_WX" .plain .v128 .p66 .any 0x1d [.VX, .WX] .int16,
   fullMem "EVEX_Vpabsw_VY_k1z_WY" .plain .v256 .p66 .any 0x1d [.VY, .WY] .int16,
   fullMem "EVEX_Vpabsw_VZ_k1z_WZ" .plain .v512 .p66 .any 0x1d [.VZ, .WZ] .int16,
   legacy "Pabsd_VX_WX" .p66 0x1e [.VX, .WX] .packed128Int32,
   legacy "Pabsd_P_Q" .np 0x1e [.P, .Q] .packed64Int32,
   vex "VEX_Vpabsd_VX_WX" .plain .v128 .p66 .any 0x1e [.VX, .WX] .packed128Int32,
   vex "VEX_Vpabsd_VY_WY" .plain .v256 .p66 .any 0x1e [.VY, .WY] .packed256Int32,
   full "EVEX_Vpabsd_VX_k1z_WX_b" .plain .v128 .p66 .clear 0x1e [.VX, .WX] .int32,
   full "EVEX_Vpabsd_VY_k1z_WY_b" .plain .v256 .p66 .clear 0x1e [.VY, .WY] .int32,
   full "EVEX_Vpabsd_VZ_k1z_WZ_b" .plain .v512 .p66 .clear 0x1e [.VZ, .WZ] .int32,
   full "EVEX_Vpabsq_VX_k1z_WX_b" .plain .v128 .p66 .set 0x1f [.VX, .WX] .int64,
   full "EVEX_Vpabsq_VY_k1z_WY_b" .plain .v256 .p66 .set 0x1f [.VY, .WY] .int64,
   full "EVEX_Vpabsq_VZ_k1z_WZ_b" .plain .v512 .p66 .set 0x1f [.VZ, .WZ] .int64]

end X86Decoder.Table
