import X86Decoder.Form.Entry
import X86Decoder.Form.Vocabulary

/-!
# Opcodes 00 to 1F of the 0F map
-/

namespace X86Decoder.Table

open Entry

/-- Opcodes 00 to 0F of the 0F map. -/
def map0F00 : List Entry := rows .map0F
  [group "Sldtq_Ew" .o64 0x00 (.reg 0) [.Ew] .uint16 .only64,
   group "Sldtw_Ew" .o16 0x00 (.reg 0) [.Ew] .uint16,
   group "Sldtd_Ew" .o32 0x00 (.reg 0) [.Ew] .uint16,
   group "Strq_Ew" .o64 0x00 (.reg 1) [.Ew] .uint16 .only64,
   group "Strw_Ew" .o16 0x00 (.reg 1) [.Ew] .uint16,
   group "Strd_Ew" .o32 0x00 (.reg 1) [.Ew] .uint16,
   group "Lldtq_Ew" .o64 0x00 (.reg 2) [.Ew] .uint16 .only64,
   group "Lldtw_Ew" .o16 0x00 (.reg 2) [.Ew] .uint16,
   group "Lldtd_Ew" .o32 0x00 (.reg 2) [.Ew] .uint16,
   group "Ltrq_Ew" .o64 0x00 (.reg 3) [.Ew] .uint16 .only64,
   group "Ltrw_Ew" .o16 0x00 (.reg 3) [.Ew] .uint16,
   group "Ltrd_Ew" .o32 0x00 (.reg 3) [.Ew] .uint16,
   group "Verrq_Ew" .o64 0x00 (.reg 4) [.Ew] .uint16 .only64,
   group "Verrw_Ew" .o16 0x00 (.reg 4) [.Ew] .uint16,
   group "Verrd_Ew" .o32 0x00 (.reg 4) [.Ew] .uint16,
   group "Verwq_Ew" .o64 0x00 (.reg 5) [.Ew] .uint16 .only64,
   group "Verww_Ew" .o16 0x00 (.reg 5) [.Ew] .uint16,
   group "Verwd_Ew" .o32 0x00 (.reg 5) [.Ew] .uint16,
   group "Sgdtw_Ms" .o16 0x01 (.reg 0) [.Ms] .fword5 .not64 mem,
   group "Sgdtd_Ms" .o32 0x01 (.reg 0) [.Ms] .fword6 .not64 mem,
   group "Sgdtq_Ms" .free 0x01 (.reg 0) [.Ms] .fword10 .only64 [.force64, .memoryOnly],
   group "Sidtw_Ms" .o16 0x01 (.reg 1) [.Ms] .fword5 .not64 mem,
   group "Sidtd_Ms" .o32 0x01 (.reg 1) [.Ms] .fword6 .not64 mem,
   group "Sidtq_Ms" .free 0x01 (.reg 1) [.Ms] .fword10 .only64 [.force64, .memoryOnly],
   group "Lgdtw_Ms" .o16 0x01 (.reg 2) [.Ms] .fword5 .not64 mem,
   group "Lgdtd_Ms" .o32 0x01 (.reg 2) [.Ms] .fword6 .not64 mem,
   group "Lgdtq_Ms" .free 0x01 (.reg 2) [.Ms] .fword10 .only64 [.force64, .memoryOnly],
   group "Lidtw_Ms" .o16 0x01 (.reg 3) [.Ms] .fword5 .not64 mem,
   group "Lidtd_Ms" .o32 0x01 (.reg 3) [.Ms] .fword6 .not64 mem,
   group "Lidtq_Ms" .free 0x01 (.reg 3) [.Ms] .fword10 .only64 [.force64, .memoryOnly],
   group "Smswq_Ew" .o64 0x01 (.reg 4) [.Ew] .uint16 .only64,
   group "Smsww_Ew" .o16 0x01 (.reg 4) [.Ew] .uint16,
   group "Smswd_Ew" .o32 0x01 (.reg 4) [.Ew] .uint16,
   group "Lmswq_Ew" .o64 0x01 (.reg 6) [.Ew] .uint16 .only64,
   group "Lmsww_Ew" .o16 0x01 (.reg 6) [.Ew] .uint16,
   group "Lmswd_Ew" .o32 0x01 (.reg 6) [.Ew] .uint16,
   group "Invlpg_M" .free 0x01 (.reg 7) [.M] .unknown .all mem,
   group "Enclv" .free 0x01 (.byte 0xc0) [],
   group "Vmcall" .free 0x01 (.byte 0xc1) [],
   group "Vmlaunch" .free 0x01 (.byte 0xc2) [],
   group "Vmresume" .free 0x01 (.byte 0xc3) [],
   group "Vmxoff" .free 0x01 (.byte 0xc4) [],
   group "Monitorw" { addressSize := some .w16 } 0x01 (.byte 0xc8) [],
   group "Monitord" { addressSize := some .w32 } 0x01 (.byte 0xc8) [],
   group "Monitorq" .free 0x01 (.byte 0xc8) [],
   group "Mwait" .free 0x01 (.byte 0xc9) [],
   group "Clac" .free 0x01 (.byte 0xca) [],
   group "Stac" .free 0x01 (.byte 0xcb) [],
   group "Encls" .free 0x01 (.byte 0xcf) [],
   group "Xgetbv" .free 0x01 (.byte 0xd0) [],
   group "Xsetbv" .free 0x01 (.byte 0xd1) [],
   group "Vmfunc" .free 0x01 (.byte 0xd4) [],
   group "Xend" .free 0x01 (.byte 0xd5) [],
   group "Xtest" .free 0x01 (.byte 0xd6) [],
   group "Enclu" .free 0x01 (.byte 0xd7) [],
   group "Rdpkru" .free 0x01 (.byte 0xee) [],
   group "Wrpkru" .free 0x01 (.byte 0xef) [],
   group "Swapgs" .free 0x01 (.byte 0xf8) [],
   group "Rdtscp" .free 0x01 (.byte 0xf9) [],
   legacy "Lar_Gq_Eq" .o64 0x02 [.Gq, .Eq] .uint64 .only64,
   legacy "Lar_Gw_Ew" .o16 0x02 [.Gw, .Ew] .uint16,
   legacy "Lar_Gd_Ed" .o32 0x02 [.Gd, .Ed] .uint32,
   legacy "Lsl_Gq_Eq" .o64 0x03 [.Gq, .Eq] .uint64 .only64,
   legacy "Lsl_Gw_Ew" .o16 0x03 [.Gw, .Ew] .uint16,
   legacy "Lsl_Gd_Ed" .o32 0x03 [.Gd, .Ed] .uint32,
   bare "Syscall" .free 0x05 [] .unknown .only64,
   bare "Clts" .free 0x06 [],
   bare "Sysretq" .o64 0x07 [] .unknown .only64,
   bare "Sysretd" .free 0x07 [] .unknown .only64,
   bare "Invd" .free 0x08 [],
   bare "Wbinvd" .free 0x09 [],
   bare "Ud2" .free 0x0b [],
   group "Prefetchw_Mb" .free 0x0d (.reg 1) [.Mb] .uint8 .all mem,
   group "Prefetchwt1_Mb" .free 0x0d (.reg 2) [.Mb] .uint8 .all mem]

/-- Opcodes 10 to 1F of the 0F map. -/
def map0F10 : List Entry := rows .map0F
  [legacy "Movupd_VX_WX" .p66 0x10 [.VX, .WX] .packed128Float64,
   legacy "Movss_VX_WX" .pF3 0x10 [.VX, .WX] .float32,
   legacy "Movsd_VX_WX" .pF2 0x10 [.VX, .WX] .float64,
   legacy "Movups_VX_WX" .np 0x10 [.VX, .WX] .packed128Float32,
   vex "VEX_Vmovups_VX_WX" .plain .v128 .none .any 0x10 [.VX, .WX] .packed128Float32,
   vex "VEX_Vmovups_VY_WY" .plain .v256 .none .any 0x10 [.VY, .WY] .packed256Float32,
   vex "VEX_Vmovupd_VX_WX" .plain .v128 .p66 .any 0x10 [.VX, .WX] .packed128Float64,
   vex "VEX_Vmovupd_VY_WY" .plain .v256 .p66 .any 0x10 [.VY, .WY] .packed256Float64,
   vex "VEX_Vmovss_VX_HX_RX" .nds .lig .pF3 .any 0x10 [.VX, .HX, .RX] .unknown .all reg,
   vex "VEX_Vmovss_VX_M" .plain .lig .pF3 .any 0x10 [.VX, .M] .float32 .all mem,
   vex "VEX_Vmovsd_VX_HX_RX" .nds .lig .pF2 .any 0x10 [.VX, .HX, .RX] .unknown .all reg,
   vex "VEX_Vmovsd_VX_M" .plain .lig .pF2 .any 0x10 [.VX, .M] .float64 .all mem,
   fullMem "EVEX_Vmovups_VX_k1z_WX" .plain .v128 .none .clear 0x10 [.VX, .WX] .float32,
   fullMem "EVEX_Vmovups_VY_k1z_WY" .plain .v256 .none .clear 0x10 [.VY, .WY] .float32,
   fullMem "EVEX_Vmovups_VZ_k1z_WZ" .plain .v512 .none .clear 0x10 [.VZ, .WZ] .float32,
   fullMem "EVEX_Vmovupd_VX_k1z_WX" .plain .v128 .p66 .set 0x10 [.VX, .WX] .float64,
   fullMem "EVEX_Vmovupd_VY_k1z_WY" .plain .v256 .p66 .set 0x10 [.VY, .WY] .float64,
   fullMem "EVEX_Vmovupd_VZ_k1z_WZ" .plain .v512 .p66 .set 0x10 [.VZ, .WZ] .float64,
   evex "EVEX_Vmovss_VX_k1z_HX_RX" .nds .lig .pF3 .clear 0x10 [.VX, .HX, .RX] .unknown .oneScalar
     [.opmask, .zeroing, .registerOnly],
   evex "EVEX_Vmovss_VX_k1z_M" .plain .lig .pF3 .clear 0x10 [.VX, .M] .float32 .oneScalar
     [.opmask, .zeroing, .memoryOnly],
   evex "EVEX_Vmovsd_VX_k1z_HX_RX" .nds .lig .pF2 .set 0x10 [.VX, .HX, .RX] .unknown .oneScalar
     [.opmask, .zeroing, .registerOnly],
   evex "EVEX_Vmovsd_VX_k1z_M" .plain .lig .pF2 .set 0x10 [.VX, .M] .float64 .oneScalar
     [.opmask, .zeroing, .memoryOnly],
   legacy "Movupd_WX_VX" .p66 0x11 [.WX, .VX] .packed128Float64,
   legacy "Movss_WX_VX" .pF3 0x11 [.WX, .VX] .float32,
   legacy "Movsd_WX_VX" .pF2 0x11 [.WX, .VX] .float64,
   legacy "Movups_WX_VX" .np 0x11 [.WX, .VX] .packed128Float32,
   vex "VEX_Vmovups_WX_VX" .plain .v128 .none .any 0x11 [.WX, .VX] .packed128Float32,
   vex "VEX_Vmovups_WY_VY" .plain .v256 .none .any 0x11 [.WY, .VY] .packed256Float32,
   vex "VEX_Vmovupd_WX_VX" .plain .v128 .p66 .any 0x11 [.WX, .VX] .packed128Float64,
   vex "VEX_Vmovupd_WY_VY" .plain .v256 .p66 .any 0x11 [.WY, .VY] .packed256Float64,
   vex "VEX_Vmovss_RX_HX_VX" .nds .lig .pF3 .any 0x11 [.RX, .HX, .VX] .unknown .all reg,
   vex "VEX_Vmovss_M_VX" .plain .lig .pF3 .any 0x11 [.M, .VX] .float32 .all mem,
   vex "VEX_Vmovsd_RX_HX_VX" .nds .lig .pF2 .any 0x11 [.RX, .HX, .VX] .unknown .all reg,
   vex "VEX_Vmovsd_M_VX" .plain .lig .pF2 .any 0x11 [.M, .VX] .float64 .all mem,
   fullMem "EVEX_Vmovups_WX_k1z_VX" .plain .v128 .none .clear 0x11 [.WX, .VX] .float32,
   fullMem "EVEX_Vmovups_WY_k1z_VY" .plain .v256 .none .clear 0x11 [.WY, .VY] .float32,
   fullMem "EVEX_Vmovups_WZ_k1z_VZ" .plain .v512 .none .clear 0x11 [.WZ, .VZ] .float32,
   fullMem "EVEX_Vmovupd_WX_k1z_VX" .plain .v128 .p66 .set 0x11 [.WX, .VX] .float64,
   fullMem "EVEX_Vmovupd_WY_k1z_VY" .plain .v256 .p66 .set 0x11 [.WY, .VY] .float64,
   fullMem "EVEX_Vmovupd_WZ_k1z_VZ" .plain .v512 .p66 .set 0x11 [.WZ, .VZ] .float64,
   evex "EVEX_Vmovss_RX_k1z_HX_VX" .nds .lig .pF3 .clear 0x11 [.RX, .HX, .VX] .unknown .oneScalar
     [.opmask, .zeroing, .registerOnly],
   evex "EVEX_Vmovss_M_k1_VX" .plain .lig .pF3 .clear 0x11 [.M, .VX] .float32 .oneScalar
     [.opmask, .memoryOnly],
   evex "EVEX_Vmovsd_RX_k1z_HX_VX" .nds .lig .pF2 .set 0x11 [.RX, .HX, .VX] .unknown .oneScalar
     [.opmask, .zeroing, .registerOnly],
   evex "EVEX_Vmovsd_M_k1_VX" .plain .lig .pF2 .set 0x11 [.M, .VX] .float64 .oneScalar
     [.opmask, .memoryOnly],
   legacy "Movlpd_VX_M" .p66 0x12 [.VX, .M] .float64 .all mem,
   legacy "Movsldup_VX_WX" .pF3 0x12 [.VX, .WX] .packed128Float32,
   legacy "Movddup_VX_WX" .pF2 0x12 [.VX, .WX] .float64,
   legacy "Movhlps_VX_RX" .np 0x12 [.VX, .RX] .unknown .all reg,
   legacy "Movlps_VX_M" .np 0x12 [.VX, .M] .packed64Float32 .all mem,
   vex "VEX_Vmovhlps_VX_HX_RX" .nds .v128 .none .any 0x12 [.VX, .HX, .RX] .unknown .all reg,
   vex "VEX_Vmovlps_VX_HX_M" .nds .v128 .none .any 0x12 [.VX, .HX, .M] .packed64Float32 .all mem,
   vex "VEX_Vmovlpd_VX_HX_M" .nds .v128 .p66 .any 0x12 [.VX, .HX, .M] .float64 .all mem,
   vex "VEX_Vmovsldup_VX_WX" .plain .v128 .pF3 .any 0x12 [.VX, .WX] .packed128Float32,
   vex "VEX_Vmovsldup_VY_WY" .plain .v256 .pF3 .any 0x12 [.VY, .WY] .packed256Float32,
   vex "VEX_Vmovddup_VX_WX" .plain .v128 .pF2 .any 0x12 [.VX, .WX] .float64,
   vex "VEX_Vmovddup_VY_WY" .plain .v256 .pF2 .any 0x12 [.VY, .WY] .packed256Float64,
   evex "EVEX_Vmovhlps_VX_HX_RX" .nds .v128 .none .clear 0x12 [.VX, .HX, .RX] .unknown .two reg,
   evex "EVEX_Vmovlps_VX_HX_M" .nds .v128 .none .clear 0x12 [.VX, .HX, .M] .packed64Float32 .two
     mem,
   evex "EVEX_Vmovlpd_VX_HX_M" .nds .v128 .p66 .set 0x12 [.VX, .HX, .M] .float64 .oneScalar mem,
   fullMem "EVEX_Vmovsldup_VX_k1z_WX" .plain .v128 .pF3 .clear 0x12 [.VX, .WX] .float32,
   fullMem "EVEX_Vmovsldup_VY_k1z_WY" .plain .v256 .pF3 .clear 0x12 [.VY, .WY] .float32,
   fullMem "EVEX_Vmovsldup_VZ_k1z_WZ" .plain .v512 .pF3 .clear 0x12 [.VZ, .WZ] .float32,
   evex "EVEX_Vmovddup_VX_k1z_WX" .plain .v128 .pF2 .set 0x12 [.VX, .WX] .float64 .movddup128 k1z,
   evex "EVEX_Vmovddup_VY_k1z_WY" .plain .v256 .pF2 .set 0x12 [.VY, .WY] .packed256Float64
     .movddup256 k1z,
   evex "EVEX_Vmovddup_VZ_k1z_WZ" .plain .v512 .pF2 .set 0x12 [.VZ, .WZ] .packed512Float64
     .movddup512 k1z,
   legacy "Movlpd_M_VX" .p66 0x13 [.M, .VX] .float64 .all mem,
   legacy "Movlps_M_VX" .np 0x13 [.M, .VX] .packed64Float32 .all mem,
   vex "VEX_Vmovlps_M_VX" .plain .v128 .none .any 0x13 [.M, .VX] .packed64Float32 .all mem,
   vex "VEX_Vmovlpd_M_VX" .plain .v128 .p66 .any 0x13 [.M, .VX] .float64 .all mem,
   evex "EVEX_Vmovlps_M_VX" .plain .v128 .none .clear 0x13 [.M, .VX] .packed64Float32 .two mem,
   evex "EVEX_Vmovlpd_M_VX" .plain .v128 .p66 .set 0x13 [.M, .VX] .float64 .oneScalar mem,
   legacy "Unpcklpd_VX_WX" .p66 0x14 [.VX, .WX] .packed128Float64,
   legacy "Unpcklps_VX_WX" .np 0x14 [.VX, .WX] .packed128Float32,
   vex "VEX_Vunpcklps_VX_HX_WX" .nds .v128 .none .any 0x14 [.VX, .HX, .WX] .packed128Float32,
   vex "VEX_Vunpcklps_VY_HY_WY" .nds .v256 .none .any 0x14 [.VY, .HY, .WY] .packed256Float32,
   vex "VEX_Vunpcklpd_VX_HX_WX" .nds .v128 .p66 .any 0x14 [.VX, .HX, .WX] .packed128Float64,
   vex "VEX_Vunpcklpd_VY_HY_WY" .nds .v256 .p66 .any 0x14 [.VY, .HY, .WY] .packed256Float64,
   full "EVEX_Vunpcklps_VX_k1z_HX_WX_b" .nds .v128 .none .clear 0x14 [.VX, .HX, .WX] .float32,
   full "EVEX_Vunpcklps_VY_k1z_HY_WY_b" .nds .v256 .none .clear 0x14 [.VY, .HY, .WY] .float32,
   full "EVEX_Vunpcklps_VZ_k1z_HZ_WZ_b" .nds .v512 .none .clear 0x14 [.VZ, .HZ, .WZ] .float32,
   full "EVEX_Vunpcklpd_VX_k1z_HX_WX_b" .nds .v128 .p66 .set 0x14 [.VX, .HX, .WX] .float64,
   full "EVEX_Vunpcklpd_VY_k1z_HY_WY_b" .nds .v256 .p66 .set 0x14 [.VY, .HY, .WY] .float64,
   full "EVEX_Vunpcklpd_VZ_k1z_HZ_WZ_b" .nds .v512 .p66 .set 0x14 [.VZ, .HZ, .WZ] .float64,
   legacy "Unpckhpd_VX_WX" .p66 0x15 [.VX, .WX] .packed128Float64,
   legacy "Unpckhps_VX_WX" .np 0x15 [.VX, .WX] .packed128Float32,
   vex "VEX_Vunpckhps_VX_HX_WX" .nds .v128 .none .any 0x15 [.VX, .HX, .WX] .packed128Float32,
   vex "VEX_Vunpckhps_VY_HY_WY" .nds .v256 .none .any 0x15 [.VY, .HY, .WY] .packed256Float32,
   vex "VEX_Vunpckhpd_VX_HX_WX" .nds .v128 .p66 .any 0x15 [.VX, .HX, .WX] .packed128Float64,
   vex "VEX_Vunpckhpd_VY_HY_WY" .nds .v256 .p66 .any 0x15 [.VY, .HY, .WY] .packed256Float64,
   full "EVEX_Vunpckhps_VX_k1z_HX_WX_b" .nds .v128 .none .clear 0x15 [.VX, .HX, .WX] .float32,
   full "EVEX_Vunpckhps_VY_k1z_HY_WY_b" .nds .v256 .none .clear 0x15 [.VY, .HY, .WY] .float32,
   full "EVEX_Vunpckhps_VZ_k1z_HZ_WZ_b" .nds .v512 .none .clear 0x15 [.VZ, .HZ, .WZ] .float32,
   full "EVEX_Vunpckhpd_VX_k1z_HX_WX_b" .nds .v128 .p66 .set 0x15 [.VX, .HX, .WX] .float64,
   full "EVEX_Vunpckhpd_VY_k1z_HY_WY_b" .nds .v256 .p66 .set 0x15 [.VY, .HY, .WY] .float64,
   full "EVEX_Vunpckhpd_VZ_k1z_HZ_WZ_b" .nds .v512 .p66 .set 0x15 [.VZ, .HZ, .WZ] .float64,
   legacy "Movhpd_VX_M" .p66 0x16 [.VX, .M] .float64 .all mem,
   legacy "Movshdup_VX_WX" .pF3 0x16 [.VX, .WX] .packed128Float32,
   legacy "Movlhps_VX_RX" .np 0x16 [.VX, .RX] .unknown .all reg,
   legacy "Movhps_VX_M" .np 0x16 [.VX, .M] .packed64Float32 .all mem,
   vex "VEX_Vmovlhps_VX_HX_RX" .nds .v128 .none .any 0x16 [.VX, .HX, .RX] .unknown .all reg,
   vex "VEX_Vmovhps_VX_HX_M" .nds .v128 .none .any 0x16 [.VX, .HX, .M] .packed64Float32 .all mem,
   vex "VEX_Vmovhpd_VX_HX_M" .nds .v128 .p66 .any 0x16 [.VX, .HX, .M] .float64 .all mem,
   vex "VEX_Vmovshdup_VX_WX" .plain .v128 .pF3 .any 0x16 [.VX, .WX] .packed128Float32,
   vex "VEX_Vmovshdup_VY_WY" .plain .v256 .pF3 .any 0x16 [.VY, .WY] .packed256Float32,
   evex "EVEX_Vmovlhps_VX_HX_RX" .nds .v128 .none .clear 0x16 [.VX, .HX, .RX] .unknown .two reg,
   evex "EVEX_Vmovhps_VX_HX_M" .nds .v128 .none .clear 0x16 [.VX, .HX, .M] .packed64Float32 .two
     mem,
   evex "EVEX_Vmovhpd_VX_HX_M" .nds .v128 .p66 .set 0x16 [.VX, .HX, .M] .float64 .oneScalar mem,
   fullMem "EVEX_Vmovshdup_VX_k1z_WX" .plain .v128 .pF3 .clear 0x16 [.VX, .WX] .float32,
   fullMem "EVEX_Vmovshdup_VY_k1z_WY" .plain .v256 .pF3 .clear 0x16 [.VY, .WY] .float32,
   fullMem "EVEX_Vmovshdup_VZ_k1z_WZ" .plain .v512 .pF3 .clear 0x16 [.VZ, .WZ] .float32,
   legacy "Movhpd_M_VX" .p66 0x17 [.M, .VX] .float64 .all mem,
   legacy "Movhps_M_VX" .np 0x17 [.M, .VX] .packed64Float32 .all mem,
   vex "VEX_Vmovhps_M_VX" .plain .v128 .none .any 0x17 [.M, .VX] .packed64Float32 .all mem,
   vex "VEX_Vmovhpd_M_VX" .plain .v128 .p66 .any 0x17 [.M, .VX] .float64 .all mem,
   evex "EVEX_Vmovhps_M_VX" .plain .v128 .none .clear 0x17 [.M, .VX] .packed64Float32 .two mem,
   evex "EVEX_Vmovhpd_M_VX" .plain .v128 .p66 .set 0x17 [.M, .VX] .float64 .oneScalar mem,
   group "Prefetchnta_Mb" .free 0x18 (.reg 0) [.Mb] .uint8 .all mem,
   group "Prefetcht0_Mb" .free 0x18 (.reg 1) [.Mb] .uint8 .all mem,
   group "Prefetcht1_Mb" .free 0x18 (.reg 2) [.Mb] .uint8 .all mem,
   group "Prefetcht2_Mb" .free 0x18 (.reg 3) [.Mb] .uint8 .all mem,
   group "Nop_Eq" .o64 0x1f (.reg 0) [.Eq] .uint64 .only64,
   group "Nop_Ew" .o16 0x1f (.reg 0) [.Ew] .uint16,
   group "Nop_Ed" .o32 0x1f (.reg 0) [.Ed] .uint32]

end X86Decoder.Table
