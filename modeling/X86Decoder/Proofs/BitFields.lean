import Mathlib.Data.List.Induction
import X86Decoder.Proofs.ExtendedPrefix

/-!
# Packed fields are independent

The fields of a packed byte, or of a few of them, are read and written by shifts and masks. As long
as no two of them share a bit, each behaves like a variable of its own: whatever has been written,
it holds what was last written to it, and a bit of no field that was written stays as it is.

* `Bits.Place`: where a field stands, with how it is read and written there.
* `Packing`: a packed value with its fields and the writes to them.
* `Packing.Independent`: its fields behave like variables, over every history of writes.
* `Packing.Lawful.independent`: they do if they do not share bits.
* `packed_fields_independent`: REX, VEX and EVEX prefixes and ModR/M and SIB bytes.
-/

namespace X86Decoder

namespace Bits

/-- The bit of a byte at a position. -/
def bit (byte : UInt8) (i : Nat) : Bool :=
  byte.toBitVec.getLsbD i

theorem eq_of_bit {a b : UInt8} (h : ∀ i < 8, bit a i = bit b i) : a = b := by
  rw [← UInt8.toBitVec_inj]
  exact BitVec.eq_of_getLsbD_eq h

theorem bit_and (a b : UInt8) (i : Nat) : bit (a &&& b) i = (bit a i && bit b i) := by
  simp [bit]

/-- Bytes without a common bit. -/
theorem bit_eq_false_of_and_eq_zero {a b : UInt8} (h : a &&& b = 0) {i : Nat}
    (hb : bit b i = true) : bit a i = false := by
  have hand : bit (a &&& b) i = bit 0 i := by rw [h]
  rw [bit_and, hb, Bool.and_true] at hand
  rw [hand]
  simp [bit]

/-- A bit is a run of one. -/
theorem set_eq_setRun (byte keep i : UInt8) (v : Bool) :
    set byte keep i v = setRun byte keep i 1 (ofBool v) := by
  cases v <;> rfl

theorem ofBool_get (byte i : UInt8) : ofBool (get byte i) = getRun byte i 1 :=
  eq_of_beq (of_all_bytes (fun b => ofBool (b &&& 1 == 1) == b &&& 1) (by decide) (byte >>> i))

theorem bit_getRun {low : UInt8} (hlow : low.toNat < 8) (byte mask : UInt8) (i : Nat) :
    bit (getRun byte low mask) i = (bit byte (low.toNat + i) && bit mask i) := by
  simp [bit, getRun, Nat.mod_eq_of_lt hlow]

theorem bit_shiftLeft {low : UInt8} (hlow : low.toNat < 8) (byte : UInt8) {i : Nat} (hi : i < 8) :
    bit (byte <<< low) i = (decide (low.toNat ≤ i) && bit byte (i - low.toNat)) := by
  rw [bit, UInt8.toBitVec_shiftLeft, BitVec.shiftLeft_eq', BitVec.getLsbD_shiftLeft]
  simp [Nat.mod_eq_of_lt hlow, hi, bit, ← decide_not]

/-- A write to a run changes the bits of the run, and no others. -/
theorem bit_setRun {low : UInt8} (hlow : low.toNat < 8) (byte mask v : UInt8) {i : Nat}
    (hi : i < 8) :
    bit (setRun byte (~~~(mask <<< low)) low mask v) i =
      if bit (mask <<< low) i then bit v (i - low.toNat) else bit byte i := by
  have hor : bit (setRun byte (~~~(mask <<< low)) low mask v) i =
      (bit byte i && !bit (mask <<< low) i || bit ((v &&& mask) <<< low) i) := by
    simp [bit, setRun, hi]
  -- The run is cleared before the value is put in, so its old bits do not show through.
  rw [hor, bit_shiftLeft hlow _ hi, bit_shiftLeft hlow _ hi, bit_and]
  cases decide (low.toNat ≤ i) <;> cases bit mask (i - low.toNat) <;> simp

/-- Where a field stands: in which byte, from which bit on and how wide, as a mask. -/
structure Place where
  byte : Nat
  low : UInt8
  mask : UInt8

namespace Place

/-- The bits of the byte that belong to the field. -/
def span (p : Place) : UInt8 :=
  p.mask <<< p.low

/-- The value of the field. -/
def read (p : Place) (bytes : List UInt8) : UInt8 :=
  getRun (bytes.getD p.byte 0) p.low p.mask

/-- The bytes with a value in the field, and all other bits kept. -/
def write (p : Place) (bytes : List UInt8) (v : UInt8) : List UInt8 :=
  bytes.modify p.byte fun byte => setRun byte (~~~p.span) p.low p.mask v

/-- The field lies within its byte. -/
def Fits (p : Place) : Prop :=
  p.low.toNat < 8 ∧ p.span >>> p.low = p.mask
deriving Decidable

/-- Two fields have no bit in common. -/
def Apart (p q : Place) : Prop :=
  p.byte ≠ q.byte ∨ p.span &&& q.span = 0
deriving Decidable

variable {p q : Place}

/-- The bits of a field are those of its mask, moved to its place. -/
theorem Fits.bit_mask (h : p.Fits) (i : Nat) : bit p.mask i = bit p.span (p.low.toNat + i) := by
  rw [← h.2]
  simp [bit, Nat.mod_eq_of_lt h.1]

/-- A write changes no bit outside its field. -/
theorem bit_write (hp : p.Fits) (bytes : List UInt8) (v : UInt8) {k i : Nat} (hi : i < 8)
    (h : p.byte = k → bit p.span i = false) :
    bit ((p.write bytes v).getD k 0) i = bit (bytes.getD k 0) i := by
  rw [write, List.getD_eq_getElem?_getD, List.getD_eq_getElem?_getD, List.getElem?_modify]
  split
  next hk =>
    cases bytes[k]? with
    | none => rfl
    | some byte =>
      change bit (setRun byte (~~~p.span) p.low p.mask v) i = bit byte i
      rw [span, bit_setRun hp.1 byte p.mask v hi, ← span, h hk]
      rfl
  next => rw [id_map']

/-- A write leaves the other fields alone. -/
theorem read_write_of_apart (hp : p.Fits) (hq : q.Fits) (h : p.Apart q) (bytes : List UInt8)
    (v : UInt8) : q.read (p.write bytes v) = q.read bytes := by
  refine eq_of_bit fun i _ => ?_
  rw [read, read, bit_getRun hq.1, bit_getRun hq.1, hq.bit_mask i]
  cases hspan : bit q.span (q.low.toNat + i) with
  | false => rw [Bool.and_false, Bool.and_false]
  | true =>
    -- A bit of `q` is no bit of `p`, be it in the same byte.
    rw [bit_write hp bytes v (BitVec.lt_of_getLsbD hspan)]
    intro hbyte
    exact bit_eq_false_of_and_eq_zero (h.resolve_left (not_not_intro hbyte)) hspan

/-- A field holds what is written to it, as far as it fits. -/
theorem read_write_self (hp : p.Fits) {bytes : List UInt8} (hlt : p.byte < bytes.length)
    (v : UInt8) : p.read (p.write bytes v) = v &&& p.mask := by
  refine eq_of_bit fun i _ => ?_
  have hbyte : (p.write bytes v).getD p.byte 0 =
      setRun (bytes.getD p.byte 0) (~~~p.span) p.low p.mask v := by
    simp [write, hlt]
  rw [read, hbyte, bit_getRun hp.1, bit_and, hp.bit_mask i]
  cases hspan : bit p.span (p.low.toNat + i) with
  | false => rw [Bool.and_false, Bool.and_false]
  | true =>
    rw [span, bit_setRun hp.1 _ p.mask v (BitVec.lt_of_getLsbD hspan), ← span, hspan]
    simp

end Place

end Bits

open Bits (Place bit)

/-- A packed value: its bytes, its fields with their places, and the writes to them. One write may
go to several fields. -/
structure Packing (σ υ φ : Type) where
  size : Nat
  bytes : σ → List UInt8
  get : σ → φ → UInt8
  apply : σ → υ → σ
  place : φ → Place
  writes : υ → List (φ × UInt8)

namespace Packing

section

variable {σ υ φ : Type} (P : Packing σ υ φ)

/-- The bytes after a list of writes to single fields. -/
def write (bytes : List UInt8) (ws : List (φ × UInt8)) : List UInt8 :=
  ws.foldl (fun bytes w => (P.place w.1).write bytes w.2) bytes

/-- What makes fields independent: they are read and written in their places, and these do not
overlap. -/
structure Lawful : Prop where
  length_bytes : ∀ s, (P.bytes s).length = P.size
  get_eq : ∀ s f, P.get s f = (P.place f).read (P.bytes s)
  bytes_apply : ∀ s u, P.bytes (P.apply s u) = P.write (P.bytes s) (P.writes u)
  byte_lt : ∀ f, (P.place f).byte < P.size
  fits : ∀ f, (P.place f).Fits
  apart : ∀ f g, f ≠ g → (P.place f).Apart (P.place g)

variable {P}

theorem write_concat (bytes : List UInt8) (ws : List (φ × UInt8)) (w : φ × UInt8) :
    P.write bytes (ws ++ [w]) = (P.place w.1).write (P.write bytes ws) w.2 :=
  List.foldl_append

theorem length_write (bytes : List UInt8) (ws : List (φ × UInt8)) :
    (P.write bytes ws).length = bytes.length := by
  induction ws using List.reverseRecOn with
  | nil => rfl
  | append_singleton ws w ih => rw [write_concat, Place.write, List.length_modify, ih]

/-- A history of writes is a list of writes to single fields. -/
theorem Lawful.bytes_foldl (h : P.Lawful) (s : σ) (history : List υ) :
    P.bytes (history.foldl P.apply s) = P.write (P.bytes s) (history.flatMap P.writes) := by
  induction history generalizing s with
  | nil => rfl
  | cons u history ih =>
    rw [List.foldl_cons, ih, h.bytes_apply, List.flatMap_cons, write, write, write,
      List.foldl_append]

end

variable {σ υ φ : Type} [DecidableEq φ] (P : Packing σ υ φ)

/-- The last value that was written to a field, cut to its width. -/
def last? (history : List υ) (f : φ) : Option UInt8 :=
  ((history.flatMap P.writes).filter (·.1 = f)).getLast?.map (·.2 &&& (P.place f).mask)

/-- Fields behave like variables. After a history of writes, a field has the value that was last
written to it, or the one it had before, and a bit that is in no field written to is unchanged. -/
def Independent : Prop :=
  ∀ (start : σ) (history : List υ),
    (∀ f, P.get (history.foldl P.apply start) f = (P.last? history f).getD (P.get start f)) ∧
    ∀ k, ∀ i < 8, (∀ w ∈ history.flatMap P.writes,
        (P.place w.1).byte = k → bit (P.place w.1).span i = false) →
      bit ((P.bytes (history.foldl P.apply start)).getD k 0) i = bit ((P.bytes start).getD k 0) i

variable {P}

/-- Fields that do not share bits are independent. -/
theorem Lawful.independent (h : P.Lawful) : P.Independent := by
  intro start history
  simp only [h.get_eq, h.bytes_foldl, last?]
  have hstart := h.length_bytes start
  generalize P.bytes start = bytes at hstart ⊢
  -- Both parts are by induction on the writes to single fields, from the last one back.
  generalize history.flatMap P.writes = ws
  constructor
  · intro f
    induction ws using List.reverseRecOn with
    | nil => rfl
    | append_singleton ws w ih =>
      rw [write_concat, List.filter_append]
      by_cases hw : w.1 = f
      · -- The last write is to the field itself, and those before it do not matter.
        subst hw
        have hlt : (P.place w.1).byte < (P.write bytes ws).length := by
          rw [length_write, hstart]
          exact h.byte_lt w.1
        rw [Place.read_write_self (h.fits w.1) hlt]
        simp
      · rw [Place.read_write_of_apart (h.fits w.1) (h.fits f) (h.apart w.1 f hw), ih]
        simp [hw]
  · intro k i hi hws
    induction ws using List.reverseRecOn with
    | nil => rfl
    | append_singleton ws w ih =>
      rw [List.forall_mem_append] at hws
      rw [write_concat,
        Place.bit_write (h.fits w.1) _ w.2 hi (hws.2 w (List.mem_singleton_self w)), ih hws.1]

end Packing

namespace Rex

/-- The fields of a REX prefix. -/
inductive Field where
  | on | w | r | x | b
deriving DecidableEq

/-- The layout of a REX prefix. -/
def packing : Packing Rex Update Field where
  size := 1
  bytes rex := [rex.byte]
  get rex
    | .on => Bits.ofBool rex.on
    | .w => Bits.ofBool rex.w
    | .r => Bits.ofBool rex.r
    | .x => Bits.ofBool rex.x
    | .b => Bits.ofBool rex.b
  apply := apply
  place
    | .on => ⟨0, 6, 1⟩
    | .w => ⟨0, 3, 1⟩
    | .r => ⟨0, 2, 1⟩
    | .x => ⟨0, 1, 1⟩
    | .b => ⟨0, 0, 1⟩
  writes
    | .on => [(.on, 1)]
    | .w v => [(.w, Bits.ofBool v)]
    | .r v => [(.r, Bits.ofBool v)]
    | .x v => [(.x, Bits.ofBool v)]
    | .b v => [(.b, Bits.ofBool v)]

theorem lawful_packing : packing.Lawful where
  length_bytes _ := rfl
  get_eq rex f := by cases f <;> exact Bits.ofBool_get _ _
  bytes_apply rex u := by
    cases u with
    | on =>
      -- Setting a bit that is always set needs no mask.
      have hall := Bits.of_all_bytes (fun b =>
        b ||| (1 : UInt8) <<< 6 == Bits.setRun b 0b10111111 6 1 1) (by decide) rex.byte
      exact congrArg ([·]) (eq_of_beq hall)
    | w v | r v | x v | b v =>
      -- The masks are the complements of the spans, by evaluation.
      simp only [packing, apply, Packing.write, Place.write, Place.span, Bits.set_eq_setRun,
        List.foldl_cons, List.foldl_nil]
      rfl
  byte_lt f := by cases f <;> decide
  fits f := by cases f <;> decide
  apart f g := by cases f <;> cases g <;> decide

end Rex

namespace ModRM

/-- The fields of a ModR/M byte. -/
inductive Field where
  | mod | reg | rm
deriving DecidableEq

/-- The layout of a ModR/M byte. -/
def packing : Packing ModRM Update Field where
  size := 1
  bytes m := [m.byte]
  get m
    | .mod => m.mod
    | .reg => m.reg
    | .rm => m.rm
  apply := apply
  place
    | .mod => ⟨0, 6, 0b11⟩
    | .reg => ⟨0, 3, 0b111⟩
    | .rm => ⟨0, 0, 0b111⟩
  writes
    | .mod v => [(.mod, v)]
    | .reg v => [(.reg, v)]
    | .rm v => [(.rm, v)]

theorem lawful_packing : packing.Lawful where
  length_bytes _ := rfl
  get_eq m f := by cases f <;> rfl
  bytes_apply m u := by
    cases u <;> simp only [packing, apply, Packing.write, Place.write, Place.span,
      List.foldl_cons, List.foldl_nil] <;> rfl
  byte_lt f := by cases f <;> decide
  fits f := by cases f <;> decide
  apart f g := by cases f <;> cases g <;> decide

end ModRM

namespace Sib

/-- The fields of a SIB byte. -/
inductive Field where
  | scale | index | base
deriving DecidableEq

/-- The layout of a SIB byte. -/
def packing : Packing Sib Update Field where
  size := 1
  bytes s := [s.byte]
  get s
    | .scale => s.scale
    | .index => s.index
    | .base => s.base
  apply := apply
  place
    | .scale => ⟨0, 6, 0b11⟩
    | .index => ⟨0, 3, 0b111⟩
    | .base => ⟨0, 0, 0b111⟩
  writes
    | .scale v => [(.scale, v)]
    | .index v => [(.index, v)]
    | .base v => [(.base, v)]

theorem lawful_packing : packing.Lawful where
  length_bytes _ := rfl
  get_eq s f := by cases f <;> rfl
  bytes_apply s u := by
    cases u <;> simp only [packing, apply, Packing.write, Place.write, Place.span,
      List.foldl_cons, List.foldl_nil] <;> rfl
  byte_lt f := by cases f <;> decide
  fits f := by cases f <;> decide
  apart f g := by cases f <;> cases g <;> decide

end Sib

namespace Vex

/-- The fields of a VEX prefix. -/
inductive Field where
  | r | x | b | mmmmm | w | vvvv | l | pp
deriving DecidableEq

/-- The layout of a VEX prefix. -/
def packing : Packing Vex Update Field where
  size := 2
  bytes v := [v.p0, v.p1]
  get v
    | .r => Bits.ofBool v.r
    | .x => Bits.ofBool v.x
    | .b => Bits.ofBool v.b
    | .mmmmm => v.mmmmm
    | .w => Bits.ofBool v.w
    | .vvvv => v.vvvv
    | .l => Bits.ofBool v.l
    | .pp => v.pp
  apply := apply
  place
    | .r => ⟨0, 7, 1⟩
    | .x => ⟨0, 6, 1⟩
    | .b => ⟨0, 5, 1⟩
    | .mmmmm => ⟨0, 0, 0b11111⟩
    | .w => ⟨1, 7, 1⟩
    | .vvvv => ⟨1, 3, 0b1111⟩
    | .l => ⟨1, 2, 1⟩
    | .pp => ⟨1, 0, 0b11⟩
  writes
    | .r v => [(.r, Bits.ofBool v)]
    | .x v => [(.x, Bits.ofBool v)]
    | .b v => [(.b, Bits.ofBool v)]
    | .mmmmm v => [(.mmmmm, v)]
    | .w v => [(.w, Bits.ofBool v)]
    | .vvvv v => [(.vvvv, v)]
    | .l v => [(.l, Bits.ofBool v)]
    | .pp v => [(.pp, v)]
    | .default => [(.r, 1), (.x, 1), (.b, 1), (.vvvv, 0b1111)]

theorem lawful_packing : packing.Lawful where
  length_bytes _ := rfl
  get_eq v f := by
    cases f <;> simp [packing, Place.read, Bits.ofBool_get, r, x, b, mmmmm, w, vvvv, l, pp]
  bytes_apply v u := by
    cases u <;> simp only [packing, apply, Packing.write, Place.write, Place.span,
      Bits.set_eq_setRun, List.foldl_cons, List.foldl_nil] <;> rfl
  byte_lt f := by cases f <;> decide
  fits f := by cases f <;> decide
  apart f g := by cases f <;> cases g <;> decide

end Vex

namespace Evex

/-- The fields of an EVEX prefix. -/
inductive Field where
  | r | x | b | rHigh | mm | w | vvvv | on | pp | z | lHigh | l | broadcast | vHigh | aaa
deriving DecidableEq

/-- The layout of an EVEX prefix. -/
def packing : Packing Evex Update Field where
  size := 3
  bytes e := [e.p0, e.p1, e.p2]
  get e
    | .r => Bits.ofBool e.r
    | .x => Bits.ofBool e.x
    | .b => Bits.ofBool e.b
    | .rHigh => Bits.ofBool e.rHigh
    | .mm => e.mm
    | .w => Bits.ofBool e.w
    | .vvvv => e.vvvv
    | .on => Bits.ofBool e.on
    | .pp => e.pp
    | .z => Bits.ofBool e.z
    | .lHigh => Bits.ofBool e.lHigh
    | .l => Bits.ofBool e.l
    | .broadcast => Bits.ofBool e.broadcast
    | .vHigh => Bits.ofBool e.vHigh
    | .aaa => e.aaa
  apply := apply
  place
    | .r => ⟨0, 7, 1⟩
    | .x => ⟨0, 6, 1⟩
    | .b => ⟨0, 5, 1⟩
    | .rHigh => ⟨0, 4, 1⟩
    | .mm => ⟨0, 0, 0b11⟩
    | .w => ⟨1, 7, 1⟩
    | .vvvv => ⟨1, 3, 0b1111⟩
    | .on => ⟨1, 2, 1⟩
    | .pp => ⟨1, 0, 0b11⟩
    | .z => ⟨2, 7, 1⟩
    | .lHigh => ⟨2, 6, 1⟩
    | .l => ⟨2, 5, 1⟩
    | .broadcast => ⟨2, 4, 1⟩
    | .vHigh => ⟨2, 3, 1⟩
    | .aaa => ⟨2, 0, 0b111⟩
  writes
    | .r v => [(.r, Bits.ofBool v)]
    | .x v => [(.x, Bits.ofBool v)]
    | .b v => [(.b, Bits.ofBool v)]
    | .rHigh v => [(.rHigh, Bits.ofBool v)]
    | .mm v => [(.mm, v)]
    | .w v => [(.w, Bits.ofBool v)]
    | .vvvv v => [(.vvvv, v)]
    | .on v => [(.on, Bits.ofBool v)]
    | .pp v => [(.pp, v)]
    | .z v => [(.z, Bits.ofBool v)]
    | .lHigh v => [(.lHigh, Bits.ofBool v)]
    | .l v => [(.l, Bits.ofBool v)]
    | .broadcast v => [(.broadcast, Bits.ofBool v)]
    | .vHigh v => [(.vHigh, Bits.ofBool v)]
    | .aaa v => [(.aaa, v)]
    | .default =>
      [(.r, 1), (.x, 1), (.b, 1), (.rHigh, 1), (.vvvv, 0b1111), (.vHigh, 1), (.on, 1)]

theorem lawful_packing : packing.Lawful where
  length_bytes _ := rfl
  get_eq e f := by
    cases f <;> simp [packing, Place.read, Bits.ofBool_get, r, x, b, rHigh, mm, w, vvvv, on, pp, z,
      lHigh, l, broadcast, vHigh, aaa]
  bytes_apply e u := by
    cases u <;> simp only [packing, apply, Packing.write, Place.write, Place.span,
      Bits.set_eq_setRun, List.foldl_cons, List.foldl_nil] <;> rfl
  byte_lt f := by cases f <;> decide
  fits f := by cases f <;> decide
  apart f g := by cases f <;> cases g <;> decide

/-- No write goes to the bits that must be zero. -/
theorem reserved_foldl (e : Evex) (history : List Update) :
    (history.foldl apply e).reserved = e.reserved := by
  refine Bits.eq_of_bit fun i hi => ?_
  rw [reserved, reserved, Bits.bit_and, Bits.bit_and]
  cases hmask : bit 0b1100 i with
  | false => rw [Bool.and_false, Bool.and_false]
  | true =>
    have hfree : ∀ f, (packing.place f).byte = 0 → bit (packing.place f).span i = false := by
      intro f hbyte
      have hapart : (packing.place f).span &&& 0b1100 = 0 := by
        revert hbyte
        cases f <;> decide
      exact Bits.bit_eq_false_of_and_eq_zero hapart hmask
    rw [Bool.and_true, Bool.and_true]
    exact (lawful_packing.independent e history).2 0 i hi fun w _ => hfree w.1

end Evex

/-- The fields of all packed bytes are independent over every history of writes. The vector length
of an EVEX prefix is made of its two bits, and its reserved bits stay as they are. A VEX prefix that
has a two-byte form can be read back from it. -/
theorem packed_fields_independent :
    (Rex.packing.Independent ∧ ModRM.packing.Independent ∧ Sib.packing.Independent ∧
      Vex.packing.Independent ∧ Evex.packing.Independent) ∧
    (∀ e : Evex, e.ll.toNat = 2 * (Bits.ofBool e.lHigh).toNat + (Bits.ofBool e.l).toNat) ∧
    (∀ (e : Evex) (history : List Evex.Update),
      (history.foldl Evex.apply e).reserved = e.reserved) ∧
    ∀ v : Vex, v.hasShort → ∃ payload, v.short = [0xc5, payload] ∧ Vex.ofShort payload = v := by
  refine ⟨⟨Rex.lawful_packing.independent, ModRM.lawful_packing.independent,
    Sib.lawful_packing.independent, Vex.lawful_packing.independent,
    Evex.lawful_packing.independent⟩, fun e => ?_, Evex.reserved_foldl, fun v hshort => ?_⟩
  · rw [Evex.ll]
    cases e.lHigh <;> cases e.l <;> rfl
  · exact ⟨v.shortPayload, v.short_eq, Vex.ofShort_shortPayload hshort⟩

end X86Decoder
