import X86Decoder.Text.Numeral

/-!
# Tuples

The tuple of an EVEX instruction determines the unit by which its 8-bit displacement is
multiplied.
-/

namespace X86Decoder

/-- How an EVEX instruction accesses memory. -/
inductive Tuple where
  | none
  | full
  | half
  | fullMem
  | oneScalar
  | oneFixed
  | two
  | four
  | eight
  | halfMem
  | quarterMem
  | eighthMem
  | mem128
  | movddup
deriving DecidableEq

namespace Tuple

/-- The tuples in the order of their numbers. -/
def all : List Tuple :=
  [none, full, half, fullMem, oneScalar, oneFixed, two, four, eight, halfMem, quarterMem,
   eighthMem, mem128, movddup]

/-- The name of a tuple. -/
def name : Tuple → String
  | none => "None"
  | full => "Full"
  | half => "Half"
  | fullMem => "Full Mem"
  | oneScalar => "Tuple1 Scalar"
  | oneFixed => "Tuple1 Fixed"
  | two => "Tuple2"
  | four => "Tuple4"
  | eight => "Tuple8"
  | halfMem => "Half Mem"
  | quarterMem => "Quarter Mem"
  | eighthMem => "Eighth Mem"
  | mem128 => "Mem128"
  | movddup => "MOVDDUP"

/-- What a tuple number is called. -/
def describe (n : UInt8) : String :=
  match all[n.toNat]? with
  | some tuple => tuple.name
  | .none => "TupleType(" ++ Text.decimal n.toNat ++ ")"

/-- The tuple with the given name; an empty name is no tuple. -/
def ofName? (name : String) : Option Tuple :=
  if name == "" then some none else all.find? fun tuple => tuple.name == name

/-- The unit of an 8-bit displacement. `vectorBits` is the vector length, and `elementSize`
overrides the element size that W selects for the scalar tuples when it is not zero. -/
def unit (tuple : Tuple) (vectorBits elementSize : Int) (w broadcast : Bool) : Int :=
  let input : Int := if w then 8 else 4
  let vector := vectorBits.tdiv 8
  match tuple with
  | none => 1
  | full => if broadcast then input else vector
  | half => if broadcast then 4 else vector.tdiv 2
  | fullMem => vector
  | oneScalar | oneFixed => if elementSize = 0 then input else elementSize
  | two => input * 2
  | four => input * 4
  | eight => 32
  | halfMem => vector.tdiv 2
  | quarterMem => vector.tdiv 4
  | eighthMem => vector.tdiv 8
  | mem128 => 16
  | movddup => if vectorBits = 128 then 8 else vector

end Tuple

/-- The tuple of a form, with the vector length it applies to and the element size of the scalar
tuples, both zero where they are not known. -/
structure TupleScale where
  /-- The tuple. -/
  tuple : Tuple := .none
  /-- The vector length in bits, or zero. -/
  vectorBits : Int := 0
  /-- The element size in bytes, or zero. -/
  elementSize : Int := 0
deriving DecidableEq

end X86Decoder
