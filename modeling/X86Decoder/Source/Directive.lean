import X86Decoder.Text.Integer

/-!
# Position directives

An enclosed comment that starts with the word `line` and a blank names a position: a file, a line
and perhaps a column, with colons between them. What follows the comment counts as standing there.
-/

namespace X86Decoder.Source.Directive

/-- What stands before and after the last colon, if there is one. -/
def cutLastColon? (cs : List Char) : Option (List Char × List Char) :=
  match cs.reverse.dropWhile (· != ':') with
  | [] => none
  | _ :: before => some (before.reverse, (cs.reverse.takeWhile (· != ':')).reverse)

/-- The unsigned 64-bit integer with the given decimal digits. -/
def number? (digits : List Char) : Option Nat :=
  if digits.isEmpty then none else (Text.digitsFrom 10 Text.unsignedLimit false 0 digits).toOption

/-- Whether a number can be that of a line or a column: it is not zero, and not above `2 ^ 30` as a
signed integer. -/
def isInRange (n : Nat) : Bool :=
  n != 0 && (decide (n ≤ 0x40000000) || decide (0x8000000000000000 ≤ n))

/-- The line that a 64-bit number stands for as a signed integer. -/
def signed (n : Nat) : Int :=
  if 0x8000000000000000 ≤ n then (n : Int) - 0x10000000000000000 else n

/-- The line that a position names, if it names any. There is no result if its numbers are out of
order. -/
def line? (cs : List Char) : Option (Option Int) :=
  match cutLastColon? cs with
  | none => some none
  | some (before, last) => do
    let last ← number? last
    if !isInRange last then none
    else
      match (cutLastColon? before).bind fun (_, line) => number? line with
      | some line => if isInRange line then some (some (signed line)) else none
      | none => some (some (signed last))

/-- The line that an enclosed comment with the given characters names, if it names any. -/
def ofComment? (body : List Char) : Option (Option Int) :=
  if "line ".toList.isPrefixOf body then line? (body.drop 5) else some none

end X86Decoder.Source.Directive
