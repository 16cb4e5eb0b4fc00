/-!
# Groups of elements

Elements of a list that stand on lines of their own form groups, within which columns are aligned.
An element whose length is far from the mean of those before it starts a new group. The mean is
geometric, for a logarithm that is linear between powers of two.
-/

namespace X86Decoder.Source

/-- The elements of a group that have been written so far. -/
structure ElementGroup where
  /-- The number of bytes of the last element, or zero if it goes over several lines. -/
  last : Nat := 0
  /-- Whether the last element stands at the start of its line. -/
  startsLine : Bool := true
  /-- The number of elements in the group that do not go over several lines. -/
  count : Nat := 0
  /-- The sum of the logarithms of their lengths. -/
  logSum : Nat := 0

namespace ElementGroup

/-- The length up to which elements are short. Two short elements belong together. -/
def shortLimit : Nat := 40

/-- What stands for one in logarithms. -/
def logUnit : Nat := 1 <<< 32

/-- The binary logarithm of a positive number, in units of `logUnit`. Between powers of two it is
linear. -/
def log (n : Nat) : Nat :=
  n.log2 * logUnit + ((n - (1 <<< n.log2)) * logUnit) >>> n.log2

/-- The number of logarithms in the sum, in units of `logUnit`. -/
def scale (group : ElementGroup) : Nat :=
  group.count * logUnit

/-- The mean of the lengths in a group that has elements, times its `scale`. -/
def scaledMean (group : ElementGroup) : Nat :=
  (group.scale + group.logSum % group.scale) <<< (group.logSum / group.scale)

/-- Whether a length is far from the mean of the lengths in the group: at least two and a half times
as great or as small. -/
def isFar (group : ElementGroup) (length : Nat) : Bool :=
  let length := length * group.scale
  5 * group.scaledMean ≤ 2 * length || 5 * length ≤ 2 * group.scaledMean

/-- Whether an element of the given length starts a new group if it starts a line. An element after
one within a line does, and so do one that goes over several lines and the one after it. -/
def endsBefore (group : ElementGroup) (length : Nat) : Bool :=
  !group.startsLine || group.last == 0 || length == 0
    || (group.count != 0 && !(group.last ≤ shortLimit && length ≤ shortLimit)
      && group.isFar length)

/-- The group with one more element. -/
def add (group : ElementGroup) (length : Nat) (startsLine : Bool) : ElementGroup :=
  if length = 0 then { group with last := 0, startsLine }
  else
    { last := length, startsLine, count := group.count + 1
      logSum := group.logSum + log length }

end ElementGroup

end X86Decoder.Source
