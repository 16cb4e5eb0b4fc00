import X86Decoder.Text.Integer

/-!
# What plain text reads as

Text without quotes may read as something other than a string: as nothing, a truth value, a number
or a point in time. Such text has to be quoted. The older spellings of truth values and numbers in
base 60 are quoted too.
-/

namespace X86Decoder.Plain

/-- The words that read as nothing or as a truth value. -/
def keywords : List String :=
  ["", "~", "null", "Null", "NULL", "true", "True", "TRUE", "false", "False", "FALSE"]

/-- The older words for truth values. -/
def oldTruthValues : List String :=
  ["y", "Y", "yes", "Yes", "YES", "on", "On", "ON", "n", "N", "no", "No", "NO", "off", "Off", "OFF"]

/-- The words that read as infinity or as no number. -/
def specialFloats : List String :=
  [".nan", ".NaN", ".NAN", ".inf", ".Inf", ".INF", "+.inf", "+.Inf", "+.INF", "-.inf", "-.Inf",
   "-.INF"]

/-! ### Integers -/

/-- Whether digits of a base are an unsigned 64-bit integer. -/
def isNatIn (base : Nat) (cs : List Char) : Bool :=
  !cs.isEmpty && (Text.digitsFrom base Text.unsignedLimit false 0 cs).isOk

/-- Whether digits of a base with a sign are a signed 64-bit integer. -/
def isIntIn (base : Nat) (cs : List Char) : Bool :=
  let (negative, digits) := Text.splitSign cs
  !digits.isEmpty
    && match Text.digitsFrom base Text.unsignedLimit false 0 digits with
      | .ok n => if negative then decide (n ≤ Text.signedLimit)
        else decide (n < Text.signedLimit)
      | .error _ => false

/-- Whether what follows the mark of a base is an integer in it. -/
def isMarkedInt (mark : String) (base : Nat) (cs : List Char) : Bool :=
  if mark.toList.isPrefixOf cs then
    isIntIn base (cs.drop mark.length) || isNatIn base (cs.drop mark.length)
  else if ("-" ++ mark).toList.isPrefixOf cs then isIntIn base ('-' :: cs.drop (mark.length + 1))
  else false

/-- Whether text without underscores reads as an integer. -/
def isInteger (cs : List Char) : Bool :=
  (Text.signedChars true cs).isOk || (Text.unsignedChars true cs).isOk
    || isMarkedInt "0b" 2 cs || isMarkedInt "0o" 8 cs

/-! ### Numbers with a fraction or an exponent -/

/-- The parts of a number: the digits before and after the point, and the exponent. -/
structure Decimal where
  /-- The digits, those after the point included. -/
  digits : List Char
  /-- The power of ten that the digits are multiplied by. -/
  exponent : Int

/-- The value of decimal digits. -/
def valueOf (digits : List Char) : Nat :=
  digits.foldl (fun n c => 10 * n + (c.toNat - '0'.toNat)) 0

/-- The value of the digits of an exponent. Once it is ten thousand or more, further digits are
passed over. -/
def exponentOf (digits : List Char) : Nat :=
  digits.foldl (fun n c => if n < 10000 then 10 * n + (c.toNat - '0'.toNat) else n) 0

/-- Read an exponent, which may be missing. -/
def exponent? (cs : List Char) : Option Int :=
  match cs with
  | [] => some 0
  | c :: rest =>
    if c == 'e' || c == 'E' then
      let (negative, digits) := Text.splitSign rest
      if !digits.isEmpty && digits.all Char.isDigit then
        some (if negative then -(exponentOf digits : Int) else exponentOf digits)
      else none
    else none

/-- Read a number in decimal: digits with a point within, in front or behind, and an exponent. -/
def decimal? (cs : List Char) : Option Decimal :=
  let (_, cs) := Text.splitSign cs
  let whole := cs.takeWhile Char.isDigit
  let (fraction, rest) :=
    match cs.dropWhile Char.isDigit with
    | '.' :: rest => (rest.takeWhile Char.isDigit, rest.dropWhile Char.isDigit)
    | rest => ([], rest)
  if whole.isEmpty && fraction.isEmpty then none
  else (exponent? rest).map fun e => ⟨whole ++ fraction, e - fraction.length⟩

/-- The middle between the greatest finite 64-bit float and the power of two above it. -/
def floatLimit : Nat :=
  Nat.pow 2 1024 - Nat.pow 2 970

/-- Whether a number rounds to a finite 64-bit float. -/
def fitsFloat (d : Decimal) : Bool :=
  let digits := d.digits.dropWhile (· == '0')
  let magnitude := d.exponent + digits.length
  if digits.isEmpty || decide (magnitude < 300) then true
  else if 320 < magnitude then false
  else if d.exponent < 0 then
    decide (valueOf digits < floatLimit * Nat.pow 10 d.exponent.natAbs)
  else decide (valueOf digits * Nat.pow 10 d.exponent.natAbs < floatLimit)

/-- Whether text without underscores reads as a float. -/
def isFloat (cs : List Char) : Bool :=
  (decimal? cs).any fitsFloat

/-- Whether text that starts with a point reads as a float. Underscores may stand between digits. -/
def isPointFloat (cs : List Char) : Bool :=
  Text.underscoresFit false false false cs && isFloat (cs.filter (· != '_'))

/-! ### Points in time -/

/-- Read a number of one or two digits. -/
def shortNumber? (cs : List Char) : Option (Nat × List Char) :=
  match cs with
  | a :: b :: rest =>
    if a.isDigit then
      if b.isDigit then some (valueOf [a, b], rest) else some (valueOf [a], b :: rest)
    else none
  | [a] => if a.isDigit then some (valueOf [a], []) else none
  | [] => none

/-- Read a given character. -/
def expect? (c : Char) (cs : List Char) : Option (List Char) :=
  match cs with
  | d :: rest => if d = c then some rest else none
  | [] => none

/-- The number of days of a month. -/
def daysIn (year month : Nat) : Nat :=
  if month = 2 then
    if year % 4 = 0 ∧ (year % 100 ≠ 0 ∨ year % 400 = 0) then 29 else 28
  else if month = 4 ∨ month = 6 ∨ month = 9 ∨ month = 11 then 30
  else 31

/-- Read a date: a year of four digits, a month and a day. -/
def date? (cs : List Char) : Option (List Char) := do
  let year := cs.takeWhile Char.isDigit
  if year.length ≠ 4 then none
  else
    let rest ← expect? '-' (cs.drop 4)
    let (month, rest) ← shortNumber? rest
    let rest ← expect? '-' rest
    let (day, rest) ← shortNumber? rest
    if 1 ≤ month ∧ month ≤ 12 ∧ 1 ≤ day ∧ day ≤ daysIn (valueOf year) month then some rest else none

/-- Pass over a fraction of a second, if there is one. -/
def skipFraction (cs : List Char) : List Char :=
  match cs with
  | c :: d :: rest =>
    if (c == '.' || c == ',') && d.isDigit then rest.dropWhile Char.isDigit else cs
  | _ => cs

/-- Read a time of day. -/
def time? (cs : List Char) : Option (List Char) := do
  let (hour, rest) ← shortNumber? cs
  let rest ← expect? ':' rest
  let (minute, rest) ← shortNumber? rest
  let rest ← expect? ':' rest
  let (second, rest) ← shortNumber? rest
  if hour < 24 ∧ minute < 60 ∧ second < 60 then some (skipFraction rest) else none

/-- Whether text is a time zone: Z, or a sign, two digits for hours and two for minutes. -/
def isZone (cs : List Char) : Bool :=
  match cs with
  | ['Z'] => true
  | [sign, a, b, ':', c, d] =>
    (sign == '+' || sign == '-') && [a, b, c, d].all Char.isDigit
      && decide (valueOf [a, b] ≤ 24) && decide (valueOf [c, d] ≤ 60)
  | _ => false

/-- Whether text reads as a point in time. -/
def isTimestamp (cs : List Char) : Bool :=
  match date? cs with
  | none => false
  | some [] => true
  | some (c :: rest) =>
    if c == 'T' || c == 't' then (time? rest).any isZone
    else c == ' ' && (time? (rest.dropWhile (· == ' '))).any List.isEmpty

/-! ### All together -/

/-- Whether text is a number in base 60. -/
def isBase60 (cs : List Char) : Bool :=
  let (_, cs) := Text.splitSign cs
  match cs.head?, splitColons cs with
  | some c, first :: parts =>
    c.isDigit && first.all (fun c => c.isDigit || c == '_') && !parts.isEmpty
      && parts.dropLast.all isSixtieth && lastFits (parts.getLast?.getD [])
  | _, _ => false
where
  /-- The parts between colons. -/
  splitColons (cs : List Char) : List (List Char) :=
    match cs with
    | [] => [[]]
    | c :: rest =>
      match splitColons rest with
      | [] => [[]]
      | part :: parts => if c == ':' then [] :: part :: parts else (c :: part) :: parts
  /-- Whether a part is a number below 60 of one or two digits. -/
  isSixtieth (part : List Char) : Bool :=
    match part with
    | [a] => a.isDigit
    | [a, b] => '0' ≤ a && a ≤ '5' && b.isDigit
    | _ => false
  /-- Whether the last part is such a number, with a fraction at most. -/
  lastFits (part : List Char) : Bool :=
    match part.dropWhile (· != '.') with
    | [] => isSixtieth part
    | _ :: fraction =>
      isSixtieth (part.takeWhile (· != '.')) && fraction.all fun c => c.isDigit || c == '_'

/-- Whether plain text reads as a string and as nothing else. -/
def readsAsString (s : String) : Bool :=
  let cs := s.toList
  let number :=
    match cs with
    | [] => false
    | c :: _ =>
      if c == '.' then isPointFloat cs
      else if c == '+' || c == '-' || c.isDigit then
        let digits := cs.filter (· != '_')
        isTimestamp cs || isInteger digits || isFloat digits
      else false
  !(keywords.contains s || specialFloats.contains s || oldTruthValues.contains s || number
    || isBase60 cs)

end X86Decoder.Plain
