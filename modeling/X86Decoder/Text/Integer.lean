import X86Decoder.Text.Quoted

/-!
# Reading integers

Integers in decimal, and integers whose base is told by a mark in front: `0x`, `0o` or `0b`, or a
single zero for octal. Under a mark, digits may be grouped by underscores. Digits are read from the
left, so a bad digit is noticed before a later overflow, and an overflow before a later bad digit.
-/

namespace X86Decoder.Text

/-- Why text is not an integer. -/
inductive IntegerFault where
  | syntaxError
  | outOfRange
deriving DecidableEq

/-- What is said of a fault. -/
def IntegerFault.message : IntegerFault → String
  | .syntaxError => "invalid syntax"
  | .outOfRange => "value out of range"

/-- The value of a digit in bases up to 36. -/
def digitValue? (c : Char) : Option Nat :=
  if '0' ≤ c ∧ c ≤ '9' then some (c.toNat - '0'.toNat)
  else if 'a' ≤ c ∧ c ≤ 'z' then some (c.toNat - 'a'.toNat + 10)
  else if 'A' ≤ c ∧ c ≤ 'Z' then some (c.toNat - 'A'.toNat + 10)
  else none

/-- Read digits from the left onto a value that may not exceed `limit`. Where `grouped`, underscores
are passed over. -/
def digitsFrom (base limit : Nat) (grouped : Bool) (value : Nat) :
    List Char → Except IntegerFault Nat
  | [] => .ok value
  | c :: rest =>
    if grouped && c == '_' then digitsFrom base limit grouped value rest
    else
      match digitValue? c with
      | none => .error .syntaxError
      | some d =>
        if base ≤ d then .error .syntaxError
        else if limit < value * base + d then .error .outOfRange
        else digitsFrom base limit grouped (value * base + d) rest

/-- Whether each underscore stands between two digits. `hexDigits` admits the letters of hexadecimal
digits, and `afterDigit` and `afterUnderscore` tell what came before. -/
def underscoresFit (hexDigits afterDigit afterUnderscore : Bool) : List Char → Bool
  | [] => !afterUnderscore
  | c :: rest =>
    if c.isDigit || (hexDigits && (digitValue? c).any (· < 16)) then
      underscoresFit hexDigits true false rest
    else if c == '_' then afterDigit && underscoresFit hexDigits false true rest
    else !afterUnderscore && underscoresFit hexDigits false false rest

/-- The base that a mark in front of the digits tells, and the digits. -/
def markedBase (cs : List Char) : Nat × List Char :=
  match cs with
  | '0' :: c :: d :: rest =>
    if c == 'b' || c == 'B' then (2, d :: rest)
    else if c == 'o' || c == 'O' then (8, d :: rest)
    else if c == 'x' || c == 'X' then (16, d :: rest)
    else (8, c :: d :: rest)
  | '0' :: rest => (8, rest)
  | cs => (10, cs)

/-- Whether the underscores of an unsigned integer each stand between two digits; a base mark counts
as a digit. -/
def groupsFit (cs : List Char) : Bool :=
  match cs with
  | '0' :: c :: rest =>
    if c == 'x' || c == 'X' then underscoresFit true true false rest
    else if c == 'b' || c == 'B' || c == 'o' || c == 'O' then underscoresFit false true false rest
    else underscoresFit false false false cs
  | _ => underscoresFit false false false cs

/-- The greatest unsigned 64-bit integer. -/
def unsignedLimit : Nat := 0xffffffffffffffff

/-- The number of signed 64-bit integers that are not negative. -/
def signedLimit : Nat := 0x8000000000000000

/-- Read an unsigned 64-bit integer. Where `marked`, its base is told by a mark. -/
def unsignedChars (marked : Bool) (cs : List Char) : Except IntegerFault Nat :=
  if cs.isEmpty then .error .syntaxError
  else
    let (base, digits) := if marked then markedBase cs else (10, cs)
    match digitsFrom base unsignedLimit marked 0 digits with
    | .error e => .error e
    | .ok value =>
      if marked && digits.contains '_' && !groupsFit cs then .error .syntaxError else .ok value

/-- The sign and the rest of a signed integer. -/
def splitSign (cs : List Char) : Bool × List Char :=
  match cs with
  | '-' :: rest => (true, rest)
  | '+' :: rest => (false, rest)
  | cs => (false, cs)

/-- Read a signed 64-bit integer. Where `marked`, its base is told by a mark. -/
def signedChars (marked : Bool) (cs : List Char) : Except IntegerFault Int :=
  let (negative, digits) := splitSign cs
  match unsignedChars marked digits with
  | .error e => .error e
  | .ok n =>
    if negative then if signedLimit < n then .error .outOfRange else .ok (-(n : Int))
    else if signedLimit ≤ n then .error .outOfRange
    else .ok n

/-- Read a signed 64-bit integer in decimal. -/
def parseInt (s : String) : Except IntegerFault Int :=
  signedChars false s.toList

/-- Read a signed 64-bit integer whose base is told by a mark. -/
def parseMarkedInt (s : String) : Except IntegerFault Int :=
  signedChars true s.toList

/-- Read an unsigned 64-bit integer whose base is told by a mark. -/
def parseMarkedNat (s : String) : Except IntegerFault Nat :=
  unsignedChars true s.toList

/-- What is said of a decimal integer that cannot be read. -/
def intMessage (s : String) (fault : IntegerFault) : String :=
  "strconv.Atoi: parsing " ++ quoted s ++ ": " ++ fault.message

/-- What is said of an unsigned integer that cannot be read. -/
def natMessage (s : String) (fault : IntegerFault) : String :=
  "strconv.ParseUint: parsing " ++ quoted s ++ ": " ++ fault.message

end X86Decoder.Text
