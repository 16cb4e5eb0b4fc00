import X86Decoder.Document.Plain
import X86Decoder.Text.Integer

/-!
# TOML tokens

The scalars of a TOML text: strings, numbers, truth values and points in time, and the parts of
keys. Each reader takes the characters from the start of a token on and gives the token with the
characters after it, or nothing if there is no such token.
-/

namespace X86Decoder.Toml

/-- A scalar. Only strings and integers are put to use, so of the others the kind is enough. -/
inductive Scalar where
  | string (s : String)
  | integer (n : Int)
  | float
  | boolean
  | datetime
deriving DecidableEq

/-! ### Characters -/

/-- White space within a line. -/
def isSpace (c : Char) : Bool :=
  c == ' ' || c == '\t'

/-- The ends of lines. -/
def isNewline (c : Char) : Bool :=
  c == '\n' || c == '\r'

/-- The characters of keys without quotes. -/
def isKeyChar (c : Char) : Bool :=
  c.isAlphanum || c == '_' || c == '-'

/-- Hexadecimal digits. -/
def isHexDigit (c : Char) : Bool :=
  (Text.digitValue? c).any (· < 16)

/-- The characters after white space. -/
def skipSpaces (cs : List Char) : List Char :=
  cs.dropWhile isSpace

/-- The characters after white space and ends of lines. -/
def skipBlanks (cs : List Char) : List Char :=
  cs.dropWhile fun c => isSpace c || isNewline c

/-- The characters after a comment, up to the end of the line. -/
def skipComment (cs : List Char) : List Char :=
  cs.dropWhile fun c => !isNewline c

/-- Whether a text may be TOML at all: it has no control characters but tabs and ends of lines, no
replacement characters, and a carriage return stands before a line feed only. -/
def isCleanText : List Char → Bool
  | [] => true
  | c :: rest =>
    (if c == '\r' then rest.head? == some '\n'
      else c == '\t' || c == '\n'
        || (decide (0x20 ≤ c.toNat) && c.toNat != 0x7f && c.toNat != 0xfffd))
    && isCleanText rest

/-! ### Strings -/

/-- The character with the given number in hexadecimal digits, if there is one. -/
def unicode? (digits : List Char) : Option Char :=
  if digits.all isHexDigit then
    let n := digits.foldl (fun n c => 16 * n + (Text.digitValue? c).getD 0) 0
    if n.isValidChar then some (Char.ofNat n) else none
  else none

/-- The character that an escape with one letter stands for. -/
def escaped? (c : Char) : Option Char :=
  match c with
  | 'b' => some '\x08'
  | 't' => some '\t'
  | 'n' => some '\n'
  | 'f' => some '\x0c'
  | 'r' => some '\r'
  | '"' => some '"'
  | '\\' => some '\\'
  | _ => none

/-- Replace the escapes of a string. -/
def unescape : List Char → Option (List Char)
  | [] => some []
  | '\\' :: 'u' :: a :: b :: c :: d :: rest => do
    let char ← unicode? [a, b, c, d]
    let others ← unescape rest
    return char :: others
  | '\\' :: 'U' :: a :: b :: c :: d :: e :: f :: g :: h :: rest => do
    let char ← unicode? [a, b, c, d, e, f, g, h]
    let others ← unescape rest
    return char :: others
  | '\\' :: c :: rest => do
    let char ← escaped? c
    let others ← unescape rest
    return char :: others
  | '\\' :: [] => none
  | c :: rest => do
    let others ← unescape rest
    return c :: others

/-- The characters up to a closing double quote, escapes kept, and those after it. `done` holds the
characters before in reverse. -/
def basicBody (done : List Char) : List Char → Option (List Char × List Char)
  | [] => none
  | '\\' :: c :: rest => if isNewline c then none else basicBody (c :: '\\' :: done) rest
  | c :: rest =>
    if c == '"' then some (done.reverse, rest)
    else if isNewline c || c == '\\' then none
    else basicBody (c :: done) rest

/-- The characters up to three closing double quotes, escapes kept, and those after them. Of more
than three quotes in a row the last three close; up to two before them belong to the string. -/
def multilineBody (done : List Char) : List Char → Option (List Char × List Char)
  | [] => none
  | '\\' :: c :: rest => multilineBody (c :: '\\' :: done) rest
  | '"' :: rest =>
    match rest with
    | '"' :: '"' :: after =>
      if after.head? == some '"' then
        match done with
        | '"' :: '"' :: before => if before.head? == some '\\' then multilineBody ('"' :: done) rest
          else none
        | _ => multilineBody ('"' :: done) rest
      else some (done.reverse, after)
    | _ => multilineBody ('"' :: done) rest
  | c :: rest => multilineBody (c :: done) rest

/-- The characters up to a closing single quote, and those after it. -/
def rawBody (done : List Char) : List Char → Option (List Char × List Char)
  | [] => none
  | c :: rest =>
    if c == '\'' then some (done.reverse, rest)
    else if isNewline c then none
    else rawBody (c :: done) rest

/-- The characters up to three closing single quotes, and those after them. -/
def rawMultilineBody (done : List Char) : List Char → Option (List Char × List Char)
  | [] => none
  | '\'' :: rest =>
    match rest with
    | '\'' :: '\'' :: after =>
      if after.head? == some '\'' then
        match done with
        | '\'' :: '\'' :: _ => none
        | _ => rawMultilineBody ('\'' :: done) rest
      else some (done.reverse, after)
    | _ => rawMultilineBody ('\'' :: done) rest
  | c :: rest => rawMultilineBody (c :: done) rest

/-- A string of several lines without an end of line at its start. -/
def dropFirstNewline : List Char → List Char
  | '\n' :: rest => rest
  | '\r' :: '\n' :: rest => rest
  | cs => cs

/-- Take away each backslash at the end of a line, with the white space after it up to the next
character. `skipping` tells whether such white space is being passed over. -/
def joinLines (skipping : Bool) : List Char → List Char
  | [] => []
  | '\\' :: '\\' :: rest => '\\' :: '\\' :: joinLines false rest
  | c :: rest =>
    let isGap (c : Char) := isSpace c || isNewline c
    if skipping && isGap c then joinLines true rest
    else if c == '\\' && (rest.takeWhile isGap).contains '\n' then joinLines true rest
    else c :: joinLines false rest

/-- Whether the number of each character that is escaped by it has all its digits in one run. -/
def numbersFit : List Char → Bool
  | [] => true
  | '\\' :: 'u' :: rest =>
    (rest.take 4).length == 4 && (rest.take 4).all isHexDigit && numbersFit rest
  | '\\' :: 'U' :: rest =>
    (rest.take 8).length == 8 && (rest.take 8).all isHexDigit && numbersFit rest
  | '\\' :: _ :: rest => numbersFit rest
  | _ :: rest => numbersFit rest

/-- Read a string after its opening double quote. -/
def basicString (cs : List Char) : Option (String × List Char) := do
  let (body, rest) ← basicBody [] cs
  let chars ← unescape body
  return (String.ofList chars, rest)

/-- Read a string of several lines after its three opening double quotes. -/
def multilineString (cs : List Char) : Option (String × List Char) := do
  let (body, rest) ← multilineBody [] cs
  if numbersFit body then
    let chars ← unescape (joinLines false (dropFirstNewline body))
    return (String.ofList chars, rest)
  else none

/-- Read a string after its opening single quote. -/
def rawString (cs : List Char) : Option (String × List Char) :=
  (rawBody [] cs).map fun (body, rest) => (String.ofList body, rest)

/-- Read a string of several lines after its three opening single quotes. -/
def rawMultilineString (cs : List Char) : Option (String × List Char) :=
  (rawMultilineBody [] cs).map fun (body, rest) => (String.ofList (dropFirstNewline body), rest)

/-! ### Numbers -/

/-- Whether each underscore of a number follows a digit, and the last character is a digit. -/
def underscoresFit (afterDigit : Bool) : List Char → Bool
  | [] => afterDigit
  | c :: rest => (c != '_' || afterDigit) && underscoresFit (isHexDigit c) rest

/-- Whether a number has a zero in front of other digits. -/
def hasLeadingZero (cs : List Char) : Bool :=
  match cs with
  | '0' :: c :: _ => !(c == 'b' || c == 'o' || c == 'x')
  | sign :: '0' :: _ :: _ => sign == '-' || sign == '+'
  | _ => false

/-- Read the text of an integer. -/
def integer? (cs : List Char) : Option Scalar :=
  if underscoresFit false cs && !hasLeadingZero cs then
    match Text.signedChars true cs with
    | .ok n => some (.integer n)
    | .error _ => none
  else none

/-- The runs of characters between points and exponent marks. -/
def floatParts (part : List Char) : List Char → List (List Char)
  | [] => if part.isEmpty then [] else [part.reverse]
  | c :: rest =>
    if c == '.' || c == 'e' || c == 'E' then
      if part.isEmpty then floatParts [] rest else part.reverse :: floatParts [] rest
    else floatParts (c :: part) rest

/-- Whether a digit follows each point. -/
def pointsFit : List Char → Bool
  | [] => true
  | '.' :: rest => (rest.head?.any Char.isDigit) && pointsFit rest
  | _ :: rest => pointsFit rest

/-- Read the text of a number with a fraction or an exponent. -/
def float? (cs : List Char) : Option Scalar :=
  let parts := floatParts [] cs
  if parts.all (underscoresFit false) && !(parts.head?.any hasLeadingZero) && pointsFit cs
    && Plain.isFloat (cs.filter (· != '_')) then some .float
  else none

/-! ### Points in time -/

/-- Read a number of exactly two digits. -/
def twoDigits? (cs : List Char) : Option (Nat × List Char) :=
  match cs with
  | a :: b :: rest => if a.isDigit && b.isDigit then some (Plain.valueOf [a, b], rest) else none
  | _ => none

/-- Read a date: four digits for the year, and two each for the month and the day. -/
def date? (cs : List Char) : Option (List Char) := do
  let year := cs.take 4
  if year.length = 4 ∧ year.all Char.isDigit then
    let rest ← Plain.expect? '-' (cs.drop 4)
    let (month, rest) ← twoDigits? rest
    let rest ← Plain.expect? '-' rest
    let (day, rest) ← twoDigits? rest
    if 1 ≤ month ∧ month ≤ 12 ∧ 1 ≤ day ∧ day ≤ Plain.daysIn (Plain.valueOf year) month then
      some rest
    else none
  else none

/-- Read a time of day, with two digits for each part; one is enough for the hour. -/
def time? (cs : List Char) : Option (List Char) := do
  let (hour, rest) ← Plain.shortNumber? cs
  let rest ← Plain.expect? ':' rest
  let (minute, rest) ← twoDigits? rest
  let rest ← Plain.expect? ':' rest
  let (second, rest) ← twoDigits? rest
  if hour < 24 ∧ minute < 60 ∧ second < 60 then some (Plain.skipFraction rest) else none

/-- Whether text is a date, a time, or both with or without a time zone. -/
def isDatetime (cs : List Char) : Bool :=
  match date? cs with
  | some [] => true
  | some (c :: rest) =>
    (c == 'T' || c == 't' || c == ' ')
      && match time? rest with
        | some zone =>
          zone.isEmpty || Plain.isZone (zone.map fun c => if c == 'z' then 'Z' else c)
        | none => false
  | none =>
    match time? cs with
    | some rest => rest.isEmpty
    | none => false

/-- Read the text of a point in time. -/
def datetime? (cs : List Char) : Option Scalar :=
  if isDatetime cs then some .datetime else none

/-! ### Numbers and points in time by their first characters -/

/-- The characters of numbers with a fraction or an exponent. -/
def isFloatChar (c : Char) : Bool :=
  c.isDigit || c == '_' || c == '.' || c == '-' || c == '+' || c == 'e' || c == 'E'

/-- The characters of points in time. -/
def isDatetimeChar (c : Char) : Bool :=
  c.isDigit || "-:Tt .Zz+".toList.contains c

/-- Read the longest run of characters with a property, after those already taken. -/
def takeToken (taken : List Char) (property : Char → Bool) (read : List Char → Option Scalar)
    (cs : List Char) : Option (Scalar × List Char) :=
  (read (taken ++ cs.takeWhile property)).map fun value => (value, cs.dropWhile property)

/-- Read a number whose first characters have been taken and are digits. -/
def decimalNumber (taken : List Char) (cs : List Char) : Option (Scalar × List Char) :=
  let digits := cs.takeWhile fun c => c.isDigit || c == '_'
  let rest := cs.dropWhile fun c => c.isDigit || c == '_'
  if rest.head?.any (fun c => c == '.' || c == 'e' || c == 'E') then
    takeToken (taken ++ digits) isFloatChar float? rest
  else (integer? (taken ++ digits)).map fun value => (value, rest)

/-- Read an integer after the mark of its base. The first character has to be a digit of it. -/
def basedInteger (mark : List Char) (base : Nat) (cs : List Char) : Option (Scalar × List Char) :=
  let isBaseDigit (c : Char) := (Text.digitValue? c).any (· < base)
  if cs.head?.any isBaseDigit then
    takeToken mark (fun c => isBaseDigit c || c == '_') integer? cs
  else none

/-- The characters after a word, if the word comes first. -/
def afterWord? (word : String) (cs : List Char) : Option (List Char) :=
  if word.toList.isPrefixOf cs then some (cs.drop word.length) else none

/-- Read a number after its sign. -/
def signedNumber (sign : Char) (cs : List Char) : Option (Scalar × List Char) :=
  match afterWord? "inf" cs <|> afterWord? "nan" cs with
  | some rest => some (.float, rest)
  | none =>
    match cs with
    | '0' :: 'b' :: _ | '0' :: 'o' :: _ | '0' :: 'x' :: _ => none
    | c :: rest => if c.isDigit then decimalNumber [sign, c] rest else none
    | [] => none

/-- Read a number or a point in time that starts with a digit. -/
def numberOrDate (cs : List Char) : Option (Scalar × List Char) :=
  match cs with
  | '0' :: 'b' :: rest => basedInteger ['0', 'b'] 2 rest
  | '0' :: 'o' :: rest => basedInteger ['0', 'o'] 8 rest
  | '0' :: 'x' :: rest => basedInteger ['0', 'x'] 16 rest
  | cs =>
    let digits := cs.takeWhile Char.isDigit
    let rest := cs.dropWhile Char.isDigit
    if digits ≠ ['0'] ∧ rest.head?.any (fun c => c == '-' || c == ':') then
      let text := rest.takeWhile isDatetimeChar
      (datetime? (digits ++ (text.reverse.dropWhile (· == ' ')).reverse)).map fun value =>
        (value, rest.dropWhile isDatetimeChar)
    else decimalNumber digits rest

/-- Read a truth value. -/
def boolean (cs : List Char) : Option (Scalar × List Char) :=
  let word (w : String) := (afterWord? w cs).filter fun rest => !rest.head?.any Char.isAlpha
  (word "true" <|> word "false").map fun rest => (.boolean, rest)

/-- Read a scalar. -/
def scalar (cs : List Char) : Option (Scalar × List Char) :=
  match cs with
  | '"' :: '"' :: '"' :: rest => (multilineString rest).map fun (s, rest) => (.string s, rest)
  | '"' :: rest => (basicString rest).map fun (s, rest) => (.string s, rest)
  | '\'' :: '\'' :: '\'' :: rest =>
    (rawMultilineString rest).map fun (s, rest) => (.string s, rest)
  | '\'' :: rest => (rawString rest).map fun (s, rest) => (.string s, rest)
  | c :: rest =>
    if c == '+' || c == '-' then signedNumber c rest
    else if c.isDigit then numberOrDate cs
    else
      match afterWord? "inf" cs <|> afterWord? "nan" cs with
      | some rest => some (.float, rest)
      | none => boolean cs
  | [] => none

/-! ### Keys -/

/-- Read one part of a key. -/
def keyPart (cs : List Char) : Option (String × List Char) :=
  match cs with
  | '"' :: rest => basicString rest
  | '\'' :: rest => rawString rest
  | cs =>
    let name := cs.takeWhile isKeyChar
    if name.isEmpty then none else some (String.ofList name, cs.dropWhile isKeyChar)

/-- Read the parts of a key up to a closing character. `fuel` bounds their number. -/
def keyParts (closing : Char) : Nat → List Char → Option (List String × List Char)
  | 0, _ => none
  | fuel + 1, cs => do
    let (part, rest) ← keyPart (skipSpaces cs)
    match skipSpaces rest with
    | c :: rest =>
      if c == closing then return ([part], rest)
      else if c == '.' then
        let (parts, rest) ← keyParts closing fuel rest
        return (part :: parts, rest)
      else none
    | [] => none

/-- Read a key up to a closing character, and what follows that. -/
def key (closing : Char) (cs : List Char) : Option (List String × List Char) :=
  keyParts closing (cs.length + 1) cs

end X86Decoder.Toml
