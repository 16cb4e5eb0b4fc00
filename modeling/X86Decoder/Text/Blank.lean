/-!
# White space

White space in the sense of Unicode, and how text is trimmed and cut at it.
-/

namespace X86Decoder.Text

/-- Whether a character is white space. -/
def isBlank (c : Char) : Bool :=
  let n := c.toNat
  (decide (0x09 ≤ n) && decide (n ≤ 0x0d)) || n == 0x20 || n == 0x85 || n == 0xa0 || n == 0x1680
    || (decide (0x2000 ≤ n) && decide (n ≤ 0x200a)) || n == 0x2028 || n == 0x2029 || n == 0x202f
    || n == 0x205f || n == 0x3000

/-- The characters without white space at either end. -/
def trimChars (cs : List Char) : List Char :=
  ((cs.dropWhile isBlank).reverse.dropWhile isBlank).reverse

/-- A string without white space at either end. -/
def trim (s : String) : String :=
  String.ofList (trimChars s.toList)

/-- Cut characters at each run of white space. `word` holds the characters of the current word in
reverse. -/
def wordsFrom (word : List Char) : List Char → List (List Char)
  | [] => if word.isEmpty then [] else [word.reverse]
  | c :: rest =>
    if isBlank c then
      if word.isEmpty then wordsFrom [] rest else word.reverse :: wordsFrom [] rest
    else wordsFrom (c :: word) rest

/-- The words of a string: what stands between white space. -/
def words (s : String) : List String :=
  (wordsFrom [] s.toList).map String.ofList

/-- Cut a list at each separator. `part` holds the items of the current part in reverse. -/
def splitFrom {α : Type} [DecidableEq α] (separator : α) (part : List α) : List α → List (List α)
  | [] => [part.reverse]
  | c :: rest =>
    if c = separator then part.reverse :: splitFrom separator [] rest
    else splitFrom separator (c :: part) rest

/-- The parts of a string between separators, at least one. -/
def split (separator : Char) (s : String) : List String :=
  (splitFrom separator [] s.toList).map String.ofList

/-- What stands before and after the first separator, if there is one. -/
def cut? (separator : Char) (s : String) : Option (String × String) :=
  let before := s.toList.takeWhile (· != separator)
  match s.toList.drop before.length with
  | [] => none
  | _ :: after => some (String.ofList before, String.ofList after)

end X86Decoder.Text
