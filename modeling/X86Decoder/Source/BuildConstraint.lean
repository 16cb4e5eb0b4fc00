import X86Decoder.Text.Blank
import X86Decoder.Text.Letter

/-!
# Build constraints

A comment of a source file may tell under which conditions the file is built: by an expression over
tags, or in a legacy form, where a blank stands for "or" and a comma for "and".
-/

namespace X86Decoder.Source

/-- A condition over tags. -/
inductive BuildConstraint where
  | tag (name : String)
  | not (x : BuildConstraint)
  | and (x y : BuildConstraint)
  | or (x y : BuildConstraint)
deriving DecidableEq

namespace BuildConstraint

/-! ### Text -/

/-- Whether a constraint is a conjunction. -/
def isAnd : BuildConstraint → Bool
  | and _ _ => true
  | _ => false

/-- Whether a constraint is a disjunction. -/
def isOr : BuildConstraint → Bool
  | or _ _ => true
  | _ => false

/-- Text that may need parentheses. -/
def enclosed (needed : Bool) (s : String) : String :=
  if needed then "(" ++ s ++ ")" else s

/-- The text of a constraint. Conjunctions and disjunctions within each other have parentheses. -/
def text : BuildConstraint → String
  | tag name => name
  | not x => "!" ++ enclosed (x.isAnd || x.isOr) (text x)
  | and x y => enclosed x.isOr (text x) ++ " && " ++ enclosed y.isOr (text y)
  | or x y => enclosed x.isAnd (text x) ++ " || " ++ enclosed y.isAnd (text y)

/-! ### Expressions -/

/-- Whether a tag may have a character. -/
def isTagChar (c : Char) : Bool :=
  Text.isLetter c || Text.isDecimalDigit c || c == '_' || c == '.'

/-- A token of an expression. -/
inductive Token where
  /-- The end of the text. -/
  | done
  | tag (name : String)
  | opening
  | closing
  | not
  | and
  | or
deriving DecidableEq

/-- Where the reading of an expression has got to. -/
structure Cursor where
  /-- The last token that was read. -/
  token : Token
  /-- The characters after it. -/
  rest : List Char
  /-- The number of operands so far. -/
  size : Nat

/-- The greatest number of operands. -/
def sizeLimit : Nat := 1000

/-- Read the next token. -/
def Cursor.next? (s : Cursor) : Option Cursor :=
  match s.rest.dropWhile fun c => c == ' ' || c == '\t' with
  | [] => some { s with token := .done, rest := [] }
  | '(' :: rest => some { s with token := .opening, rest }
  | ')' :: rest => some { s with token := .closing, rest }
  | '!' :: rest => some { s with token := .not, rest }
  | '&' :: '&' :: rest => some { s with token := .and, rest }
  | '|' :: '|' :: rest => some { s with token := .or, rest }
  | cs =>
    let name := cs.takeWhile isTagChar
    if name.isEmpty then none
    else some { s with token := .tag (String.ofList name), rest := cs.dropWhile isTagChar }

mutual

/-- Read a disjunction and the token after it. `fuel` bounds the number of steps. -/
def readOr : Nat → Cursor → Option (BuildConstraint × Cursor)
  | 0, _ => none
  | fuel + 1, s => do
    let (x, s) ← readAnd fuel s
    readOrRest fuel x s

/-- Read what follows the first part of a disjunction. -/
def readOrRest : Nat → BuildConstraint → Cursor → Option (BuildConstraint × Cursor)
  | 0, _, _ => none
  | fuel + 1, x, s =>
    if s.token = .or then do
      let (y, s) ← readAnd fuel s
      readOrRest fuel (.or x y) s
    else some (x, s)

/-- Read a conjunction and the token after it. -/
def readAnd : Nat → Cursor → Option (BuildConstraint × Cursor)
  | 0, _ => none
  | fuel + 1, s => do
    let (x, s) ← readOperand fuel s
    readAndRest fuel x s

/-- Read what follows the first part of a conjunction. -/
def readAndRest : Nat → BuildConstraint → Cursor → Option (BuildConstraint × Cursor)
  | 0, _, _ => none
  | fuel + 1, x, s =>
    if s.token = .and then do
      let (y, s) ← readOperand fuel s
      readAndRest fuel (.and x y) s
    else some (x, s)

/-- Read an operand, which may be negated once, and the token after it. -/
def readOperand : Nat → Cursor → Option (BuildConstraint × Cursor)
  | 0, _ => none
  | fuel + 1, s =>
    if s.size < sizeLimit then do
      let s ← Cursor.next? { s with size := s.size + 1 }
      if s.token = .not then
        let s ← s.next?
        let (x, s) ← readAtom fuel s
        return (.not x, s)
      else readAtom fuel s
    else none

/-- Read a tag or an expression in parentheses, whose first token has been read. -/
def readAtom : Nat → Cursor → Option (BuildConstraint × Cursor)
  | 0, _ => none
  | fuel + 1, s =>
    match s.token with
    | .tag name => s.next?.map fun s => (.tag name, s)
    | .opening => do
      let (x, s) ← readOr fuel s
      if s.token = .closing then
        let s ← s.next?
        return (x, s)
      else none
    | _ => none

end

/-- The constraint at the start of a text. A token after it is passed over, with all that
follows. -/
def read? (s : String) : Option BuildConstraint :=
  (readOr (6 * (s.length + 1)) ⟨.done, s.toList, 0⟩).map Prod.fst

/-! ### Legacy form -/

/-- A tag of the legacy form. Text that is no tag stands for one that is never set. -/
def legacyTag (name : String) : BuildConstraint :=
  if name != "" && name.toList.all isTagChar then .tag name else .tag "ignore"

/-- A tag of the legacy form that may be negated. -/
def legacyLiteral (s : String) : BuildConstraint :=
  match s.toList with
  | ['!'] | '!' :: '!' :: _ => .tag "ignore"
  | '!' :: name => .not (legacyTag (String.ofList name))
  | _ => legacyTag s

/-- The greatest number of operators in the legacy form. -/
def legacyLimit : Nat := 100

/-- Constraints joined from the left. -/
def joined (join : BuildConstraint → BuildConstraint → BuildConstraint) :
    List BuildConstraint → Option BuildConstraint
  | [] => none
  | x :: rest => some (rest.foldl join x)

/-- Read the legacy form. -/
def readLegacy? (s : String) : Option BuildConstraint :=
  let clauses := (Text.words s).map fun clause => (Text.split ',' clause).map legacyLiteral
  if legacyLimit + 1 < clauses.flatten.length then none
  else some ((joined .or (clauses.filterMap (joined .and))).getD (.tag "ignore"))

/-- A constraint in which only tags are negated. -/
def pushNot (negated : Bool) : BuildConstraint → BuildConstraint
  | tag name => if negated then .not (.tag name) else .tag name
  | not x => pushNot (!negated) x
  | and x y =>
    if negated then .or (pushNot negated x) (pushNot negated y)
    else .and (pushNot negated x) (pushNot negated y)
  | or x y =>
    if negated then .and (pushNot negated x) (pushNot negated y)
    else .or (pushNot negated x) (pushNot negated y)

/-- The parts of a conjunction. -/
def conjuncts : BuildConstraint → List BuildConstraint
  | and x y => conjuncts x ++ conjuncts y
  | x => [x]

/-- The parts of a disjunction. -/
def disjuncts : BuildConstraint → List BuildConstraint
  | or x y => disjuncts x ++ disjuncts y
  | x => [x]

/-- Whether a constraint is neither a conjunction nor a disjunction. -/
def isLiteral (x : BuildConstraint) : Bool :=
  !(x.isAnd || x.isOr)

/-- The lines of the legacy form, which all have to hold. Not every constraint has that form. -/
def legacyLines (x : BuildConstraint) : List String :=
  let lines := (pushNot false x).conjuncts.map fun part => part.disjuncts.map conjuncts
  let lines :=
    if lines.all (·.length == 1) then [[lines.flatten.flatten]] else lines
  if lines.all (·.all (·.all isLiteral)) then
    lines.map fun clauses => "// +build" ++ String.join (clauses.map fun literals =>
      " " ++ ",".intercalate (literals.map text))
  else ["// +build error: expression too complex for // +build lines"]

/-! ### Comments -/

/-- How a comment states a constraint. -/
inductive Form where
  | expression
  | legacy
deriving DecidableEq

/-- What follows a word that comes first and stands alone. -/
def argument? (word s : String) : Option String :=
  if word.toList.isPrefixOf s.toList then
    let rest := String.ofList (s.toList.drop word.length)
    if rest == "" || Text.trim rest != rest then some (Text.trim rest) else none
  else none

/-- The expression that a comment states. -/
def expressionArgument? (comment : String) : Option String :=
  argument? "//go:build" (Text.trim comment)

/-- The legacy form that a comment states. -/
def legacyArgument? (comment : String) : Option String :=
  match comment.toList with
  | '/' :: '/' :: rest => argument? "+build" (Text.trim (String.ofList rest))
  | _ => none

/-- The form in which a comment states a constraint, if it states one. -/
def form? (comment : String) : Option Form :=
  if (expressionArgument? comment).isSome then some .expression
  else if (legacyArgument? comment).isSome then some .legacy
  else none

/-- The constraint that a comment states. -/
def ofComment? (comment : String) : Option BuildConstraint :=
  match expressionArgument? comment with
  | some argument => read? argument
  | none => (legacyArgument? comment).bind readLegacy?

end BuildConstraint

end X86Decoder.Source
