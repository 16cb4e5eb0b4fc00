import X86Decoder.Source.Position

/-!
# Tokens of source

The words and marks that a source text is made of.
-/

namespace X86Decoder.Source

/-- The kinds of literals. -/
inductive LiteralKind where
  | integer
  | float
  | imaginary
  | character
  | string
deriving DecidableEq

/-- The operators and marks. -/
inductive Symbol where
  | add | sub | mul | quo | rem
  | and | or | xor | shiftLeft | shiftRight | andNot
  | addAssign | subAssign | mulAssign | quoAssign | remAssign
  | andAssign | orAssign | xorAssign | shiftLeftAssign | shiftRightAssign | andNotAssign
  | bothHold | oneHolds | arrow | increment | decrement
  | equal | less | greater | assign | not | tilde
  | notEqual | lessEqual | greaterEqual | define | ellipsis
  | openParen | openBracket | openBrace | comma | period
  | closeParen | closeBracket | closeBrace | semicolon | colon
deriving DecidableEq

namespace Symbol

/-- The symbols with their texts. A text stands before those that it starts with. -/
def texts : List (Symbol × String) :=
  [(shiftLeftAssign, "<<="), (shiftRightAssign, ">>="), (andNotAssign, "&^="), (ellipsis, "..."),
   (addAssign, "+="), (subAssign, "-="), (mulAssign, "*="), (quoAssign, "/="), (remAssign, "%="),
   (andAssign, "&="), (orAssign, "|="), (xorAssign, "^="), (shiftLeft, "<<"), (shiftRight, ">>"),
   (andNot, "&^"), (bothHold, "&&"), (oneHolds, "||"), (arrow, "<-"), (increment, "++"),
   (decrement, "--"), (equal, "=="), (notEqual, "!="), (lessEqual, "<="), (greaterEqual, ">="),
   (define, ":="), (add, "+"), (sub, "-"), (mul, "*"), (quo, "/"), (rem, "%"), (and, "&"),
   (or, "|"), (xor, "^"), (less, "<"), (greater, ">"), (assign, "="), (not, "!"), (tilde, "~"),
   (openParen, "("), (openBracket, "["), (openBrace, "\x7b"), (comma, ","), (period, "."),
   (closeParen, ")"), (closeBracket, "]"), (closeBrace, "\x7d"), (semicolon, ";"), (colon, ":")]

/-- The text of a symbol. -/
def text (s : Symbol) : String :=
  (texts.lookup s).getD ""

/-- The longest symbol at the start of some characters. -/
def ofChars? (cs : List Char) : Option Symbol :=
  (texts.find? fun (_, text) => text.toList.isPrefixOf cs).map Prod.fst

/-- How tightly a binary operator binds, or zero for other symbols. -/
def precedence : Symbol → Nat
  | oneHolds => 1
  | bothHold => 2
  | equal | notEqual | less | lessEqual | greater | greaterEqual => 3
  | add | sub | or | xor => 4
  | mul | quo | rem | shiftLeft | shiftRight | and | andNot => 5
  | _ => 0

/-- The precedence of unary operators. -/
def unaryPrecedence : Nat := 6

/-- The precedence of operands, above that of all operators. -/
def operandPrecedence : Nat := 7

/-- Whether a symbol makes a statement an assignment. -/
def isAssignment : Symbol → Bool
  | define | assign | addAssign | subAssign | mulAssign | quoAssign | remAssign | andAssign
  | orAssign | xorAssign | shiftLeftAssign | shiftRightAssign | andNotAssign => true
  | _ => false

/-- Whether a symbol can be a unary operator. -/
def isUnary : Symbol → Bool
  | add | sub | not | xor | and | tilde => true
  | _ => false

/-- Whether a statement may end after a symbol at the end of a line. -/
def endsStatement : Symbol → Bool
  | increment | decrement | closeParen | closeBracket | closeBrace => true
  | _ => false

end Symbol

/-- The words that are not names. -/
inductive Keyword where
  | breakWord | caseWord | chan | const | continueWord | default | deferWord | elseWord
  | fallthroughWord | forWord | func | goWord | gotoWord | ifWord | importWord | interface | map
  | package | range | returnWord | select | struct | switch | type | var
deriving DecidableEq

namespace Keyword

/-- The keywords with their texts. -/
def texts : List (Keyword × String) :=
  [(breakWord, "break"), (caseWord, "case"), (chan, "chan"), (const, "const"),
   (continueWord, "continue"), (default, "default"), (deferWord, "defer"), (elseWord, "else"),
   (fallthroughWord, "fallthrough"), (forWord, "for"), (func, "func"), (goWord, "go"),
   (gotoWord, "goto"), (ifWord, "if"), (importWord, "import"), (interface, "interface"),
   (map, "map"), (package, "package"), (range, "range"), (returnWord, "return"),
   (select, "select"), (struct, "struct"), (switch, "switch"), (type, "type"), (var, "var")]

/-- The text of a keyword. -/
def text (k : Keyword) : String :=
  (texts.lookup k).getD ""

/-- The keyword with a text. -/
def ofText? (s : String) : Option Keyword :=
  (texts.find? fun (_, text) => text == s).map Prod.fst

/-- Whether a statement may end after a keyword at the end of a line. -/
def endsStatement : Keyword → Bool
  | breakWord | continueWord | fallthroughWord | returnWord => true
  | _ => false

end Keyword

/-- The kinds of tokens. -/
inductive TokenKind where
  | name
  | literal (kind : LiteralKind)
  | symbol (s : Symbol)
  | keyword (k : Keyword)
  /-- The end of the text. -/
  | finish
deriving DecidableEq

/-- Whether a statement may end after a token at the end of a line. -/
def TokenKind.endsStatement : TokenKind → Bool
  | name | literal _ => true
  | symbol s => s.endsStatement
  | keyword k => k.endsStatement
  | finish => false

/-- A token with the comments around it. -/
structure Token where
  kind : TokenKind
  /-- The text. That of a semicolon that the end of a line stands for is a line feed. -/
  text : String
  span : Span
  /-- The comments that stand on the lines before the token. -/
  lead : Option CommentGroup := none
  /-- The comments that end the line of the token before. -/
  trailing : Option CommentGroup := none

end X86Decoder.Source
