import X86Decoder.Source.Syntax

/-!
# Readers

A reader takes tokens from the front of a list, or fails. Expressions, types and statements are read
by readers that depend on each other, through a record of them.
-/

namespace X86Decoder.Source

/-- What is left to be read. -/
structure Unread where
  tokens : List Token
  /-- How deep the current expression is within parentheses, or below zero in the header of a
  statement. There a brace after a name opens the body of the statement. -/
  level : Int := 0

/-- A reader of a part of a source text. -/
abbrev Reader := StateT Unread Option

namespace Reader

/-- The next token. -/
def token : Reader Token := do
  match (← get).tokens with
  | t :: _ => return t
  | [] => failure

/-- The kind of the next token. -/
def kind : Reader TokenKind := do
  return (← token).kind

/-- Whether the next token is a symbol. -/
def sees (s : Symbol) : Reader Bool := do
  return (← kind) == .symbol s

/-- Whether the next token is a keyword. -/
def seesWord (k : Keyword) : Reader Bool := do
  return (← kind) == .keyword k

/-- Take the next token. -/
def take : Reader Token := do
  let t ← token
  modify fun u => { u with tokens := u.tokens.drop 1 }
  return t

/-- Take a token of a kind. -/
def expectKind (k : TokenKind) : Reader Token := do
  let t ← take
  if t.kind == k then return t else failure

/-- Take a symbol. -/
def expect (s : Symbol) : Reader Position := do
  return (← expectKind (.symbol s)).span.start

/-- Take a symbol and give the passage of it. -/
def expectSpan (s : Symbol) : Reader Span := do
  return (← expectKind (.symbol s)).span

/-- Take a keyword. -/
def expectWord (k : Keyword) : Reader Position := do
  return (← expectKind (.keyword k)).span.start

/-- Take a symbol if it is the next token. -/
def accept (s : Symbol) : Reader Bool := do
  if ← sees s then
    let _ ← take
    return true
  else return false

/-- Read a name. -/
def name : Reader Name := do
  let t ← expectKind .name
  return ⟨t.span, t.text⟩

/-- Take the semicolon after a statement, which may be left out before a closing mark. The result is
the comment that ends the line. -/
def semicolon : Reader (Option CommentGroup) := do
  let t ← token
  if t.kind == .symbol .closeParen || t.kind == .symbol .closeBrace then return none
  let t ← expectKind (.symbol .semicolon)
  if t.text == "\n" then return t.trailing else return (← token).trailing

/-- Read something within parentheses of any kind. -/
def deeper {α : Type} (r : Reader α) : Reader α := do
  modify fun u => { u with level := u.level + 1 }
  let a ← r
  modify fun u => { u with level := u.level - 1 }
  return a

/-- Read the header of a statement. -/
def header {α : Type} (r : Reader α) : Reader α := do
  let level := (← get).level
  modify fun u => { u with level := -1 }
  let a ← r
  modify fun u => { u with level }
  return a

/-- Read items as long as there are any, fewer than `fuel`. `done` holds the items before in
reverse. -/
def manyFrom {α : Type} (r : Reader (Option α)) : Nat → List α → Reader (List α)
  | 0, _ => failure
  | fuel + 1, done => do
    match ← r with
    | none => return done.reverse
    | some a => manyFrom r fuel (a :: done)

/-- Read items as long as there are any, fewer than `fuel`. -/
def many {α : Type} (fuel : Nat) (r : Reader (Option α)) : Reader (List α) :=
  manyFrom r fuel []

/-- Read items with commas between them up to a closing symbol, which is not taken. A comma may
stand after the last item too. -/
def commaList {α : Type} (closing : Symbol) (fuel : Nat) (item : Reader α) : Reader (List α) := do
  if ← sees closing then return []
  let first ← item
  let others ← many fuel <| do
    if ← accept .comma then
      if ← sees closing then return none else return some (← item)
    else return none
  return first :: others

/-- Read one item or more with commas between them. -/
def sequence {α : Type} (fuel : Nat) (item : Reader α) : Reader (List α) := do
  let first ← item
  let others ← many fuel <| do
    if ← accept .comma then return some (← item) else return none
  return first :: others

end Reader

/-- Readers of parts that contain each other. -/
structure Readers where
  /-- A bound for the number of items in a list. -/
  fuel : Nat
  /-- An expression of operators that bind at least as tightly as given. -/
  binary : Nat → Reader Expr
  /-- An operand with the unary operators in front of it. -/
  unary : Reader Expr
  /-- A type, if there is one. -/
  type? : Reader (Option Expr)
  /-- The elements of a composite value of a type. -/
  composite : Option Expr → Reader Expr
  statement : Reader Stmt

namespace Readers

/-- Read an expression. -/
def expression (r : Readers) : Reader Expr :=
  r.binary 1

/-- Read a type. -/
def type (r : Readers) : Reader Expr := do
  match ← r.type? with
  | some x => return x
  | none => failure

/-- Read expressions with commas between them. -/
def expressions (r : Readers) : Reader (List Expr) :=
  Reader.sequence r.fuel r.expression

end Readers

end X86Decoder.Source
