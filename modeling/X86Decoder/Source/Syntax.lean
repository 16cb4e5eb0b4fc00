import X86Decoder.Source.Token

/-!
# Syntax of source

The expressions, statements and declarations of a source text. Types are expressions too. All parts
keep the positions that their layout depends on.
-/

namespace X86Decoder.Source

/-- A name at its place. -/
structure Name where
  span : Span
  text : String

/-- The ways in which a channel can be used. -/
inductive Direction where
  | both
  | send
  | receive
deriving DecidableEq

mutual

/-- An expression or a type. -/
inductive Expr where
  | name (n : Name)
  | literal (span : Span) (kind : LiteralKind) (text : String)
  | function (span : Span) (type : Signature) (body : Block)
  /-- A value of a composite type. The type may be left out within another value. -/
  | composite (span : Span) (type : Option Expr) (opening : Position) (elements : List Expr)
      (closing : Position)
  | paren (span : Span) (inner : Expr) (closing : Position)
  | selector (span : Span) (operand : Expr) (field : Name)
  /-- An operand with an index, or a generic with its arguments. -/
  | index (span : Span) (operand : Expr) (opening : Position) (indices : List Expr)
      (closing : Position)
  | slice (span : Span) (operand : Expr) (opening : Position) (bounds : List (Option Expr))
      (closing : Position)
  /-- A type assertion, or the guard of a type switch if there is no type. -/
  | assertion (span : Span) (operand : Expr) (opening : Position) (type : Option Expr)
      (closing : Position)
  | call (span : Span) (callee : Expr) (opening : Position) (arguments : List Expr)
      (spread : Option Position) (closing : Position)
  | star (span : Span) (operand : Expr)
  | unary (span : Span) (operator : Symbol) (operand : Expr)
  | binary (span : Span) (left : Expr) (operator : Symbol) (place : Position) (right : Expr)
  /-- A key and a value in a composite value. -/
  | pair (span : Span) (key : Expr) (colon : Position) (value : Expr)
  | ellipsis (span : Span) (element : Option Expr)
  | array (span : Span) (length : Option Expr) (element : Expr)
  | struct (span : Span) (fields : Fields)
  | functionType (span : Span) (type : Signature)
  | interface (span : Span) (methods : Fields)
  | map (span : Span) (key value : Expr)
  | channel (span : Span) (direction : Direction) (arrow : Position) (value : Expr)

/-- The type of a function. -/
inductive Signature where
  | mk (typeParameters : Option Fields) (parameters : Fields) (results : Option Fields)

/-- Fields, methods or parameters. -/
inductive Fields where
  /-- The bounds are the opening and the closing mark, if there are any. -/
  | mk (bounds : Option (Position × Position)) (list : List Field)

/-- Some names of one type, an embedded type, or a method. -/
inductive Field where
  | mk (names : List Name) (type : Expr) (tag : Option Expr) (doc comment : Option CommentGroup)

/-- Statements between braces. -/
inductive Block where
  | mk (opening : Position) (statements : List Stmt) (closing : Position)

/-- A statement. -/
inductive Stmt where
  | declaration (start : Position) (d : Declared)
  | empty (start : Position)
  | labeled (label : Name) (colon : Position) (statement : Stmt)
  | expression (x : Expr)
  | send (channel : Expr) (arrow : Position) (value : Expr)
  | step (x : Expr) (operator : Symbol) (place : Position)
  | assign (left : List Expr) (operator : Symbol) (place : Position) (right : List Expr)
  | go (start : Position) (call : Expr)
  | deferred (start : Position) (call : Expr)
  | returned (start : Position) (results : List Expr)
  | branch (start : Position) (word : Keyword) (label : Option Name)
  | block (b : Block)
  | conditional (start : Position) (init : Option Stmt) (condition : Option Expr) (body : Block)
      (otherwise : Option Stmt)
  /-- A case of a switch, or its default if there are no values. -/
  | case (start : Position) (values : List Expr) (colon : Position) (body : List Stmt)
  | switch (start : Position) (init : Option Stmt) (subject : Option Expr) (body : Block)
  | typeSwitch (start : Position) (init : Option Stmt) (subject : Stmt) (body : Block)
  /-- A case of a selection, or its default if there is no communication. -/
  | communication (start : Position) (communication : Option Stmt) (colon : Position)
      (body : List Stmt)
  | select (start : Position) (body : Block)
  | loop (start : Position) (init : Option Stmt) (condition : Option Expr) (post : Option Stmt)
      (body : Block)
  | range (start : Position) (key value : Option Expr) (operator : Symbol) (place : Position)
      (word : Position) (subject : Expr) (body : Block)

/-- The declaration of constants, types or variables. -/
inductive Declared where
  | mk (span : Span) (word : Keyword) (bounds : Option (Position × Position)) (specs : List Spec)
      (doc : Option CommentGroup)

/-- What is declared together. -/
inductive Spec where
  | values (names : List Name) (type : Option Expr) (values : List Expr)
      (doc comment : Option CommentGroup)
  | type (name : Name) (parameters : Option Fields) (isAlias : Bool) (type : Expr)
      (doc comment : Option CommentGroup)

end

/-- A declaration of a source text. -/
inductive Declaration where
  | declared (d : Declared)
  | function (span : Span) (receiver : Option Fields) (name : Name) (type : Signature)
      (body : Option Block) (doc : Option CommentGroup)

/-- A source text. -/
structure File where
  /-- Where the package is named. -/
  start : Position
  package : Name
  declarations : List Declaration

/-! ### Positions -/

namespace Expr

/-- The passage of an expression. -/
def span : Expr → Span
  | name n => n.span
  | literal span _ _ | function span _ _ | composite span _ _ _ _ | paren span _ _
  | selector span _ _ | index span _ _ _ _ | slice span _ _ _ _ | assertion span _ _ _ _
  | call span _ _ _ _ _ | star span _ | unary span _ _ | binary span _ _ _ _ | pair span _ _ _
  | ellipsis span _ | array span _ _ | struct span _ | functionType span _ | interface span _
  | map span _ _ | channel span _ _ _ => span

/-- Where an expression starts. -/
def start (x : Expr) : Position :=
  x.span.start

/-- Where an expression has ended. -/
def stop (x : Expr) : Position :=
  x.span.stop

/-- An expression without the parentheses around it. -/
def inner : Expr → Expr
  | paren _ x _ => inner x
  | x => x

end Expr

namespace Fields

/-- The fields. -/
def list : Fields → List Field
  | mk _ list => list

/-- The positions of the marks around fields. -/
def bounds : Fields → Option (Position × Position)
  | mk bounds _ => bounds

end Fields

namespace Field

/-- The names of a field. -/
def names : Field → List Name
  | mk names _ _ _ _ => names

/-- The type of a field. -/
def type : Field → Expr
  | mk _ type _ _ _ => type

/-- Where a field starts. -/
def start (f : Field) : Position :=
  match f.names with
  | [] => f.type.start
  | n :: _ => n.span.start

end Field

namespace Block

/-- Where a block starts. -/
def opening : Block → Position
  | mk opening _ _ => opening

/-- The closing brace of a block. -/
def closing : Block → Position
  | mk _ _ closing => closing

/-- The statements of a block. -/
def statements : Block → List Stmt
  | mk _ statements _ => statements

end Block

namespace Stmt

/-- Where a statement starts. -/
def start : Stmt → Position
  | declaration start _ | empty start | go start _ | deferred start _ | returned start _
  | branch start _ _ | conditional start _ _ _ _ | case start _ _ _ | switch start _ _ _
  | typeSwitch start _ _ _ | communication start _ _ _ | select start _ | loop start _ _ _ _
  | range start _ _ _ _ _ _ _ => start
  | labeled label _ _ => label.span.start
  | expression x | send x _ _ | step x _ _ => x.start
  | assign left _ _ _ => (left.head?.map Expr.start).getD {}
  | block b => b.opening

/-- Whether a statement is empty. -/
def isEmpty : Stmt → Bool
  | empty _ => true
  | _ => false

/-- The number of labels in front of a statement. -/
def labels : Stmt → Nat
  | labeled _ _ s => s.labels + 1
  | _ => 0

end Stmt

/-- Where a specification starts. -/
def Spec.start : Spec → Position
  | values names _ _ _ _ => (names.head?.map fun n => n.span.start).getD {}
  | type name _ _ _ _ _ => name.span.start

end X86Decoder.Source
