import X86Decoder.Source.Printer.Type

/-!
# Writing expressions

Blanks stand around the operators of an expression that bind least, so that one sees how it is
read. In the depth of an expression there are fewer of them.
-/

namespace X86Decoder.Source

/-! ### Numbers -/

/-- Put another character in the place of the last one that equals a given one. -/
def replaceLast (old new : Char) (cs : List Char) : List Char :=
  match cs.reverse.dropWhile (· != old) with
  | [] => cs
  | _ :: before => before.reverse ++ new :: (cs.reverse.takeWhile (· != old)).reverse

/-- A decimal number in its usual form. -/
def usualDecimal (cs : List Char) : List Char :=
  if cs.contains 'E' then replaceLast 'E' 'e' cs
  else if cs.getLast? == some 'i' && !cs.contains '.' && !cs.contains 'e' then
    match cs.dropWhile fun c => c == '0' || c == '_' with
    | ['i'] => ['0', 'i']
    | digits => digits
  else cs

/-- The usual form of a number: its letters are small, and there are no zeros in front of an
imaginary integer. -/
def usualNumber (s : String) : String :=
  match s.toList with
  | '0' :: 'x' :: cs | '0' :: 'X' :: cs => String.ofList ('0' :: 'x' :: replaceLast 'P' 'p' cs)
  | '0' :: 'o' :: cs | '0' :: 'O' :: cs => String.ofList ('0' :: 'o' :: cs)
  | '0' :: 'b' :: cs | '0' :: 'B' :: cs => String.ofList ('0' :: 'b' :: cs)
  | [_] => s
  | cs => String.ofList (usualDecimal cs)

/-! ### Operators -/

/-- What the operators of an expression ask for. -/
structure OperatorUse where
  /-- Whether there are operators like addition. -/
  sums : Bool := false
  /-- Whether there are operators like multiplication. -/
  products : Bool := false
  /-- The greatest precedence of operators that would run into their right operand, or zero. -/
  clash : Nat := 0

namespace OperatorUse

/-- What two parts of an expression ask for. -/
def and (a b : OperatorUse) : OperatorUse :=
  ⟨a.sums || b.sums, a.products || b.products, max a.clash b.clash⟩

/-- The precedence of an operator that would run into a unary operator after it, or zero. -/
def clashOf (operator unary : Symbol) : Nat :=
  match operator, unary with
  | .quo, .mul | .and, .and | .and, .xor => 5
  | .add, .add | .sub, .sub => 4
  | _, _ => 0

/-- What the operators of an expression ask for, without those in parentheses. -/
def ofExpr : Expr → OperatorUse
  | .binary _ left operator _ right =>
    let precedence := operator.precedence
    let own : OperatorUse := { sums := precedence == 4, products := precedence == 5 }
    let leftUse : OperatorUse :=
      match left with
      | .binary _ _ inner _ _ => if inner.precedence < precedence then {} else ofExpr left
      | _ => {}
    let rightUse : OperatorUse :=
      match right with
      | .binary _ _ inner _ _ => if inner.precedence ≤ precedence then {} else ofExpr right
      | .star _ _ => { clash := if operator == .quo then 5 else 0 }
      | .unary _ inner _ => { clash := clashOf operator inner }
      | _ => {}
    (own.and leftUse).and rightUse
  | _ => {}

/-- The precedence below which operators have blanks around them. -/
def cutoff (use : OperatorUse) (depth : Nat) : Nat :=
  if 0 < use.clash then use.clash + 1
  else if use.sums && use.products then (if depth = 1 then 5 else 4)
  else if depth = 1 then 6
  else 4

end OperatorUse

/-- The precedence of the operator of an expression. -/
def Expr.precedence? : Expr → Option Nat
  | binary _ _ operator _ _ => some operator.precedence
  | _ => none

/-- The depth within parentheses. -/
def depthInside (depth : Nat) : Nat :=
  max 1 (depth - 1)

/-- The direction of a channel type. -/
def Expr.channelDirection? : Expr → Option Direction
  | channel _ direction _ _ => some direction
  | _ => none

/-- Whether a type needs parentheses in order to be called. -/
def Expr.isCalledInParens : Expr → Bool
  | functionType .. => true
  | x => x.channelDirection? == some .receive

namespace Writers

/-- Write an expression with a binary operator. -/
def binary (w : Writers) (left : Expr) (operator : Symbol) (place : Position) (right : Expr)
    (blanks : Bool) (depth : Nat) : Draw := do
  let precedence := operator.precedence
  w.expr left precedence (if left.precedence? = some precedence then depth else depth + 1)
  if blanks then Draw.gap .blank
  let line := (← get).position.line
  Draw.symbolAt place operator
  let written ← if line ≠ right.start.line then Draw.breakTo right.start.line 1 .indent true
    else pure 0
  if blanks && written == 0 then Draw.gap .blank
  w.expr right (precedence + 1) (depth + 1)
  if written ≠ 0 then Draw.gap .unindent

/-- Write an operand and the name after its point. The result tells whether the name stands on a
line of its own, which is indented. -/
def selected (w : Writers) (operand : Expr) (field : Name) (depth : Nat) : StateM Pen Bool := do
  w.expr operand Symbol.operandPrecedence depth
  Draw.symbol .period
  let broken : Bool := (← get).position.line < field.span.start.line
  if broken then
    Draw.gap .indent
    Draw.gap .newline
  Draw.name field
  return broken

/-- Write what is called. The result tells whether it ends on an indented line. -/
def callee (w : Writers) (x : Expr) (depth : Nat) : StateM Pen Bool := do
  match x with
  | .selector _ operand field => w.selected operand field depth
  | x =>
    w.expr x Symbol.operandPrecedence depth
    return false

/-- Write a call. -/
def call (w : Writers) (x : Expr) (opening : Position) (arguments : List Expr)
    (spread : Option Position) (closing : Position) (depth : Nat) : Draw := do
  if x.isCalledInParens then Draw.symbol .openParen
  let indented ← w.callee x depth
  if x.isCalledInParens then Draw.symbol .closeParen
  Draw.symbolAt opening .openParen
  match spread with
  | some place =>
    w.list (some opening) arguments depth {} (some place)
    Draw.symbolAt place .ellipsis
    if place.line < closing.line then
      Draw.symbol .comma
      Draw.gap .formFeed
  | none => w.list (some opening) arguments depth { finalComma := true } (some closing)
  Draw.symbolAt closing .closeParen
  if indented then Draw.gap .unindent

/-- Write the bounds of a slice. `blanks` tells whether there are blanks around colons. -/
def sliceBounds (w : Writers) (blanks : Bool) (depth : Nat) : List (Option Expr) → Draw
  | [] => return
  | [none] => return
  | [some x] => w.expr x 0 depth
  | bound :: next :: rest => do
    if let some x := bound then w.expr x 0 depth
    if bound.isSome && blanks then Draw.gap .blank
    Draw.symbol .colon
    if next.isSome && blanks then Draw.gap .blank
    w.sliceBounds blanks depth (next :: rest)

/-- Whether the colons of a slice have blanks around them. -/
def hasWideColons (depth : Nat) (bounds : List (Option Expr)) : Bool :=
  let present := bounds.filterMap id
  decide (depth ≤ 1) && decide (1 < present.length) && present.any fun x => x.precedence?.isSome

/-- Write a composite value. -/
def composite (w : Writers) (type : Option Expr) (opening : Position) (elements : List Expr)
    (closing : Position) (depth : Nat) : Draw := do
  if let some type := type then w.expr type Symbol.operandPrecedence depth
  modify fun p => { p with level := p.level + 1 }
  Draw.symbolAt opening .openBrace
  w.list (some opening) elements 1 { finalComma := true } (some closing)
  Draw.gap .indent
  Draw.gap .unindent
  let toggle (p : Pen) : Pen :=
    { p with unbroken := !p.unbroken, tight := p.tight != !elements.isEmpty }
  modify toggle
  Draw.symbolAt closing .closeBrace
  modify fun p => { toggle p with level := p.level - 1 }

/-! ### Bodies of functions -/

/-- Write statements on lines of their own. `margin` tells whether they are indented, `closed`
whether a closing brace follows, and `line` is the written line of the statement before. -/
def statementLines (w : Writers) (margin closed : Bool) : List Stmt → Option Nat → Draw
  | [], _ => return
  | s :: rest, line => do
    if s.isEmpty then w.statementLines margin closed rest line
    else
      let lines ← Draw.linesSince (line.getD 0)
      let _ ← if (← get).count = 0 then pure 0
        else Draw.breakTo s.start.line 1 .nothing (line.isNone || !margin || decide (0 < lines))
      let line ← Draw.lineOf (w.stmt s (closed && rest.isEmpty))
      w.statementLines margin closed rest (some (line + s.labels))

/-- Write a list of statements. -/
def statements (w : Writers) (list : List Stmt) (margin closed : Bool) : Draw := do
  if margin then Draw.gap .indent
  w.statementLines margin closed list none
  if margin then Draw.gap .unindent

/-- Write a block. -/
def block (w : Writers) (b : Block) (margin : Bool) : Draw := do
  Draw.symbolAt b.opening .openBrace
  w.statements b.statements margin true
  let _ ← Draw.breakTo b.closing.line 1 .nothing true
  Draw.symbolAt b.closing .closeBrace

/-- The greatest length of a function on one line. -/
def functionLimit : Nat := 100

/-- The greatest number of statements on one line. -/
def statementLimit : Nat := 5

/-- The number of bytes of a statement, or one more than the limit. -/
def stmtSize (w : Writers) (s : Stmt) (limit : Nat) : StateM Pen Nat := do
  let indent := if 0 < s.labels then 1 else 0
  let size ← Draw.size? (s.start.offset, none) indent (w.stmt s false)
  return min (size.getD (limit + 1)) (limit + 1)

/-- The number of bytes of the statements of a block, or more than the limit. -/
def bodySize (w : Writers) (b : Block) : StateM Pen Nat := do
  if b.opening.line ≠ b.closing.line || statementLimit < b.statements.length then
    return functionLimit + 1
  let comments := (← get).commentSizeBefore b.closing.offset
  b.statements.foldlM (fun n s => return n + (← w.stmtSize s functionLimit))
    (comments + 2 * (b.statements.length - 1))

/-- Write statements on one line. -/
def statementsOnLine (w : Writers) : List Stmt → Bool → Draw
  | [], _ => return
  | s :: rest, first => do
    if !first then
      Draw.symbol .semicolon
      Draw.gap .blank
    w.stmt s rest.isEmpty
    w.statementsOnLine rest false

/-- Write the body of a function after a gap. `header` is the length of what comes before it on the
line, if all of it does. -/
def body (w : Writers) (header : Option Nat) (before : Gap) (b : Block) : Draw := do
  let level := (← get).level
  modify fun p => { p with level := 0 }
  let size ← w.bodySize b
  if header.any fun n => n + size ≤ functionLimit then
    Draw.gap before
    Draw.symbolAt b.opening .openBrace
    if !b.statements.isEmpty then
      Draw.gap .blank
      w.statementsOnLine b.statements true
      Draw.gap .blank
    modify fun p => { p with unbroken := !p.unbroken }
    Draw.symbolAt b.closing .closeBrace
    modify fun p => { p with unbroken := !p.unbroken }
  else
    Draw.gap .blank
    w.block b true
  modify fun p => { p with level }

/-- The number of bytes that have been written since a column, if the pen is on the given line of a
position. -/
def written? (start : Position) (column : Nat) : StateM Pen (Option Nat) := do
  let p ← get
  return if start.line = p.position.line then some (p.column - column) else none

/-- Write a function without a name. -/
def function (w : Writers) (start : Position) (type : Signature) (b : Block) : Draw := do
  Draw.keyword .func
  let column := (← get).column - Keyword.func.text.length
  w.signature type
  w.body (← written? start column) .blank b

/-! ### Expressions -/

/-- Write an expression by means of writers of its parts. `precedence` is that of the operator
around it. -/
def exprStep (w : Writers) (x : Expr) (precedence depth : Nat) : Draw := do
  Draw.goTo x.start
  match x with
  | .name n => modify (Pen.name n.text)
  | .literal _ kind text =>
    let isNumber := kind == .integer || kind == .float || kind == .imaginary
    let usual := (← get).usualNumbers && isNumber
    modify (Pen.literal kind (if usual then usualNumber text else text))
  | .binary _ left operator place right =>
    if operator.precedence < precedence then
      Draw.symbol .openParen
      w.expr x 0 (depthInside depth)
      Draw.symbol .closeParen
    else
      let cutoff := (OperatorUse.ofExpr x).cutoff depth
      w.binary left operator place right (decide (operator.precedence < cutoff)) depth
  | .pair _ key colon value =>
    w.expression key
    Draw.symbolAt colon .colon
    Draw.gap .blank
    w.expression value
  | .star _ operand =>
    let parens : Bool := Symbol.unaryPrecedence < precedence
    if parens then Draw.symbol .openParen
    Draw.symbol .mul
    w.expression operand
    if parens then Draw.symbol .closeParen
  | .unary _ operator operand =>
    if Symbol.unaryPrecedence < precedence then
      Draw.symbol .openParen
      w.expression x
      Draw.symbol .closeParen
    else
      Draw.symbol operator
      w.expr operand Symbol.unaryPrecedence depth
  | .function span type b => w.function span.start type b
  | .paren _ inner closing =>
    match inner with
    | .paren .. => w.expr inner 0 depth
    | inner =>
      Draw.symbol .openParen
      w.expr inner 0 (depthInside depth)
      Draw.symbolAt closing .closeParen
  | .selector _ operand field =>
    if ← w.selected operand field depth then Draw.gap .unindent
  | .assertion _ operand opening type closing =>
    w.expr operand Symbol.operandPrecedence depth
    Draw.symbol .period
    Draw.symbolAt opening .openParen
    match type with
    | some type => w.expression type
    | none => Draw.keyword .type
    Draw.symbolAt closing .closeParen
  | .index _ operand opening indices closing =>
    w.expr operand Symbol.operandPrecedence 1
    Draw.symbolAt opening .openBracket
    match indices with
    | [index] => w.expr index 0 (depth + 1)
    | indices => w.list (some opening) indices (depth + 1) { finalComma := true } (some closing)
    Draw.symbolAt closing .closeBracket
  | .slice _ operand opening bounds closing =>
    w.expr operand Symbol.operandPrecedence 1
    Draw.symbolAt opening .openBracket
    w.sliceBounds (hasWideColons depth bounds) (depth + 1) bounds
    Draw.symbolAt closing .closeBracket
  | .call _ callee opening arguments spread closing =>
    w.call callee opening arguments spread closing
      (if 1 < arguments.length then depth + 1 else depth)
  | .composite _ type opening elements closing => w.composite type opening elements closing depth
  | .ellipsis _ element =>
    Draw.symbol .ellipsis
    if let some element := element then w.expression element
  | .array _ length element =>
    Draw.symbol .openBracket
    if let some length := length then w.expression length
    Draw.symbol .closeBracket
    w.expression element
  | .struct _ fields =>
    Draw.keyword .struct
    w.fields fields true
  | .functionType _ type =>
    Draw.keyword .func
    w.signature type
  | .interface _ methods =>
    Draw.keyword .interface
    w.fields methods false
  | .map _ key value =>
    Draw.keyword .map
    Draw.symbol .openBracket
    w.expression key
    Draw.symbol .closeBracket
    w.expression value
  | .channel _ direction arrow value =>
    if direction = .receive then Draw.symbol .arrow
    Draw.keyword .chan
    if direction = .send then Draw.symbolAt arrow .arrow
    Draw.gap .blank
    w.expression value

end Writers

end X86Decoder.Source
