import X86Decoder.Source.Parser.Type

/-!
# Reading expressions
-/

namespace X86Decoder.Source.Readers

open Reader

/-- Read the statements of a block up to its closing brace or the next case, which are not taken. -/
def statements (r : Readers) : Reader (List Stmt) :=
  many r.fuel <| do
    match ← kind with
    | .keyword .caseWord | .keyword .default | .symbol .closeBrace | .finish => return none
    | _ => return some (← r.statement)

/-- Read a block, and where it has ended. -/
def block (r : Readers) : Reader (Block × Position) := do
  let opening ← expect .openBrace
  let list ← r.statements
  let closing ← expectSpan .closeBrace
  return (.mk opening list closing.start, closing.stop)

/-- Read the value of an element, which may be a composite value without a type. -/
def elementValue (r : Readers) : Reader Expr := do
  if ← sees .openBrace then r.composite none else r.expression

/-- Read an element of a composite value. -/
def element (r : Readers) : Reader Expr := do
  let x ← r.elementValue
  if ← sees .colon then
    let colon ← expect .colon
    let value ← r.elementValue
    return .pair ⟨x.start, value.stop⟩ x colon value
  else return x

/-- Read the elements of a composite value of a type. -/
def compositeFrom (r : Readers) (type : Option Expr) : Reader Expr := do
  let opening ← expect .openBrace
  let elements ← deeper (commaList .closeBrace r.fuel r.element)
  let closing ← expectSpan .closeBrace
  let start := (type.map Expr.start).getD opening
  return .composite ⟨start, closing.stop⟩ type opening elements closing.start

/-- Read an operand. -/
def operand (r : Readers) : Reader Expr := do
  let t ← token
  match t.kind with
  | .name => return .name (← name)
  | .literal k =>
    let _ ← take
    return .literal t.span k t.text
  | .symbol .openParen =>
    let _ ← take
    let x ← deeper r.expression
    let closing ← expectSpan .closeParen
    return .paren ⟨t.span.start, closing.stop⟩ x closing.start
  | .keyword .func =>
    let (span, type) ← r.functionType
    if ← sees .openBrace then
      let (body, stop) ← deeper r.block
      return .function ⟨span.start, stop⟩ type body
    else return .functionType span type
  | _ => r.type

/-- Read one bound of a slice, if it is given. -/
def bound? (r : Readers) : Reader (Option Expr) := do
  if (← sees .colon) || (← sees .closeBracket) then return none
  else return some (← r.expression)

/-- Read the rest of an operand with an index, the bounds of a slice, or type arguments. -/
def indexRest (r : Readers) (x : Expr) : Reader Expr := do
  let opening ← expect .openBracket
  let (bounds, indices) ← deeper do
    let first ← r.bound?
    if ← sees .colon then
      let others ← many 3 <| do
        if ← accept .colon then return some (← r.bound?) else return none
      return (first :: others, [])
    else
      match first with
      | none => failure
      | some first =>
        let others ← many r.fuel <| do
          if ← accept .comma then
            if ← sees .closeBracket then return none else return some (← r.type)
          else return none
        return ([], first :: others)
  let closing ← expectSpan .closeBracket
  let span : Span := ⟨x.start, closing.stop⟩
  if bounds.isEmpty then return .index span x opening indices closing.start
  else return .slice span x opening bounds closing.start

/-- Read the arguments of a call. -/
def callRest (r : Readers) (x : Expr) : Reader Expr := do
  let opening ← expect .openParen
  let arguments ← deeper <| commaList .closeParen r.fuel do
    let argument ← r.expression
    if ← sees .ellipsis then return (argument, some (← expect .ellipsis))
    else return (argument, none)
  let closing ← expectSpan .closeParen
  return .call ⟨x.start, closing.stop⟩ x opening (arguments.map Prod.fst)
    (arguments.getLast?.bind Prod.snd) closing.start

/-- Whether a brace after an expression opens a composite value of this type. -/
def opensComposite (level : Int) (x : Expr) : Bool :=
  match x with
  | .name _ | .selector _ _ _ | .index _ _ _ _ _ => 0 ≤ level
  | .array _ _ _ | .struct _ _ | .map _ _ _ => true
  | _ => false

/-- Read what follows an operand and belongs to it. -/
def primaryFrom (r : Readers) : Nat → Expr → Reader Expr
  | 0, _ => failure
  | fuel + 1, x => do
    match ← kind with
    | .symbol .period =>
      let _ ← take
      if ← sees .openParen then
        let opening ← expect .openParen
        let type ←
          if ← seesWord .type then
            let _ ← take
            pure none
          else pure (some (← r.type))
        let closing ← expectSpan .closeParen
        r.primaryFrom fuel (.assertion ⟨x.start, closing.stop⟩ x opening type closing.start)
      else
        let field ← name
        r.primaryFrom fuel (.selector ⟨x.start, field.span.stop⟩ x field)
    | .symbol .openBracket => r.primaryFrom fuel (← r.indexRest x)
    | .symbol .openParen => r.primaryFrom fuel (← r.callRest x)
    | .symbol .openBrace =>
      if opensComposite (← get).level x then r.primaryFrom fuel (← r.composite (some x))
      else return x
    | _ => return x

/-- Read an operand with all that belongs to it. -/
def primary (r : Readers) : Reader Expr := do
  r.primaryFrom r.fuel (← r.operand)

/-- A channel type that an arrow stands before: the arrow belongs to the innermost channel type. -/
def withArrow (arrow : Position) : Expr → Option Expr
  | .channel span .both _ x => some (.channel ⟨arrow, span.stop⟩ .receive arrow x)
  | .channel span .send inner x =>
    (withArrow inner x).map fun x => .channel ⟨arrow, span.stop⟩ .receive arrow x
  | _ => none

/-- Whether an expression is the type of a channel. -/
def isChannel : Expr → Bool
  | .channel _ _ _ _ => true
  | _ => false

/-- Read an operand with the unary operators in front of it. -/
def unaryFrom (r : Readers) : Reader Expr := do
  let t ← token
  match t.kind with
  | .symbol .mul =>
    let _ ← take
    let x ← r.unary
    return .star ⟨t.span.start, x.stop⟩ x
  | .symbol .arrow =>
    let _ ← take
    let x ← r.unary
    if isChannel x then
      match withArrow t.span.start x with
      | some x => return x
      | none => failure
    else return .unary ⟨t.span.start, x.stop⟩ .arrow x
  | .symbol s =>
    if s.isUnary then
      let _ ← take
      let x ← r.unary
      return .unary ⟨t.span.start, x.stop⟩ s x
    else r.primary
  | _ => r.primary

/-- Read the rest of an expression of operators that bind at least as tightly as `precedence`. -/
def operatorsFrom (r : Readers) (precedence : Nat) : Nat → Expr → Reader Expr
  | 0, _ => failure
  | fuel + 1, x => do
    let t ← token
    match t.kind with
    | .symbol s =>
      if precedence ≤ s.precedence then
        let _ ← take
        let y ← r.binary (s.precedence + 1)
        r.operatorsFrom precedence fuel (.binary ⟨x.start, y.stop⟩ x s t.span.start y)
      else return x
    | _ => return x

/-- Read an expression of operators that bind at least as tightly as `precedence`. -/
def binaryFrom (r : Readers) (precedence : Nat) : Reader Expr := do
  r.operatorsFrom precedence r.fuel (← r.unary)

end X86Decoder.Source.Readers
