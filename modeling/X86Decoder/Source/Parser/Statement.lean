import X86Decoder.Source.Parser.Expression

/-!
# Reading statements and declarations
-/

namespace X86Decoder.Source

namespace Readers

open Reader

/-! ### Declarations of values and types -/

/-- Read names with constants or variables. -/
def valueSpec (r : Readers) (word : Keyword) : Reader Spec := do
  let doc := (← token).lead
  let names ← sequence r.fuel name
  let type ← if ← sees .assign then pure none else r.type?
  let values ← if ← accept .assign then r.expressions else pure []
  if word == .var && type.isNone && values.isEmpty then failure
  let comment ← semicolon
  return .values names type values doc comment

/-- The name of a type parameter at the start of an expression, and the constraint after it. The
constraint is taken for a factor if it starts with a star; it need not be one if `forced`. -/
def splitParameter (forced : Bool) : Expr → Option (Name × Option Expr)
  | .name n => some (n, none)
  | .binary _ (.name n) .mul place y =>
    if forced || isTypeElement y then some (n, some (.star ⟨place, y.stop⟩ y)) else none
  | .binary _ x .or place y =>
    match splitParameter (forced || isTypeElement y) x with
    | some (n, some left) => some (n, some (.binary ⟨left.start, y.stop⟩ left .or place y))
    | _ => none
  | .call _ (.name n) _ [x] none _ =>
    if forced || isTypeElement x then some (n, some x) else none
  | _ => none
where
  /-- Whether an expression can only be a type. -/
  isTypeElement : Expr → Bool
    | .array _ _ _ | .struct _ _ | .functionType _ _ | .interface _ _ | .map _ _ _
    | .channel _ _ _ _ => true
    | .binary _ x _ _ y => isTypeElement x || isTypeElement y
    | .unary _ s x => s == .tilde || isTypeElement x
    | .paren _ x _ => isTypeElement x
    | _ => false

/-- Read the type parameters of a declared type after the opening bracket and the first name, which
may have a constraint. -/
def genericRest (r : Readers) (opening : Position) (first : Name) (constraint : Option Expr) :
    Reader (Fields × Expr × Bool) := do
  let p ← match constraint with
    | some x => pure (Parameter.mk (some first) (some (← r.union x)))
    | none =>
      let p ← r.parameterRest true first
      match p with
      | ⟨n, some x⟩ => pure ⟨n, some (← r.union x)⟩
      | _ => pure p
  let others ←
    if ← accept .comma then commaList .closeBracket r.fuel (r.parameter true) else pure []
  let closing ← expect .closeBracket
  match fieldsOf? (p :: others) with
  | none => failure
  | some fields =>
    let isAlias ← accept .assign
    let type ← r.type
    return (.mk (some (opening, closing)) fields, type, isAlias)

/-- Read the declaration of a type. -/
def typeSpec (r : Readers) : Reader Spec := do
  let doc := (← token).lead
  let n ← name
  if ← sees .openBracket then
    let opening ← expect .openBracket
    if (← kind) == .name then
      let first ← name
      let x ← if ← sees .openBracket then pure (Expr.name first)
        else deeper do
          let x ← r.primaryFrom r.fuel (.name first)
          r.operatorsFrom 1 r.fuel x
      match splitParameter (← sees .comma) x with
      | some (first, constraint) =>
        if constraint.isSome || !(← sees .closeBracket) then
          let (fields, type, isAlias) ← r.genericRest opening first constraint
          let comment ← semicolon
          return .type n (some fields) isAlias type doc comment
        else
          let type ← r.arrayRest opening (some x)
          let comment ← semicolon
          return .type n none false type doc comment
      | none =>
        let type ← r.arrayRest opening (some x)
        let comment ← semicolon
        return .type n none false type doc comment
    else
      let type ← r.arrayRest opening none
      let comment ← semicolon
      return .type n none false type doc comment
  else
    let isAlias ← accept .assign
    let type ← r.type
    let comment ← semicolon
    return .type n none isAlias type doc comment

/-- Where a type, a value or a name of a specification has ended. -/
def specStop : Spec → Position
  | .values names type values _ _ =>
    match values.getLast?, type, names.getLast? with
    | some x, _, _ => x.stop
    | none, some x, _ => x.stop
    | none, none, some n => n.span.stop
    | none, none, none => {}
  | .type _ _ _ type _ _ => type.stop

/-- Read the declaration of constants, types or variables, of which some may be in parentheses. -/
def declared (r : Readers) : Reader Declared := do
  let t ← take
  match t.kind with
  | .keyword word =>
    let spec ← match word with
      | .const | .var => pure (r.valueSpec word)
      | .type => pure r.typeSpec
      | _ => failure
    if ← sees .openParen then
      let opening ← expect .openParen
      let specs ← many r.fuel <| do
        if ← sees .closeParen then return none else return some (← spec)
      let closing ← expectSpan .closeParen
      let _ ← semicolon
      return .mk ⟨t.span.start, closing.stop⟩ word (some (opening, closing.start)) specs t.lead
    else
      let s ← spec
      return .mk ⟨t.span.start, specStop s⟩ word none [s] t.lead
  | _ => failure

/-! ### Simple statements -/

/-- Read a statement without a block or a label. -/
def simple (r : Readers) : Reader Stmt := do
  let xs ← r.expressions
  let t ← token
  match t.kind, xs with
  | .symbol .arrow, [x] =>
    let _ ← take
    return .send x t.span.start (← r.expression)
  | .symbol .increment, [x] | .symbol .decrement, [x] =>
    let _ ← take
    return .step x (if t.kind == .symbol .increment then .increment else .decrement) t.span.start
  | .symbol s, _ =>
    if s.isAssignment then
      let _ ← take
      return .assign xs s t.span.start (← r.expressions)
    else
      match xs with
      | [x] => return .expression x
      | _ => failure
  | _, [x] => return .expression x
  | _, _ => failure

/-- Read a simple statement unless a symbol follows. -/
def simpleUnless (r : Readers) (s : Symbol) : Reader (Option Stmt) := do
  if ← sees s then return none else return some (← r.simple)

/-- The expression that a statement consists of. -/
def condition? : Option Stmt → Reader (Option Expr)
  | none => return none
  | some (.expression x) => return some x
  | some _ => failure

/-! ### Statements with blocks -/

/-- Read the header of a conditional statement. -/
def conditionalHeader (r : Readers) : Reader (Option Stmt × Option Expr) := header do
  let first ← r.simpleUnless .semicolon
  if ← sees .openBrace then return (none, ← condition? first)
  else
    let _ ← expect .semicolon
    return (first, some (← r.expression))

/-- Read a conditional statement. -/
def conditional (r : Readers) : Reader Stmt := do
  let start ← expectWord .ifWord
  let (init, condition) ← r.conditionalHeader
  let (body, _) ← r.block
  if ← seesWord .elseWord then
    let _ ← take
    if ← seesWord .ifWord then return .conditional start init condition body (some (← r.statement))
    else
      let (other, _) ← r.block
      let _ ← semicolon
      return .conditional start init condition body (some (.block other))
  else
    let _ ← semicolon
    return .conditional start init condition body none

/-- Whether a statement is the guard of a type switch. -/
def isTypeGuard : Option Stmt → Bool
  | some (.expression (.assertion _ _ _ none _)) => true
  | some (.assign [_] .define _ [.assertion _ _ _ none _]) => true
  | _ => false

/-- Read the cases of a switch or a selection with the braces around them. -/
def cases (r : Readers) (case : Reader Stmt) : Reader Block := do
  let opening ← expect .openBrace
  let list ← many r.fuel <| do
    match ← kind with
    | .keyword .caseWord | .keyword .default => return some (← case)
    | _ => return none
  let closing ← expect .closeBrace
  let _ ← semicolon
  return .mk opening list closing

/-- Read a case of a switch. -/
def switchCase (r : Readers) : Reader Stmt := do
  let t ← take
  let values ← if t.kind == .keyword .caseWord then r.expressions else pure []
  let colon ← expect .colon
  return .case t.span.start values colon (← r.statements)

/-- Read a switch. -/
def switch (r : Readers) : Reader Stmt := do
  let start ← expectWord .switch
  let (init, subject) ← header do
    if ← sees .openBrace then return (none, none)
    let first ← r.simpleUnless .semicolon
    if ← accept .semicolon then return (first, ← r.simpleUnless .openBrace)
    else return (none, first)
  let body ← r.cases r.switchCase
  match subject with
  | some s =>
    if isTypeGuard subject then return .typeSwitch start init s body
    else return .switch start init (← condition? subject) body
  | none => return .switch start init none body

/-- Read a case of a selection. -/
def selectCase (r : Readers) : Reader Stmt := do
  let t ← take
  let communication ← if t.kind == .keyword .caseWord then pure (some (← r.simple)) else pure none
  let colon ← expect .colon
  return .communication t.span.start communication colon (← r.statements)

/-- Read a loop over a range after its variables. -/
def rangeRest (r : Readers) (start : Position) (targets : List Expr) (operator : Symbol)
    (place : Position) : Reader Stmt := do
  let word ← expectWord .range
  let subject ← r.expression
  return .range start targets.head? (targets.drop 1).head? operator place word subject
    (.mk {} [] {})

/-- Read the header of a loop. The body of the result is empty. -/
def loopHeader (r : Readers) (start : Position) : Reader Stmt := header do
  let loop (init : Option Stmt) (condition : Option Expr) (post : Option Stmt) : Stmt :=
    .loop start init condition post (.mk {} [] {})
  if ← sees .openBrace then return loop none none none
  if ← seesWord .range then return ← r.rangeRest start [] .assign start
  let first ←
    if ← sees .semicolon then pure none
    else
      let xs ← r.expressions
      let t ← token
      match t.kind with
      | .symbol s =>
        if s.isAssignment then
          let _ ← take
          if ← seesWord .range then
            if s == .define || s == .assign then
              return ← r.rangeRest start xs s t.span.start
            else failure
          else pure (some (Stmt.assign xs s t.span.start (← r.expressions)))
        else
          match s, xs with
          | .increment, [x] | .decrement, [x] =>
            let _ ← take
            pure (some (.step x s t.span.start))
          | .arrow, [x] =>
            let _ ← take
            pure (some (.send x t.span.start (← r.expression)))
          | _, [x] => pure (some (.expression x))
          | _, _ => failure
      | _ =>
        match xs with
        | [x] => pure (some (.expression x))
        | _ => failure
  if ← accept .semicolon then
    let second ← r.simpleUnless .semicolon
    let _ ← semicolon
    let post ← r.simpleUnless .openBrace
    return loop first (← condition? second) post
  else return loop none (← condition? first) none

/-- Read a loop. -/
def loop (r : Readers) : Reader Stmt := do
  let start ← expectWord .forWord
  let header ← r.loopHeader start
  let (body, _) ← r.block
  let _ ← semicolon
  match header with
  | .loop start init condition post _ => return .loop start init condition post body
  | .range start key value operator place word subject _ =>
    return .range start key value operator place word subject body
  | s => return s

/-! ### Statements -/

/-- Read a simple statement or a label with the statement after it. -/
def simpleOrLabeled (r : Readers) : Reader Stmt := do
  let s ← r.simple
  match s with
  | .expression (.name label) =>
    if ← sees .colon then
      let colon ← expect .colon
      if ← sees .closeBrace then
        return .labeled label colon (.empty (← token).span.start)
      else return .labeled label colon (← r.statement)
    else
      let _ ← semicolon
      return s
  | s =>
    let _ ← semicolon
    return s

/-- Read a statement that starts with a keyword. -/
def keywordStatement (r : Readers) (t : Token) : Keyword → Reader Stmt
  | .const | .type | .var => do return .declaration t.span.start (← r.declared)
  | .goWord => do
    let _ ← take
    let x ← r.expression
    let _ ← semicolon
    return .go t.span.start x
  | .deferWord => do
    let _ ← take
    let x ← r.expression
    let _ ← semicolon
    return .deferred t.span.start x
  | .returnWord => do
    let _ ← take
    let results ←
      if (← sees .semicolon) || (← sees .closeBrace) then pure [] else r.expressions
    let _ ← semicolon
    return .returned t.span.start results
  | .breakWord => branch .breakWord
  | .continueWord => branch .continueWord
  | .gotoWord => branch .gotoWord
  | .fallthroughWord => branch .fallthroughWord
  | .ifWord => r.conditional
  | .switch => r.switch
  | .select => do
    let _ ← take
    return .select t.span.start (← r.cases r.selectCase)
  | .forWord => r.loop
  | _ => r.simpleOrLabeled
where
  /-- Read a statement that goes elsewhere. -/
  branch (word : Keyword) : Reader Stmt := do
    let _ ← take
    let label ← if (← kind) == .name then pure (some (← name)) else pure none
    let _ ← semicolon
    return .branch t.span.start word label

/-- Read a statement. -/
def statementFrom (r : Readers) : Reader Stmt := do
  let t ← token
  match t.kind with
  | .keyword word => r.keywordStatement t word
  | .symbol .openBrace =>
    let (b, _) ← r.block
    let _ ← semicolon
    return .block b
  | .symbol .semicolon =>
    let _ ← take
    return .empty t.span.start
  | _ => r.simpleOrLabeled

end Readers

/-- Readers for parts that are nested less deep than the given number. -/
def Readers.upTo (fuel : Nat) : Nat → Readers
  | 0 =>
    { fuel, binary := fun _ => failure, unary := failure, type? := failure
      composite := fun _ => failure, statement := failure }
  | depth + 1 =>
    { fuel
      binary := fun precedence u => (upTo fuel depth).binaryFrom precedence u
      unary := fun u => (upTo fuel depth).unaryFrom u
      type? := fun u => (upTo fuel depth).typeFrom? u
      composite := fun type u => (upTo fuel depth).compositeFrom type u
      statement := fun u => (upTo fuel depth).statementFrom u }

namespace Readers

open Reader

/-- Read the declaration of a function. -/
def functionDeclaration (r : Readers) : Reader Declaration := do
  let t ← token
  let start ← expectWord .func
  let receiver ← if ← sees .openParen then pure (some (← r.parameters).1) else pure none
  let n ← name
  let generic ← r.typeParameters
  let (type, stop) ← r.signature generic
  if ← sees .openBrace then
    let (body, stop) ← r.block
    let _ ← semicolon
    return .function ⟨start, stop⟩ receiver n type (some body) t.lead
  else
    let _ ← semicolon
    return .function ⟨start, stop⟩ receiver n type none t.lead

/-- Read a source text. -/
def file (r : Readers) : Reader File := do
  let start ← expectWord .package
  let package ← name
  let _ ← semicolon
  let declarations ← many r.fuel <| do
    match ← kind with
    | .finish => return none
    | .keyword .func => return some (← r.functionDeclaration)
    | _ => return some (.declared (← r.declared))
  return { start, package, declarations }

end Readers

/-- The syntax of a source text with the given tokens. -/
def File.ofTokens? (tokens : List Token) : Option File :=
  let fuel := 2 * tokens.length + 16
  ((Readers.upTo fuel fuel).file { tokens }).map Prod.fst

end X86Decoder.Source
