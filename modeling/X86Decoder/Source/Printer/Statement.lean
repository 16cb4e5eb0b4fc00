import X86Decoder.Source.Printer.Declared

/-!
# Writing statements

Each statement of a block stands on a line of its own, and lines that were left empty between them
stay so.
-/

namespace X86Decoder.Source

/-! ### Conditions -/

namespace Expr

/-- Whether an expression is the name of a type. -/
def isTypeName : Expr → Bool
  | name _ => true
  | selector _ x _ => x.isTypeName
  | _ => false

mutual

/-- Whether an expression has, outside parentheses, a composite value whose brace could be taken
for that of a block. -/
def hasOpenBrace : Expr → Bool
  | composite _ type _ _ _ => type.any isTypeName
  | selector _ x _ | star _ x | unary _ _ x | ellipsis _ (some x) | array _ none x
  | channel _ _ _ x | assertion _ x _ none _ => hasOpenBrace x
  | binary _ x _ _ y | pair _ x _ y | map _ x y | array _ (some x) y | assertion _ x _ (some y) _ =>
    hasOpenBrace x || hasOpenBrace y
  | index _ x _ xs _ | call _ x _ xs _ _ => hasOpenBrace x || haveOpenBrace xs
  | slice _ x _ xs _ => hasOpenBrace x || boundsHaveOpenBrace xs
  | _ => false

/-- Whether one of several expressions has such a value. -/
def haveOpenBrace : List Expr → Bool
  | [] => false
  | x :: xs => hasOpenBrace x || haveOpenBrace xs

/-- Whether one of several bounds has such a value. -/
def boundsHaveOpenBrace : List (Option Expr) → Bool
  | [] => false
  | none :: xs => boundsHaveOpenBrace xs
  | some x :: xs => hasOpenBrace x || boundsHaveOpenBrace xs

end

/-- A condition without parentheses that it does not need. -/
def condition : Expr → Expr
  | x@(paren _ inner _) => if inner.hasOpenBrace then x else inner.condition
  | x => x

end Expr

namespace Writers

/-- Write what stands between a keyword and a block. -/
def clause (w : Writers) (isLoop : Bool) (init : Option Stmt) (condition : Option Expr)
    (post : Option Stmt) : Draw := do
  Draw.gap .blank
  if init.isNone && post.isNone then
    if let some x := condition then
      w.expression x.condition
      Draw.gap .blank
  else
    if let some s := init then w.stmt s false
    Draw.symbol .semicolon
    Draw.gap .blank
    if let some x := condition then w.expression x.condition
    if isLoop then
      Draw.symbol .semicolon
      Draw.gap .blank
      if let some s := post then
        w.stmt s false
        Draw.gap .blank
    else if condition.isSome then Draw.gap .blank

/-! ### Lists of results -/

/-- The number of expressions that go over several lines, or none if one starts on another line than
that on which the one before it ends. -/
def tallOnes? : List Expr → Nat → Option Nat
  | [], _ => some 0
  | x :: rest, line =>
    if line < x.start.line then none
    else
      (tallOnes? rest x.stop.line).map fun n => if x.start.line < x.stop.line then n + 1 else n

/-- Whether a list of results is indented as a whole. -/
def isIndented (xs : List Expr) : Bool :=
  match xs with
  | first :: _ :: _ =>
    match tallOnes? xs first.start.line with
    | none => true
    | some n => decide (1 < n)
  | _ => false

/-- Write the results that a function returns. -/
def results (w : Writers) (xs : List Expr) : Draw := do
  if !xs.isEmpty then
    Draw.gap .blank
    if isIndented xs then
      Draw.gap .indent
      w.list none xs 1 { flush := true } none
      Draw.gap .unindent
    else w.list none xs 1 {} none

/-! ### Statements -/

/-- Write a statement with a label. -/
def labeled (w : Writers) (label : Name) (colon : Position) (s : Stmt) (closed : Bool) : Draw := do
  Draw.gap .unindent
  w.expression (.name label)
  Draw.symbolAt colon .colon
  Draw.gap .indent
  if s.isEmpty then
    if !closed then
      Draw.gap .newline
      Draw.symbolAt s.start .semicolon
  else
    let _ ← Draw.breakTo s.start.line 1 .nothing true
    w.stmt s closed

/-- Write a statement by means of writers of its parts. `closed` tells whether a closing brace
follows. -/
def stmtStep (w : Writers) (s : Stmt) (closed : Bool) : Draw := do
  Draw.goTo s.start
  match s with
  | .declaration _ d => w.declared d
  | .empty _ => return
  | .labeled label colon s => w.labeled label colon s closed
  | .expression x => w.expression x
  | .send channel arrow value =>
    w.expression channel
    Draw.gap .blank
    Draw.symbolAt arrow .arrow
    Draw.gap .blank
    w.expression value
  | .step x operator place =>
    w.expr x 0 2
    Draw.symbolAt place operator
  | .assign left operator place right =>
    let depth := if 1 < left.length && 1 < right.length then 2 else 1
    w.list (some s.start) left depth {} (some place)
    Draw.gap .blank
    Draw.symbolAt place operator
    Draw.gap .blank
    w.list (some place) right depth {} none
  | .go _ call =>
    Draw.keyword .goWord
    Draw.gap .blank
    w.expression call
  | .deferred _ call =>
    Draw.keyword .deferWord
    Draw.gap .blank
    w.expression call
  | .returned _ xs =>
    Draw.keyword .returnWord
    w.results xs
  | .branch _ word label =>
    Draw.keyword word
    if let some label := label then
      Draw.gap .blank
      w.expression (.name label)
  | .block b => w.block b true
  | .conditional _ init condition b otherwise =>
    Draw.keyword .ifWord
    w.clause false init condition none
    w.block b true
    if let some s := otherwise then
      Draw.gap .blank
      Draw.keyword .elseWord
      Draw.gap .blank
      w.stmt s closed
  | .case start values colon list =>
    if values.isEmpty then Draw.keyword .default
    else
      Draw.keyword .caseWord
      Draw.gap .blank
      w.list (some start) values 1 {} (some colon)
    Draw.symbolAt colon .colon
    w.statements list true closed
  | .switch _ init subject b =>
    Draw.keyword .switch
    w.clause false init subject none
    w.block b false
  | .typeSwitch _ init subject b =>
    Draw.keyword .switch
    if let some s := init then
      Draw.gap .blank
      w.stmt s false
      Draw.symbol .semicolon
    Draw.gap .blank
    w.stmt subject false
    Draw.gap .blank
    w.block b false
  | .communication _ communication colon list =>
    match communication with
    | none => Draw.keyword .default
    | some s =>
      Draw.keyword .caseWord
      Draw.gap .blank
      w.stmt s false
    Draw.symbolAt colon .colon
    w.statements list true closed
  | .select _ b =>
    Draw.keyword .select
    Draw.gap .blank
    if b.statements.isEmpty && !(← get).commentBefore b.closing.offset then
      Draw.symbolAt b.opening .openBrace
      Draw.symbolAt b.closing .closeBrace
    else w.block b false
  | .loop _ init condition post b =>
    Draw.keyword .forWord
    w.clause true init condition post
    w.block b true
  | .range _ key value operator place _ subject b =>
    Draw.keyword .forWord
    Draw.gap .blank
    if let some key := key then
      w.expression key
      if let some value := value then
        Draw.symbolAt value.start .comma
        Draw.gap .blank
        w.expression value
      Draw.gap .blank
      Draw.symbolAt place operator
      Draw.gap .blank
    Draw.keyword .range
    Draw.gap .blank
    w.expression subject.condition
    Draw.gap .blank
    w.block b true

/-- Writers of parts that are nested up to the given depth. -/
def upTo : Nat → Writers
  | 0 => { expr := fun _ _ _ => return, stmt := fun _ _ => return }
  | depth + 1 =>
    { expr := fun x precedence d p => (upTo depth).exprStep x precedence d p
      stmt := fun s closed p => (upTo depth).stmtStep s closed p }

end Writers

end X86Decoder.Source
