import X86Decoder.Source.Printer.Basic

/-!
# Writing types

Parameters, signatures, and the fields and methods of types.
-/

namespace X86Decoder.Source

/-- Whether an expression can only be a type. -/
def Expr.isTypeElement : Expr → Bool
  | array .. | struct .. | functionType .. | interface .. | map .. | channel .. => true
  | unary _ operator _ => operator == .tilde
  | binary _ left _ _ right => left.isTypeElement || right.isTypeElement
  | paren _ inner _ => inner.isTypeElement
  | _ => false

/-- Whether a name and an expression after it would be read as one expression. -/
def Expr.joinsName : Expr → Bool
  | star _ operand => !operand.isTypeElement
  | binary _ left _ _ right => left.joinsName && !right.isTypeElement
  | _ => false

/-- The number of fields. One with several names counts as often. -/
def Fields.count (fields : Fields) : Nat :=
  fields.list.foldl (fun n field => n + max 1 field.names.length) 0

/-- The roles that parameters can have. -/
inductive ParameterRole where
  | ordinary
  /-- The type parameters of a function. -/
  | functionTypes
  /-- The parameters of a declared type. -/
  | typeTypes
deriving DecidableEq

namespace Writers

/-! ### Parameters -/

/-- Write parameters. `line` is the given line on which what comes before them ends, and `margin` is
what to hold back before the first end of a line. The result has both after the last parameter. -/
def parameterList (w : Writers) : List Field → Bool → Nat → Gap → StateM Pen (Nat × Gap)
  | [], _, line, margin => return (line, margin)
  | field :: rest, first, line, margin => do
    let start := field.start.line
    let breaks : Bool := line < start
    if !first then
      if !breaks then Draw.goTo field.start
      Draw.symbol .comma
    let written ← if breaks then Draw.breakTo start 0 margin true else pure 0
    let margin := if written = 0 then margin else .nothing
    if written = 0 && !first then Draw.gap .blank
    if !field.names.isEmpty then
      w.names field.names (margin == .indent)
      Draw.gap .blank
    w.expression field.type.inner
    w.parameterList rest false field.type.stop.line margin

/-- Write parameters with the marks around them. -/
def parameters (w : Writers) (fields : Fields) (role : ParameterRole) : Draw := do
  let (opening, closing) := fields.bounds.getD default
  let (openMark, closeMark) : Symbol × Symbol :=
    if role = .ordinary then (.openParen, .closeParen) else (.openBracket, .closeBracket)
  Draw.symbolAt opening openMark
  if !fields.list.isEmpty then
    let (line, margin) ← w.parameterList fields.list true opening.line .indent
    if line < closing.line then
      Draw.symbol .comma
      let _ ← Draw.breakTo closing.line 0 .nothing true
    else if role = .typeTypes && fields.count == 1
        && fields.list.head?.any fun field => field.type.inner.joinsName then
      Draw.symbol .comma
    if margin == .nothing then Draw.gap .unindent
  Draw.symbolAt closing closeMark

/-- Write the parameters and the results of a function. -/
def signature (w : Writers) : Signature → Draw
  | .mk typeParameters parameters results => do
    if let some fields := typeParameters then w.parameters fields .functionTypes
    w.parameters parameters .ordinary
    if let some fields := results then
      if 0 < fields.count then
        Draw.gap .blank
        match fields.list with
        | [.mk [] type _ _ _] => w.expression type.inner
        | _ => w.parameters fields .ordinary

/-! ### Fields and methods -/

/-- The greatest length of a field on the line of the word before it. -/
def fieldLimit : Nat := 30

/-- Whether fields are short enough for one line. -/
def areShort (w : Writers) : List Field → StateM Pen Bool
  | [.mk names type none _ none] => do
    let size ← w.exprSize type fieldLimit
    return decide ((if names.isEmpty then 0 else 1) + size ≤ fieldLimit)
  | _ => return false

/-- Write names on one line. -/
def namesOnLine (w : Writers) : List Name → Bool → Draw
  | [], _ => return
  | n :: rest, first => do
    if !first then
      Draw.symbol .comma
      Draw.gap .blank
    w.expression (.name n)
    w.namesOnLine rest false

/-- Write a method, or a type that an interface takes in. -/
def method (w : Writers) (field : Field) : Draw := do
  match field.names, field.type with
  | n :: _, .functionType _ type =>
    w.expression (.name n)
    w.signature type
  | _, type => w.expression type

/-- Write a field on the line of the word before it. -/
def shortField (w : Writers) (isStruct : Bool) (field : Field) : Draw := do
  if isStruct then
    w.namesOnLine field.names true
    if !field.names.isEmpty then Draw.gap .blank
    w.expression field.type
  else w.method field

/-- Write a field of a structure, with a gap between its parts. -/
def structField (w : Writers) (separator : Gap) : Field → Draw
  | .mk names type tag doc comment => do
    Draw.ownComment doc
    if names.isEmpty then w.expression type
    else
      w.names names false
      Draw.gap separator
      w.expression type
    if let some tag := tag then
      if !names.isEmpty && separator == .column then Draw.gap separator
      Draw.gap separator
      w.expression tag
    if comment.isSome then
      let columns := if tag.isSome then 0 else if names.isEmpty then 2 else 1
      columns.forM fun _ _ => Draw.gap separator
      Draw.ownComment comment

/-- Write a part of an interface. -/
def interfaceField (w : Writers) : Field → Draw
  | .mk names type tag doc comment => do
    Draw.ownComment doc
    w.method (.mk names type tag none none)
    Draw.ownComment comment

/-- Write fields on lines of their own. `line` is the written line of the field before. -/
def fieldLines (field : Field → Draw) : List Field → Option Nat → Draw
  | [], _ => return
  | f :: rest, line => do
    if let some line := line then
      let lines ← Draw.linesSince line
      let _ ← Draw.breakTo f.start.line 1 .nothing (decide (0 < lines))
    let line ← Draw.lineOf (field f)
    fieldLines field rest (some line)

/-- Write fields or methods with the braces around them. -/
def fields (w : Writers) (fs : Fields) (isStruct : Bool) : Draw := do
  let (opening, closing) := fs.bounds.getD default
  let list := fs.list
  let commented := (← get).commentBefore closing.offset
  let oneLine := !commented && opening.line == closing.line
  let short ← if oneLine then w.areShort list else pure false
  if oneLine && list.isEmpty then
    Draw.symbolAt opening .openBrace
    Draw.symbolAt closing .closeBrace
  else if short then
    Draw.symbolAt opening .openBrace
    Draw.gap .blank
    list.forM (w.shortField isStruct)
    Draw.gap .blank
    Draw.symbolAt closing .closeBrace
  else
    Draw.gap .blank
    Draw.symbolAt opening .openBrace
    Draw.gap .indent
    if commented || !list.isEmpty then Draw.gap .formFeed
    let separator : Gap := if list.length = 1 then .blank else .column
    fieldLines (if isStruct then w.structField separator else w.interfaceField) list none
    Draw.gap .unindent
    Draw.gap .formFeed
    Draw.symbolAt closing .closeBrace

end Writers

end X86Decoder.Source
