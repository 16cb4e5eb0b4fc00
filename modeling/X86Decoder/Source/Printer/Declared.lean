import X86Decoder.Source.Printer.Expression

/-!
# Writing declarations of constants, types and variables

Names that are declared together stand in columns with their types and values.
-/

namespace X86Decoder.Source

namespace Spec

/-- Whether values are given. -/
def hasValues : Spec → Bool
  | values _ _ vs _ _ => !vs.isEmpty
  | type .. => false

/-- Whether names are given with a type. -/
def hasType : Spec → Bool
  | values _ t _ _ _ => t.isSome
  | type .. => true

/-- For each part of a declaration, whether it has a column for types. In a run of parts that have
values, all have one if one of them has a type. -/
def typeColumns (specs : List Spec) : List Bool :=
  (specs.splitBy fun a b => a.hasValues == b.hasValues).flatMap fun run =>
    let kept := run.any fun s => s.hasValues && s.hasType
    run.map fun _ => kept

end Spec

namespace Writers

/-- Write values after the sign of assignment. -/
def assigned (w : Writers) (before : Gap) (values : List Expr) : Draw := do
  if !values.isEmpty then
    Draw.gap before
    Draw.symbol .assign
    Draw.gap .blank
    w.list none values 1 {} none

/-- Write a part of a declaration. `alone` tells whether it is the only one, and `indented` whether
names on further lines are indented. -/
def spec (w : Writers) (alone indented : Bool) : Spec → Draw
  | .values names type values doc comment => do
    Draw.ownComment doc
    w.names names indented
    if let some type := type then
      Draw.gap .blank
      w.expression type
    w.assigned .blank values
    Draw.ownComment comment
  | .type name parameters isAlias type doc comment => do
    Draw.ownComment doc
    w.expression (.name name)
    if let some fields := parameters then w.parameters fields .typeTypes
    Draw.gap (if alone then .blank else .column)
    if isAlias then
      Draw.symbol .assign
      Draw.gap .blank
    w.expression type
    Draw.ownComment comment

/-- Write a part of a declaration in columns. `typed` tells whether there is a column for types. -/
def alignedSpec (w : Writers) (typed : Bool) : Spec → Draw
  | .values names type values doc comment => do
    Draw.ownComment doc
    w.names names false
    let typed := typed || type.isSome
    if typed then Draw.gap .column
    if let some type := type then w.expression type
    w.assigned .column values
    if comment.isSome then
      let columns := 3 - (if typed then 1 else 0) - (if values.isEmpty then 0 else 1)
      columns.forM fun _ _ => Draw.gap .column
      Draw.ownComment comment
  | s => w.spec false false s

/-- Write parts of a declaration on lines of their own. `line` is the written line of the part
before. -/
def specLines : List (Spec × Draw) → Option Nat → Draw
  | [], _ => return
  | (s, draw) :: rest, line => do
    if let some line := line then
      let lines ← Draw.linesSince line
      let _ ← Draw.breakTo s.start.line 1 .nothing (decide (0 < lines))
    let line ← Draw.lineOf draw
    specLines rest (some line)

/-- Write a declaration of constants, types or variables. -/
def declared (w : Writers) : Declared → Draw
  | .mk span word bounds specs doc => do
    Draw.ownComment doc
    Draw.goTo span.start
    Draw.keyword word
    Draw.gap .blank
    match bounds, specs with
    | none, [s] => w.spec true true s
    | _, specs =>
      let (opening, closing) := bounds.getD default
      Draw.symbolAt opening .openParen
      if !specs.isEmpty then
        Draw.gap .indent
        Draw.gap .formFeed
        let alone := specs.length == 1
        let draws :=
          if alone || word == .type then specs.map fun s => (s, w.spec alone false s)
          else (specs.zip (Spec.typeColumns specs)).map fun (s, typed) => (s, w.alignedSpec typed s)
        specLines draws none
        Draw.gap .unindent
        Draw.gap .formFeed
      Draw.symbolAt closing .closeParen

end Writers

end X86Decoder.Source
