import X86Decoder.Source.ElementGroup
import X86Decoder.Source.Pen
import X86Decoder.Source.Syntax

/-!
# Writers

A writer moves a pen. Expressions and statements are written by writers that depend on each other,
through a record of them. Lists of expressions keep the ends of lines that they were given with.
-/

namespace X86Decoder.Source

/-- What moves a pen. -/
abbrev Draw := StateM Pen Unit

namespace Draw

/-- Go on at a position of the given text. -/
def goTo (position : Position) : Draw :=
  modify (Pen.moveTo position)

/-- Hold back a gap. -/
def gap (g : Gap) : Draw :=
  modify (Pen.gap g)

/-- Write a symbol. -/
def symbol (s : Symbol) : Draw :=
  modify (Pen.symbol s)

/-- Write a symbol that was given at a position. -/
def symbolAt (position : Position) (s : Symbol) : Draw := do
  Draw.goTo position
  symbol s

/-- Write a keyword. -/
def keyword (k : Keyword) : Draw :=
  modify (Pen.keyword k)

/-- Write a name that was given at its position. -/
def name (n : Name) : Draw := do
  Draw.goTo n.span.start
  modify (Pen.name n.text)

/-- Hold back ends of lines up to a given line, as `Pen.breakTo` does. -/
def breakTo (line least : Nat) (before : Gap) (newSection : Bool) : StateM Pen Nat := do
  let (p, breaks) := (← get).breakTo line least before newSection
  set p
  return breaks

/-- Add a comment that belongs to a field or a declaration. -/
def ownComment (group : Option CommentGroup) : Draw :=
  modify (Pen.ownComment group)

/-- Write something, and give the line on which its first token has been written. -/
def lineOf (d : Draw) : StateM Pen Nat := do
  let outer := (← get).firstLine
  modify fun p => { p with firstLine := none }
  d
  let line := (← get).firstLine.getD 0
  modify fun p => { p with firstLine := outer }
  return line

/-- The number of lines that have been begun since a written line. -/
def linesSince (line : Nat) : StateM Pen Nat := do
  return (← get).line - line

/-- The number of bytes of a part, if it is one line: the known one, or else that of what another
pen writes. -/
def size? (part : Part) (indent : Nat) (d : Draw) : StateM Pen (Option Nat) := do
  match (← get).sizes[part]? with
  | some size => return size
  | none =>
    let sizes ← modifyGet fun p => (p.sizes, { p with sizes := {} })
    let p := (d.run { indent, sizes, ownComments := true, usualNumbers := false }).2
    let size := p.finish.sizeOnLine?
    modify fun q => { q with sizes := p.sizes.insert part size }
    return size

end Draw

/-- Writers of parts that contain each other. -/
structure Writers where
  /-- An expression within an operator that binds as tightly as the first number tells. The second
  number grows with the depth of the expression, and blanks around operators get fewer. -/
  expr : Expr → Nat → Nat → Draw
  /-- A statement. It is also given whether a closing brace follows. -/
  stmt : Stmt → Bool → Draw

namespace Writers

/-- Write an expression that stands alone. -/
def expression (w : Writers) (x : Expr) : Draw :=
  w.expr x 0 1

/-- The number of bytes of an expression, or one more than the limit. -/
def exprSize (w : Writers) (x : Expr) (limit : Nat) : StateM Pen Nat := do
  let size ← Draw.size? (x.start.offset, some x.stop.offset) 0 (w.expression x)
  return min (size.getD (limit + 1)) (limit + 1)

/-! ### Lists of expressions -/

/-- How a list of expressions is written. -/
structure ListMode where
  /-- Whether a comma may stand after the last item. -/
  finalComma : Bool := false
  /-- Whether the lines after the first are not indented. -/
  flush : Bool := false

/-- The greatest length of an element that matters for groups. -/
def elementLimit : Nat := 1000000

/-- The length of an element, which is that of its key if it has one, or zero if the element goes
over several lines. -/
def elementSize (w : Writers) (x : Expr) : StateM Pen Nat := do
  let size ← w.exprSize x elementLimit
  if elementLimit < size then return 0
  match x with
  | .pair _ key _ _ => w.exprSize key elementLimit
  | _ => return size

/-- Write a list of expressions that stands on one line. -/
def listOnLine (w : Writers) (depth : Nat) : List Expr → Bool → Draw
  | [], _ => return
  | x :: rest, first => do
    if !first then
      Draw.symbolAt x.start .comma
      Draw.gap .blank
    w.expr x 0 depth
    w.listOnLine depth rest false

/-- Write an element of a list. A key on a line of its own has a column. -/
def listElement (w : Writers) (depth : Nat) (columns : Bool) (x : Expr) : Draw := do
  match x, columns with
  | .pair _ key colon value, true =>
    w.expression key
    Draw.symbolAt colon .colon
    Draw.gap .column
    w.expression value
  | x, _ => w.expr x 0 depth

/-- How far a list of expressions has been written. -/
structure ListState where
  /-- Whether the next element is the first one. -/
  first : Bool := true
  /-- The given line of the element before, or zero if there is none. -/
  line : Nat
  /-- What to hold back before the first end of a line. -/
  margin : Gap
  group : ElementGroup

/-- Write the elements of a list that stands on several lines. `sized` tells whether the lengths of
elements matter, and `several` whether there is more than one. The result is what is still held
back for the first end of a line. -/
def listElements (w : Writers) (depth : Nat) (sized several : Bool) :
    List Expr → ListState → StateM Pen Gap
  | [], s => return s.margin
  | x :: rest, s => do
    let line := x.start.line
    let size ← if sized then w.elementSize x else pure 0
    let breaks : Bool := 0 < s.line && s.line < line
    let columns := several && decide (0 < size) && breaks
    if s.first then
      w.listElement depth columns x
      let group := s.group.add size s.group.startsLine
      w.listElements depth sized several rest { s with first := false, line, group }
    else
      if !breaks then Draw.goTo x.start
      Draw.symbol .comma
      let written ←
        if breaks then Draw.breakTo line 0 s.margin (s.group.endsBefore size) else pure 0
      if written = 0 then Draw.gap .blank
      w.listElement depth columns x
      let margin := if written = 0 then s.margin else .nothing
      let group := if 1 < written then {} else s.group
      w.listElements depth sized several rest
        { s with line, margin, group := group.add size (written != 0) }

/-- Write a list of expressions between two positions, if these are known. -/
def list (w : Writers) (before : Option Position) (xs : List Expr) (depth : Nat) (mode : ListMode)
    (after : Option Position) : Draw := do
  match xs.head?, xs.getLast? with
  | some first, some last =>
    let line := first.start.line
    let beforeLine := (before.map Position.line).getD 0
    if before.isSome && beforeLine == line && line == last.stop.line then
      w.listOnLine depth xs true
    else
      let margin : Gap := if mode.flush then .nothing else .indent
      let written ← if 0 < beforeLine && beforeLine < line then Draw.breakTo line 0 margin true
        else pure 0
      let margin ← w.listElements depth (before.isSome && after.isSome) (decide (1 < xs.length)) xs
        { line := beforeLine, margin := if written = 0 then margin else .nothing
          group := { startsLine := written != 0 } }
      let indented := margin == .nothing && !mode.flush
      let broken := (← get).position.line < (after.map Position.line).getD 0
      if mode.finalComma && broken then
        Draw.symbol .comma
        if indented then Draw.gap .unindent
        Draw.gap .formFeed
      else if indented then Draw.gap .unindent
  | _, _ => return

/-- Write names with commas between them. -/
def names (w : Writers) (ns : List Name) (indented : Bool) : Draw :=
  w.list none (ns.map .name) 1 { flush := !indented } none

end Writers

end X86Decoder.Source
