import X86Decoder.Source.Printer.Statement

/-!
# Writing source files

The declarations of a file. An empty line stands between declarations of different kinds, and before
one that has a comment of its own.
-/

namespace X86Decoder.Source

namespace Declaration

/-- The passage of a declaration. -/
def span : Declaration → Span
  | declared (.mk span _ _ _ _) => span
  | function span _ _ _ _ _ => span

/-- The keyword that a declaration starts with. -/
def word : Declaration → Keyword
  | declared (.mk _ word _ _ _) => word
  | function .. => .func

/-- The comment in front of a declaration. -/
def doc : Declaration → Option CommentGroup
  | declared (.mk _ _ _ _ doc) => doc
  | function _ _ _ _ _ doc => doc

end Declaration

namespace Writers

/-- Write a declaration of a file. -/
def declaration (w : Writers) : Declaration → Draw
  | .declared d => w.declared d
  | .function span receiver name type body doc => do
    Draw.ownComment doc
    Draw.goTo span.start
    Draw.keyword .func
    Draw.gap .blank
    let column := (← get).column - (Keyword.func.text.length + 1)
    if let some fields := receiver then
      w.parameters fields .ordinary
      Draw.gap .blank
    w.expression (.name name)
    w.signature type
    if let some b := body then w.body (← written? span.start column) .column b

/-- Write declarations. `previous` is the keyword of the one before. -/
def declarations (w : Writers) : List Declaration → Option Keyword → Draw
  | [], _ => return
  | d :: rest, previous => do
    let least := if previous != some d.word || d.doc.isSome then 2 else 1
    let tall := d.word == .func && decide (d.span.start.line < d.span.stop.line)
    let _ ← Draw.breakTo d.span.start.line least .nothing tall
    w.declaration d
    w.declarations rest (some d.word)

/-- Write a file. -/
def file (w : Writers) (f : File) : Draw := do
  Draw.goTo f.start
  Draw.keyword .package
  Draw.gap .blank
  w.expression (.name f.package)
  w.declarations f.declarations none
  Draw.gap .newline

end Writers

end X86Decoder.Source
