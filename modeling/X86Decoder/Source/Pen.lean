import Std.Data.HashMap
import X86Decoder.Source.BuildConstraint
import X86Decoder.Source.Token
import X86Decoder.Text.Layout

/-!
# Writing source

Source is written token by token, with regard to the lines on which its parts were given. Blanks and
ends of lines are held back until the next token, for there may be comments before it. A form feed
within a literal or a comment counts as the end of a line there, and ends the alignment of the line
that is being written.
-/

namespace X86Decoder.Source

/-- What may stand between tokens. -/
inductive Gap where
  /-- A gap that was dropped. -/
  | nothing
  | blank
  /-- The end of a cell. -/
  | column
  | newline
  /-- The end of a line and of all columns. -/
  | formFeed
  | indent
  | unindent
deriving DecidableEq

namespace Gap

/-- Whether a gap ends a line. -/
def isBreak (g : Gap) : Bool :=
  g == newline || g == formFeed

/-- The character that is written for a gap. -/
def char? : Gap → Option Char
  | blank => some ' '
  | column => some '\x0b'
  | newline => some '\n'
  | formFeed => some '\x0c'
  | nothing | indent | unindent => none

end Gap

/-- A part of the given text whose size may be known: where it starts, and where it has ended if it
is an expression. -/
abbrev Part := Nat × Option Nat

/-- What has been written, and where the writing has got to. -/
structure Pen where
  /-- What has been written, in reverse. -/
  items : Text.Layout := []
  /-- The number of items that have been written. -/
  count : Nat := 0
  /-- The number of tabs at the start of a line. -/
  indent : Nat := 0
  /-- How deep composite values are nested here. -/
  level : Nat := 0
  /-- Whether no blank is added after an enclosed comment. -/
  tight : Bool := false
  /-- Whether no end of a line is added after an enclosed comment. -/
  unbroken : Bool := false
  /-- Whether the rest of the line is not aligned. -/
  unaligned : Bool := false
  /-- Whether the end of the line would end a statement. -/
  endsStatement : Bool := false
  /-- The last token, unless a gap follows it. -/
  last : Option TokenKind := none
  /-- The opening parenthesis or bracket right before the last token. -/
  opened : Option Symbol := none
  /-- The gaps that are held back. -/
  pending : List Gap := []
  /-- The position in the given text that has been reached. -/
  position : Position := {}
  /-- The line that is being written. -/
  line : Nat := 1
  /-- The place in this line in bytes, counting from one. -/
  column : Nat := 1
  /-- The given line on which the last token or comment ended, or zero at the start. -/
  lastLine : Nat := 0
  /-- The comments that are still to be written. -/
  comments : List CommentGroup := []
  /-- Whether only comments that belong to fields and declarations are written. -/
  ownComments : Bool := false
  /-- Whether numbers are written in their usual form. -/
  usualNumbers : Bool := true
  /-- The written line of the first token, once there is one. -/
  firstLine : Option Nat := none
  /-- Where comments start that state build constraints, the last one first. -/
  constraints : List (Nat × BuildConstraint.Form) := []
  /-- The sizes of parts that are known. A part that goes over several lines has none. -/
  sizes : Std.HashMap Part (Option Nat) := {}

namespace Pen

/-- The greatest number of ends of lines in a row. -/
def breakLimit : Nat := 2

/-- The greatest number of gaps that are held back. -/
def pendingLimit : Nat := 16

/-! ### Characters -/

/-- Start a line by its indentation. -/
def start (p : Pen) : Pen :=
  if p.column = 1 then
    { p with
      items := List.replicate p.indent (.char '\t') ++ p.items
      count := p.count + p.indent
      position :=
        { p.position with
          offset := p.position.offset + p.indent, column := p.position.column + p.indent }
      column := p.column + p.indent }
  else p

/-- Write a character between tokens the given number of times. -/
def space (c : Char) (count : Nat) (p : Pen) : Pen :=
  let isBreak := Text.Layout.isBreak (.char c)
  let written :=
    if !p.unaligned then c
    else if isBreak then '\x0c'
    else if c == '\t' || c == '\x0b' then ' '
    else c
  let p := if isBreak then { p with unaligned := false } else p
  let p := p.start
  let p :=
    { p with
      items := List.replicate count (Text.LayoutItem.char written) ++ p.items
      count := p.count + count }
  let offset := p.position.offset + count
  if isBreak then
    { p with
      position := ⟨offset, p.position.line + count, 1⟩, line := p.line + count, column := 1 }
  else
    { p with
      position := { p.position with offset, column := p.position.column + count }
      column := p.column + count }

/-- Write text that was given at a position. -/
def write (position : Position) (text : Text.Layout) (p : Pen) : Pen :=
  let p := p.start
  let chars := text.filterMap fun
    | .char c => some c
    | .guard => none
  let bytes := chars.foldl (fun n c => n + c.utf8Size) 0
  let breaks := (text.filter Text.Layout.isBreak).length
  let lastColumn := (chars.reverse.takeWhile fun c => !Text.Layout.isBreak (.char c)).foldl
    (fun n c => n + c.utf8Size) 1
  let position : Position :=
    ⟨position.offset + bytes, position.line + breaks,
      if breaks = 0 then position.column + bytes else lastColumn⟩
  { p with
    items := text.reverse ++ p.items
    count := p.count + text.length
    position
    line := p.line + breaks
    column := if breaks = 0 then p.column + bytes else lastColumn
    lastLine := position.line
    unaligned := p.unaligned || decide (0 < breaks) }

/-- Apply a gap. -/
def applyOne (g : Gap) (p : Pen) : Pen :=
  match g with
  | .indent => { p with indent := p.indent + 1 }
  | .unindent => { p with indent := p.indent - 1 }
  | g =>
    match g.char? with
    | some c => p.space c 1
    | none => p

/-- Apply a gap and those after it. The end of a line comes after the ends of indentations that
follow it, as a form feed. -/
def applyAfter (g : Gap) : List Gap → Pen → Pen
  | [], p => applyOne g p
  | g' :: rest, p =>
    if g.isBreak && g' == .unindent then
      applyAfter .formFeed rest { p with indent := p.indent - 1 }
    else applyAfter g' rest (applyOne g p)

/-- Apply gaps. -/
def apply (gaps : List Gap) (p : Pen) : Pen :=
  applyAfter .nothing gaps p

/-- Apply all gaps that are held back. -/
def applyPending (p : Pen) : Pen :=
  apply p.pending { p with pending := [] }

end Pen

/-! ### Enclosed comments -/

namespace Comment

/-- The start that two texts have in common, as far as it consists of blanks and stars. -/
def commonStart : List Char → List Char → List Char
  | a :: as, b :: bs =>
    if a == b && (a ≤ ' ' || a == '*') then a :: commonStart as bs else []
  | _, _ => []

/-- Whether a text has only blanks. -/
def isBlankLine (cs : List Char) : Bool :=
  cs.all (· ≤ ' ')

/-- A text without its end, if it has this end. -/
def dropEnd (suffix cs : List Char) : List Char :=
  if suffix.isSuffixOf cs then cs.take (cs.length - suffix.length) else cs

/-- The start of the inner lines of a comment that stands for its indentation. The first line may
have text too, which counts as indented. -/
def innerStart (first start : List Char) : List Char :=
  let text := first.drop 2
  if isBlankLine text then
    let blanks := min 3 (start.reverse.takeWhile (· == ' ')).length
    if blanks = 0 && start.getLast? == some '\t' then start.take (start.length - 1)
    else start.take (start.length - blanks)
  else
    let blanks := text.takeWhile (· ≤ ' ')
    let suffix := if blanks.head? == some '\t' then blanks else ' ' :: ' ' :: blanks
    dropEnd suffix start

/-- The lines of an enclosed comment without the indentation that they have in common. -/
def unindented (lines : List (List Char)) : List (List Char) :=
  match lines with
  | [] => []
  | [line] => [line]
  | first :: others =>
    let inner := others.dropLast.map fun line => if isBlankLine line then [] else line
    let last := others.getLast?.getD []
    let start :=
      match inner.filter (!·.isEmpty) with
      | [] => commonStart last last
      | line :: rest => rest.foldl commonStart (commonStart line line)
    let stars := start.contains '*'
    let start :=
      if stars then dropEnd [' '] (start.takeWhile (· != '*')) else innerStart first start
    let beforeClosing := last.take (last.length - 2)
    let closed := isBlankLine beforeClosing
    let start := if closed then start else commonStart start last
    let last := if closed then start ++ (if stars then " */" else "*/").toList else last
    first :: (inner ++ [last]).map fun line => line.drop start.length

end Comment

/-! ### Comments -/

namespace Pen

/-- Whether there is a comment before a position that can be written here. -/
def commentBefore (next : Nat) (p : Pen) : Bool :=
  match p.comments with
  | [] => false
  | group :: _ => group.offset < next && (!p.endsStatement || !group.hasBreak)

/-- The number of bytes of the comments before a position that can be written here. -/
def commentSizeBefore (next : Nat) (p : Pen) : Nat :=
  (p.comments.takeWhile fun group =>
    group.offset < next && (!p.endsStatement || !group.hasBreak)).foldl
      (fun n group => n + group.size) 0

/-- The gaps in front of a comment on the line of the last token, without blanks, and those after
them. A comment comes before the gaps if there is nothing else after them. -/
def besideComment (p : Pen) : Pen × Bool :=
  let isBefore (g : Gap) : Bool := g == .blank || g == .column || g == .indent
  let before := p.pending.takeWhile isBefore
  let after := p.pending.dropWhile isBefore
  let cleared := before.map fun g => if g == .blank then .nothing else g
  let separated := before.contains .column
  if after.isEmpty then ({ p with pending := cleared }, separated)
  else (apply cleared { p with pending := after }, separated)

/-- The gaps in front of a comment on another line than the last token, those after them, and
whether the end of a line among them was dropped. `aligned` tells whether the comment starts in the
column of the next token, which does not close a block. -/
def aboveComment (aligned : Bool) : List Gap → Option (List Gap × List Gap × Bool)
  | [] => none
  | g :: rest =>
    let next (g : Gap) := (aboveComment aligned rest).map fun (before, after, dropped) =>
      (g :: before, after, dropped)
    match g with
    | .blank | .column => next .nothing
    | .indent => next g
    | .unindent =>
      if rest.head? == some .unindent || aligned then next g else some ([], g :: rest, false)
    | .newline | .formFeed => some ([], .nothing :: rest, true)
    | .nothing => some ([], g :: rest, false)

/-- What separates a comment from what comes before it, which may be another comment. `next` is the
position of the token that follows. -/
def beforeComment (next : Position) (token : TokenKind) (previous : Option Comment) (c : Comment)
    (p : Pen) : Pen :=
  let afterOpen := previous.any Comment.isOpen
  if p.count = 0 then p
  else if c.start.line = p.lastLine && !afterOpen then
    let (p, separated) := if previous.isNone then p.besideComment else (p, false)
    if separated then p else p.space (if c.start.line = next.line then ' ' else '\t') 1
  else
    let aligned := token != .symbol .closeBrace && c.start.column == next.column
    let (p, dropped) :=
      match aboveComment aligned p.pending with
      | some (before, after, dropped) =>
        (apply before { p with pending := after }, dropped && previous.isNone)
      | none =>
        let cleared := p.pending.map fun g =>
          if g == Gap.blank || g == Gap.column then Gap.nothing else g
        ({ p with pending := cleared }, false)
    let breaks := if p.lastLine = 0 then 0 else c.start.line - p.lastLine
    let breaks := if p.indent = 0 && dropped then breaks + 1 else breaks
    let breaks := if breaks = 0 && afterOpen then 1 else breaks
    if breaks = 0 then p else p.space '\x0c' (min breaks breakLimit)

/-- A text without blanks at its end. -/
def trimEnd (cs : List Char) : List Char :=
  (cs.reverse.dropWhile Text.isBlank).reverse

/-- Write the further lines of an enclosed comment. -/
def commentLines : List (List Char) → Pen → Pen
  | [], p => p
  | line :: rest, p =>
    let p := p.space '\x0c' 1
    commentLines rest
      (if line.isEmpty then p
       else p.write p.position (Text.Layout.guarded (String.ofList (trimEnd line))))

/-- Write a comment. -/
def comment (c : Comment) (p : Pen) : Pen :=
  if c.isOpen then
    let p :=
      match BuildConstraint.form? c.text with
      | some form => { p with constraints := (p.count, form) :: p.constraints }
      | none => p
    p.write c.start (Text.Layout.guarded (String.ofList (trimEnd c.text.toList)))
  else
    let lines := Text.splitFrom '\n' [] c.text.toList
    let lines :=
      if c.start.column = 1 && decide (0 < p.indent) then
        lines.take 1 ++ (lines.drop 1).map fun line => ' ' :: ' ' :: ' ' :: line
      else lines
    match Comment.unindented lines with
    | [] => p
    | first :: rest =>
      let p :=
        if first.isEmpty then p
        else p.write c.start (Text.Layout.guarded (String.ofList (trimEnd first)))
      p.commentLines rest

/-- The gaps after a comment: of the ends of lines, one stays if it is needed. The result tells
whether one is still needed, and whether a form feed was dropped. -/
def afterComment (needed : Bool) : List Gap → List Gap × Bool × Bool
  | [] => ([], needed, false)
  | g :: rest =>
    match g with
    | .blank | .column =>
      let (gaps, needed, dropped) := afterComment needed rest
      (.nothing :: gaps, needed, dropped)
    | .newline | .formFeed =>
      let (gaps, still, dropped) := afterComment false rest
      if needed then (g :: gaps, still, dropped)
      else (.nothing :: gaps, still, dropped || g == .formFeed)
    | g =>
      let (gaps, needed, dropped) := afterComment needed rest
      (g :: gaps, needed, dropped)

/-- Write the comments before a token at a position. `previous` is the last comment, and `fuel`
bounds the number of groups. -/
def writeComments (next : Position) (token : TokenKind) (previous : Option Comment) :
    Nat → Pen → Option Comment × Pen
  | 0, p => (previous, p)
  | fuel + 1, p =>
    if p.commentBefore next.offset then
      match p.comments with
      | [] => (previous, p)
      | group :: rest =>
        let (previous, p) := group.foldl
          (fun (previous, p) c => (some c, (p.beforeComment next token previous c).comment c))
          (previous, p)
        writeComments next token previous fuel { p with comments := rest }
    else (previous, p)

/-- Write the comments and the gaps before a token at a position. The result tells whether the end
of a line was written and whether a form feed was dropped after the comments. -/
def flush (next : Position) (token : TokenKind) (p : Pen) : Pen × Bool × Bool :=
  if p.commentBefore next.offset then
    match p.writeComments next token none p.comments.length with
    | (none, p) => (p, false, false)
    | (some last, p) =>
      let beside := !p.tight && !last.isOpen && last.start.line == next.line
        && token != .symbol .comma
        && (token != .symbol .closeParen || p.opened == some .openParen)
        && (token != .symbol .closeBracket || p.opened == some .openBracket)
      let broken := p.pending.any Gap.isBreak && !p.unbroken && p.level == 0
      let p := if beside && !broken then p.space ' ' 1 else p
      let needed := (beside && broken) || last.isOpen || token == .finish
        || (token == .symbol .closeBrace && !p.unbroken)
      let (gaps, still, dropped) := afterComment needed p.pending
      let p := apply gaps { p with pending := [] }
      if still then (p.space '\n' 1, true, dropped) else (p, needed, dropped)
  else (p.applyPending, false, false)

/-! ### Tokens -/

/-- Note the opening mark before the next item. -/
def noteOpened (p : Pen) : Pen :=
  match p.last with
  | none => p
  | some (.symbol .openParen) => { p with opened := some .openParen }
  | some (.symbol .openBracket) => { p with opened := some .openBracket }
  | some _ => { p with opened := none }

/-- Hold back a gap. -/
def gap (g : Gap) (p : Pen) : Pen :=
  let p := p.noteOpened
  if g == .nothing then p
  else
    let p := if pendingLimit ≤ p.pending.length then p.applyPending else p
    { p with
      pending := p.pending ++ [g]
      endsStatement := p.endsStatement && !g.isBreak
      last := none }

/-- Whether a token that starts with a character would run into the one before. -/
def runsInto : TokenKind → Char → Bool
  | .literal .integer, c => c == '.'
  | .symbol .add, c => c == '+'
  | .symbol .sub, c => c == '-'
  | .symbol .quo, c => c == '*'
  | .symbol .less, c => c == '-' || c == '<'
  | .symbol .and, c => c == '&' || c == '^'
  | _, _ => false

/-- Go on at a position of the given text. -/
def moveTo (position : Position) (p : Pen) : Pen :=
  { p with position }

/-- Write a token where the pen is. -/
def put (kind : TokenKind) (text : Text.Layout) (endsStatement : Bool) (p : Pen) : Pen :=
  let p := { p with last := some kind }
  let next := p.position
  let (p, broken, dropped) := p.flush next kind
  let missing := if p.endsStatement then 0 else min (next.line - p.position.line) breakLimit
  let missing := if broken && missing == breakLimit then missing - 1 else missing
  let p := if missing = 0 then p else p.space (if dropped then '\x0c' else '\n') missing
  let p := { p with firstLine := p.firstLine.or (some p.line) }
  { p.write next text with endsStatement := endsStatement && missing == 0 }

/-- Write a name. -/
def name (s : String) (p : Pen) : Pen :=
  p.noteOpened.put .name (Text.Layout.plain s) true

/-- Write a literal. -/
def literal (kind : LiteralKind) (s : String) (p : Pen) : Pen :=
  p.noteOpened.put (.literal kind) (Text.Layout.guarded s) true

/-- Write a fixed text after the last token, with a blank between them if they would run
together. -/
def fixed (kind : TokenKind) (s : String) (p : Pen) : Pen :=
  let combines := p.last.any fun before => s.toList.head?.any (runsInto before)
  let p := p.noteOpened
  let p := if combines then { p with pending := [.blank] } else p
  p.put kind (Text.Layout.plain s) kind.endsStatement

/-- Write a symbol. -/
def symbol (s : Symbol) (p : Pen) : Pen :=
  p.fixed (.symbol s) s.text

/-- Write a keyword. -/
def keyword (k : Keyword) (p : Pen) : Pen :=
  p.fixed (.keyword k) k.text

/-- Hold back ends of lines up to a given line, but at least `least` of them, after a gap. The first
one is a form feed if a new section starts. The result is zero if there is none, one if there is one
end of a line, and more if there are several or a form feed. -/
def breakTo (line least : Nat) (before : Gap) (newSection : Bool) (p : Pen) : Pen × Nat :=
  let count := max (min (line - p.position.line) breakLimit) least
  if count = 0 then (p, 0)
  else
    let p := p.gap before
    let p := if newSection then p.gap .formFeed else p
    let newlines := if newSection then count - 1 else count
    (newlines.repeat (fun p => p.gap .newline) p, if newSection then newlines + 2 else newlines)

/-- Add a comment that belongs to a field or a declaration. -/
def ownComment (group : Option CommentGroup) (p : Pen) : Pen :=
  match group with
  | some group =>
    if p.ownComments then { p with comments := p.comments.take 1 ++ [group] } else p
  | none => p

/-- Write what is left at the end of the text. -/
def finish (p : Pen) : Pen :=
  let last : Position := ⟨1 <<< 62, 1 <<< 62, 0⟩
  ({ p with endsStatement := false }.flush last .finish).1

/-! ### Sizes -/

/-- The number of bytes that have been written, without blanks at the end, unless there is the end
of a line among them. -/
def sizeOnLine? (p : Pen) : Option Nat :=
  let trimmed := p.items.dropWhile fun item =>
    item == .char ' ' || item == .char '\t' || item == .char '\x0b'
  if trimmed.any Text.Layout.isBreak then none
  else
    some (trimmed.foldl (fun n item => match item with
      | .char c => n + c.utf8Size
      | .guard => n) 0)

end Pen

end X86Decoder.Source
