/-!
# Text laid out in columns

A layout is text whose columns are yet to be aligned. Outside guards, some characters have a meaning
of their own: a tab ends a cell, a vertical tab ends a cell that takes no room in an empty column, a
line feed ends a line, and a form feed ends a line and all columns. A column is as wide as the
widest of its cells and a blank, and a line that lacks a cell ends it: the lines after it start a
column of their own.
-/

namespace X86Decoder.Text

/-- An item of a layout. -/
inductive LayoutItem where
  | char (c : Char)
  /-- Opens or closes a passage in which all characters stand for themselves. -/
  | guard
deriving DecidableEq

/-- Text whose columns are yet to be aligned. -/
abbrev Layout := List LayoutItem

namespace Layout

/-- Text outside guards. -/
def plain (s : String) : Layout :=
  s.toList.map .char

/-- Text between guards. -/
def guarded (s : String) : Layout :=
  [.guard] ++ plain s ++ [.guard]

/-- Whether an item is the end of a line, guarded or not. -/
def isBreak (item : LayoutItem) : Bool :=
  item == .char '\n' || item == .char '\x0c'

/-- The number of characters. -/
def width (items : Layout) : Nat :=
  (items.filter (· != .guard)).length

/-! ### Lines and cells -/

/-- A cell that has an end. -/
structure Cell where
  /-- What stands in the cell. -/
  items : Layout
  /-- Whether the cell takes room in an empty column. -/
  hard : Bool

/-- A line in columns. -/
structure Line where
  /-- What has been aligned. -/
  aligned : Layout := []
  /-- Whether all cells that have been aligned are empty. -/
  indented : Bool := true
  /-- The cells that are yet to be aligned. -/
  cells : List Cell
  /-- What stands after the cells. -/
  rest : Layout

/-- The lines of a layout, in blocks that share no columns. `quoted` tells whether a guard is open;
`cell`, `cells` and `block` hold what belongs to the current cell, line and block in reverse. -/
def blocksFrom (quoted : Bool) (cell : Layout) (cells : List Cell) (block : List Line) :
    Layout → List (List Line)
  | [] => [({ cells := cells.reverse, rest := cell.reverse } :: block).reverse]
  | .guard :: rest => blocksFrom (!quoted) (.guard :: cell) cells block rest
  | .char c :: rest =>
    let line : Line := { cells := cells.reverse, rest := cell.reverse }
    if quoted then blocksFrom quoted (.char c :: cell) cells block rest
    else if c == '\t' || c == '\x0b' then
      blocksFrom quoted [] (⟨cell.reverse, c == '\t'⟩ :: cells) block rest
    else if c == '\n' then blocksFrom quoted [] [] (line :: block) rest
    else if c == '\x0c' then (line :: block).reverse :: blocksFrom quoted [] [] [] rest
    else blocksFrom quoted (.char c :: cell) cells block rest

/-! ### Alignment -/

/-- The width of a tab. -/
def tabWidth : Nat := 8

/-- The width of the first column of lines. -/
def firstWidth (lines : List Line) : Nat :=
  let cells := lines.filterMap fun line => line.cells.head?
  if cells.all fun cell => cell.items.isEmpty && !cell.hard then 0
  else (cells.map fun cell => width cell.items).foldl max 0 + 1

/-- A line with its first cell aligned to a width. Empty cells at its start are filled by tabs. -/
def alignFirst (columnWidth : Nat) (line : Line) : Line :=
  match line.cells with
  | [] => line
  | cell :: cells =>
    if cell.items.isEmpty && line.indented then
      let tabs := (columnWidth + tabWidth - 1) / tabWidth
      { line with aligned := line.aligned ++ List.replicate tabs (.char '\t'), cells }
    else
      let blanks := columnWidth - width cell.items
      { line with
        aligned := line.aligned ++ cell.items ++ List.replicate blanks (.char ' ')
        indented := false
        cells }

/-- Align up to the given number of columns. -/
def alignColumns : Nat → List Line → List Layout
  | 0, lines => lines.map fun line => line.aligned ++ line.rest
  | count + 1, lines =>
    (lines.splitBy fun a b => a.cells.isEmpty == b.cells.isEmpty).flatMap fun run =>
      alignColumns count (run.map (alignFirst (firstWidth run)))

/-- Align all columns of lines. -/
def align (lines : List Line) : List Layout :=
  alignColumns ((lines.map fun line => line.cells.length).foldl max 0) lines

/-- The characters of a layout, without the blanks and tabs outside guards that stand at the end of
a line. `quoted` tells whether a guard is open, and `blanks` and `done` hold the blanks that may be
dropped and the characters before them in reverse. -/
def trimmedFrom (quoted : Bool) (blanks done : List Char) : Layout → List Char
  | [] => done.reverse
  | .guard :: rest => trimmedFrom (!quoted) [] (blanks ++ done) rest
  | .char c :: rest =>
    if quoted then trimmedFrom quoted [] (c :: done) rest
    else if c == ' ' || c == '\t' then trimmedFrom quoted (c :: blanks) done rest
    else if c == '\n' then trimmedFrom quoted [] (c :: done) rest
    else trimmedFrom quoted [] (c :: (blanks ++ done)) rest

/-- The text of a layout. -/
def render (items : Layout) : String :=
  let lines := (blocksFrom false [] [] [] items).flatMap align
  String.ofList (trimmedFrom false [] [] ([.char '\n'].intercalate lines))

end Layout

end X86Decoder.Text
