import X86Decoder.Form.Row
import X86Decoder.Source.Lexer

/-!
# Lists of codes

The codes of a form table, read without regard to the other columns. Each code becomes a constant of
a source file, so it has to be an identifier there, and no code may occur twice. Stray bytes matter
in codes only.
-/

namespace X86Decoder

/-- Why the codes of a table cannot be listed. -/
inductive CodeListFault where
  /-- The row has one column only. -/
  | oneColumn (line : Nat)
  | identifier (line : Nat) (code : String)
  /-- The code has stray bytes. -/
  | garbled (line : Nat) (code : List Text.Glyph)
  | repeated (line : Nat) (code : String) (previous : Nat)
  | lineTooLong
deriving DecidableEq

namespace CodeListFault

/-- What is said of a code that is no identifier. -/
def identifierMessage (line : Nat) (quotedCode : String) : String :=
  "line " ++ Text.decimal line ++ ": code " ++ quotedCode ++ " is not a valid identifier"

/-- What is said of a fault. -/
def message : CodeListFault → String
  | oneColumn line => "line " ++ Text.decimal line ++ ": missing fields"
  | identifier line code => identifierMessage line (Text.quoted code)
  | garbled line code => identifierMessage line (Text.quotedGlyphs code)
  | repeated line code previous =>
    "line " ++ Text.decimal line ++ ": code " ++ code ++ " already used on line "
      ++ Text.decimal previous
  | lineTooLong => Text.lineTooLong

end CodeListFault

namespace CodeList

/-- Whether the text is a single identifier, up to gaps and comments. -/
def isIdentifier (text : String) : Bool :=
  Source.Lexer.isName text

/-- The first column of a row. -/
inductive FirstColumn where
  /-- The row has no other column. -/
  | alone
  | code (text : String)
  /-- The column has stray bytes. -/
  | garbled (code : List Text.Glyph)

namespace FirstColumn

/-- The first column of a row. -/
def ofGlyphs (row : List Text.Glyph) : FirstColumn :=
  if row.contains (.char '|') then
    let column := Text.trimGlyphs (row.takeWhile (· != .char '|'))
    match Text.ofGlyphs? column with
    | some text => code text
    | none => garbled column
  else alone

end FirstColumn

/-- Read the codes of rows, given by their first columns. `seen` holds the codes before, each with
the number of its line. -/
def parseColumns (seen : List (String × Nat)) :
    List (Nat × FirstColumn) → Except CodeListFault (List String)
  | [] => .ok []
  | (line, .alone) :: _ => .error (.oneColumn line)
  | (line, .garbled code) :: _ => .error (.garbled line code)
  | (line, .code code) :: rest =>
    if !isIdentifier code then .error (.identifier line code)
    else
      match seen.lookup code with
      | some previous => .error (.repeated line code previous)
      | none => do
        let codes ← parseColumns ((code, line) :: seen) rest
        return code :: codes

/-- Read the codes of a form table, in order. -/
def parse (bytes : List UInt8) : Except CodeListFault (List String) := do
  let (lines, tooLong) := Text.lines bytes
  let codes ← parseColumns []
    ((Table.rows lines).map fun (line, row) => (line, FirstColumn.ofGlyphs row))
  if tooLong then throw .lineTooLong
  return codes

end CodeList

end X86Decoder
