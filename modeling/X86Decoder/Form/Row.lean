import X86Decoder.Code
import X86Decoder.Form.Spelling
import X86Decoder.Form.Vocabulary
import X86Decoder.Mode.Parser
import X86Decoder.Text.Case
import X86Decoder.Text.Glyph
import X86Decoder.Text.Lines

/-!
# Reading a form table

A form table is written one form a line, in eight columns between bars: code, encoding, operands,
memory size, broadcast size, tuple, modes and flags. A dash stands for nothing in a column. Blank
lines and lines that start with `#` are passed over. Stray bytes are allowed in these only.
-/

namespace X86Decoder

/-- Why a column of a row cannot be read. -/
inductive ColumnFault where
  | spelling (fault : SpellingFault)
  | operand (name : String)
  | operandCount
  | memorySize (name : String)
  | tuple (name : String)
  /-- The number after a tuple cannot be read. -/
  | tupleNumber (text number : String) (fault : Text.IntegerFault)
  | mode (fault : ModeFault)
  | flag (name : String)
  /-- The column has stray bytes. -/
  | garbled (column : List Text.Glyph)
deriving DecidableEq

namespace ColumnFault

/-- What is said of a fault. Where a column has stray bytes that depends on its parts. -/
def message? : ColumnFault → Option String
  | spelling fault => fault.message
  | operand name => "unknown operand " ++ Text.quoted name
  | operandCount => "too many operands"
  | memorySize name => "unknown memory size " ++ Text.quoted name
  | tuple name => "unknown tuple type " ++ Text.quoted name
  | tupleNumber text number fault =>
    "invalid tuple type " ++ Text.quoted text ++ ": " ++ Text.intMessage number fault
  | mode fault => fault.message
  | flag name => "unknown flag " ++ Text.quoted name
  | garbled _ => none

end ColumnFault

/-- Why a row cannot be read. -/
inductive RowFault where
  /-- The row does not have eight columns. -/
  | columns (count : Nat)
  /-- No code has the name in the first column. -/
  | code (name : List Text.Glyph)
  /-- A column after that of the code cannot be read. -/
  | column (code : Code) (fault : ColumnFault)
deriving DecidableEq

namespace RowFault

/-- What is said of a fault. -/
def message? : RowFault → Option String
  | columns count => "found " ++ Text.decimal count ++ " fields, want 8"
  | code name => "unknown code " ++ Text.quotedGlyphs name
  | column c fault => fault.message?.map fun message => c.name ++ ": " ++ message

end RowFault

/-- Why a table cannot be read. -/
inductive TableFault where
  | row (line : Nat) (fault : RowFault)
  | lineTooLong
deriving DecidableEq

namespace TableFault

/-- What is said of a fault. -/
def message? : TableFault → Option String
  | row line fault =>
    fault.message?.map fun message => "line " ++ Text.decimal line ++ ": " ++ message
  | lineTooLong => Text.lineTooLong

end TableFault

namespace FormOperand

/-- The operand with the given name: one of the vocabulary, or a register that the instruction
implies. -/
def ofName? (name : String) : Option FormOperand :=
  match vocabulary.find? fun operand => operand.name == name with
  | some operand => some operand
  | none =>
    let register := Text.lower name
    (Register.ofName? (if register == "st" then "st0" else register)).map fun r =>
      ⟨name, .implicit r⟩

/-- The operand where an immediate comes before it. A byte is then the second byte. -/
def afterImmediate (operand : FormOperand) : FormOperand :=
  match operand.spec with
  | .immediate .byte => { operand with spec := .immediate .secondByte }
  | _ => operand

/-- Whether the operand is an immediate. -/
def isImmediate (operand : FormOperand) : Bool :=
  match operand.spec with
  | .immediate _ => true
  | _ => false

/-- Read operands; `immediate` tells whether one of those before was an immediate. -/
def parseNames (immediate : Bool) : List String → Except ColumnFault (List FormOperand)
  | [] => .ok []
  | name :: rest =>
    match ofName? name with
    | none => .error (.operand name)
    | some operand => do
      let others ← parseNames (immediate || operand.isImmediate) rest
      return (if immediate then operand.afterImmediate else operand) :: others

/-- Read the operand column. -/
def parseColumn (text : String) : Except ColumnFault (List FormOperand) :=
  if text == "-" then .ok []
  else do
    let operands ← parseNames false (Text.split ',' text)
    if 4 < operands.length then throw .operandCount
    return operands

end FormOperand

/-- Read a column with a memory size. -/
def MemorySize.parseColumn (text : String) : Except ColumnFault MemorySize :=
  if text == "-" then .ok .unknown
  else
    match MemorySize.ofName? text with
    | some size => .ok size
    | none => .error (.memorySize text)

/-- Whether a number after the tuple is an element size rather than a vector length. -/
def Tuple.isScalar : Tuple → Bool
  | oneScalar | oneFixed => true
  | _ => false

/-- Read the tuple column: a name, and after a colon a number or an X for none. -/
def TupleScale.parseColumn (text : String) : Except ColumnFault TupleScale :=
  if text == "-" then .ok {}
  else
    let (name, number) := (Text.cut? ':' text).getD (text, "X")
    match Tuple.ofName? name with
    | none => .error (.tuple name)
    | some tuple =>
      if number == "X" then .ok { tuple }
      else
        match Text.parseInt number with
        | .error fault => .error (.tupleNumber text number fault)
        | .ok n =>
          .ok (if tuple.isScalar then { tuple, elementSize := n } else { tuple, vectorBits := n })

/-- Read the mode column. -/
def ModeSet.parseColumn (text : String) : Except ColumnFault ModeSet :=
  (Text.split ',' text).foldlM (fun modes name =>
    match Mode.parse name with
    | .ok mode => .ok (modes.insert mode)
    | .error fault => .error (.mode fault)) ModeSet.empty

namespace Flag

/-- Read the flag column. -/
def parseColumn (text : String) : Except ColumnFault (List Flag) :=
  if text == "-" then .ok []
  else
    (Text.split ',' text).mapM fun name =>
      match ofName? name with
      | some flag => .ok flag
      | none => .error (.flag name)

/-- The flags that follow from an operand under an encoding. -/
def ofOperand (encoding : EncodingKind) (spec : OperandSpec) : List Flag :=
  (if spec.registerOnly then [registerOnly] else [])
    ++ (if spec.memoryOnly then [memoryOnly] else [])
    ++ (if spec.family = .control ∨ spec.family = .debug then [modIgnored] else [])
    ++ (if spec.encoding = .vsib ∧ encoding = .evex then [noK0] else [])

/-- The flags that follow from what is demanded of the ModR/M byte. -/
def ofModRM : ModRMPattern → List Flag
  | .registers _ => [registerOnly]
  | _ => []

/-- All flags of a form, given those that its row lists. Where the mod field is ignored the register
form is not demanded. -/
def complete (listed : List Flag) (spelling : Spelling) (operands : List FormOperand) :
    List Flag :=
  let flags := listed ++ ofModRM spelling.modrm
    ++ operands.flatMap fun operand => ofOperand spelling.constraint.encoding operand.spec
  normalize (if flags.contains modIgnored then flags.filter (· ≠ registerOnly) else flags)

end Flag

namespace Form

/-- The text of a column. -/
def columnText (column : List Text.Glyph) : Except ColumnFault String :=
  match Text.ofGlyphs? column with
  | some text => .ok text
  | none => .error (.garbled column)

/-- Read the columns after that of the code. -/
def parseColumns (code : Code)
    (encoding operands memory broadcast tuple modes flags : List Text.Glyph) :
    Except ColumnFault Form := do
  let encoding ← columnText encoding
  let spelling ← (Spelling.parse encoding).mapError .spelling
  let operands ← columnText operands >>= FormOperand.parseColumn
  let memory ← columnText memory >>= MemorySize.parseColumn
  let broadcast ← columnText broadcast >>= MemorySize.parseColumn
  let scale ← columnText tuple >>= TupleScale.parseColumn
  let modes ← columnText modes >>= ModeSet.parseColumn
  let flags ← columnText flags >>= Flag.parseColumn
  return {
    code, spelling := encoding, constraint := spelling.constraint, map := spelling.map
    opcode := spelling.opcode, modrm := spelling.modrm, operands, memory, broadcast, scale, modes
    flags := Flag.complete flags spelling operands }

/-- Read a row of the table. -/
def parseRow (row : List Text.Glyph) : Except RowFault Form :=
  match (Text.splitFrom (.char '|') [] row).map Text.trimGlyphs with
  | [name, encoding, operands, memory, broadcast, tuple, modes, flags] =>
    match (Text.ofGlyphs? name).bind Code.ofName? with
    | none => .error (.code name)
    | some code =>
      (parseColumns code encoding operands memory broadcast tuple modes flags).mapError
        (.column code)
  | columns => .error (.columns columns.length)

/-- The name of the form's code and its encoding as the table writes it. -/
def text (f : Form) : String :=
  f.code.name ++ " (" ++ f.spelling ++ ")"

end Form

namespace Table

/-- The lines of a table that are rows, each trimmed and with its number, counting from one. -/
def rows (lines : List (List UInt8)) : List (Nat × List Text.Glyph) :=
  (lines.zipIdx 1).filterMap fun (line, n) =>
    let row := Text.trimGlyphs (Text.glyphs line)
    if row.isEmpty || row.head? = some (.char '#') then none else some (n, row)

/-- Read a form table. -/
def parse (bytes : List UInt8) : Except TableFault (List Form) := do
  let (lines, tooLong) := Text.lines bytes
  let forms ← (rows lines).mapM fun (n, row) => (Form.parseRow row).mapError (.row n)
  if tooLong then throw .lineTooLong
  return forms

end Table

end X86Decoder
