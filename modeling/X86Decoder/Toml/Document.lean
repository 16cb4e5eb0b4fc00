import X86Decoder.Toml.Value

/-!
# Reading a TOML text

A text is read statement by statement: a header opens a table, and an assignment sets a value in the
open table. Names that occur on the way to a table make tables of their own, which may be defined
once more later; anything else may be defined once only.
-/

namespace X86Decoder.Toml

/-- What has been read so far. -/
structure State where
  /-- All values. -/
  root : Fields := []
  /-- The open table. -/
  context : Key := []
  /-- The name that is being assigned to. -/
  current : String := ""
  /-- The keys of tables that were made on the way to others. -/
  implicits : List String := []
  /-- The keys of values that are arrays. -/
  arrays : List String := []
  /-- Every key that a header or an assignment names, the last one first. -/
  named : List Key := []

/-- A reader of statements. -/
abbrev Build := StateT State Option

namespace Build

/-- Fail: the text is not TOML. -/
def fail {α : Type} : Build α :=
  fun _ => none

/-- Go on with a value if there is one. -/
def ofOption {α : Type} (a : Option α) : Build α :=
  fun s => a.map fun a => (a, s)

/-- Mark the table with a key as made on the way to another. -/
def addImplicit (key : Key) : Build Unit :=
  modify fun s => { s with implicits := key.text :: s.implicits }

/-- Take such a mark away. -/
def removeImplicit (key : Key) : Build Unit :=
  modify fun s => { s with implicits := s.implicits.filter (· != key.text) }

/-- Note whether the value of a name in the open table is an array; no name is the open table. -/
def setIsArray (name : String) (isArray : Bool) : Build Unit :=
  modify fun s =>
    let key := s.context ++ (if name == "" then [] else [name])
    let text := Key.text (if key.isEmpty then [""] else key)
    { s with
      arrays := if isArray then text :: s.arrays else s.arrays.filter (· != text) }

/-- Set a value in the open table. A value that is already there may be replaced if it is known as
an array, and stays if it is a table made on the way to another. -/
def setValue (name : String) (value : Value) : Build Unit := do
  let s ← get
  let fields ← ofOption (Fields.at? s.context s.root)
  let key := s.context ++ [name]
  let write : Build Unit := do
    let root ← ofOption (Fields.updateAt (fun f => some (f.put name value)) s.context s.root)
    modify fun s => { s with root }
  if (fields.lookup name).isNone then write
  else if s.arrays.contains key.text then
    removeImplicit key
    write
  else if s.implicits.contains key.text then removeImplicit key
  else fail

/-- Set a value in the open table and note whether it is an array. -/
def assign (name : String) (value : Value) (isArray : Bool) : Build Unit := do
  setValue name value
  setIsArray name isArray

/-- Make the tables on the way along a path, below the given key. -/
def ensure (key : Key) : Key → Build Unit
  | [] => return
  | name :: path => do
    let s ← get
    let fields ← ofOption (Fields.at? key s.root)
    let below := key ++ [name]
    if (fields.lookup name).isNone then
      addImplicit below
      let root ← ofOption
        (Fields.updateAt (fun f => some (f.put name (.table []))) key s.root)
      modify fun s => { s with root }
    let s ← get
    let _ ← ofOption (Fields.at? below s.root)
    ensure below path

/-- Open one more table of the array of tables with a name. -/
def addElement (name : String) (fields : Fields) : Option Fields :=
  match fields.lookup name with
  | none => some (fields.put name (.tables [[]]))
  | some (.tables elements) => some (fields.put name (.tables (elements ++ [[]])))
  | some _ => none

/-- Open the table with a key, or one more table of an array of tables. -/
def openTable (key : Key) (isArray : Bool) : Build Unit := do
  let parent := key.dropLast
  let name := key.getLast?.getD ""
  ensure [] parent
  modify fun s => { s with context := parent }
  if isArray then
    let s ← get
    let root ← ofOption (Fields.updateAt (addElement name) parent s.root)
    modify fun s => { s with root }
  else setValue name (.table [])
  modify fun s => { s with context := parent ++ [name] }

/-- Open the tables that the parts of a key before the last name, each marked as made on the way. -/
def openParts : List String → Build Unit
  | [] => return
  | name :: rest => do
    let key := (← get).context ++ [name]
    addImplicit key
    openTable key false
    openParts rest

/-- Open the table that a key of an assignment leads to and take the last part as the name. -/
def startAssignment (key : Key) : Build Unit := do
  openParts key.dropLast
  modify fun s =>
    let current := key.getLast?.getD ""
    { s with current, named := (s.context ++ [current]) :: s.named }

end Build

open Build in
mutual

/-- Read a value. `inArray` tells whether it is an item of an array. `fuel` bounds the number of
values, items and fields. -/
def readValue (inArray : Bool) : Nat → List Char → Build (Value × Bool × List Char)
  | 0, _ => fail
  | fuel + 1, cs =>
    match skipSpaces cs with
    | '[' :: rest => do
      setIsArray (← get).current true
      let (items, rest) ← readItems fuel rest
      return (.array items, true, rest)
    | '{' :: rest => do
      let outer ← get
      let context := outer.context ++ [outer.current]
      modify fun s => { s with context, current := "" }
      addImplicit context
      openTable context inArray
      let (fields, rest) ← readFields true context [] fuel rest
      modify fun s => { s with context := outer.context, current := outer.current }
      return (.table fields, false, rest)
    | cs => do
      let (value, rest) ← ofOption (scalar cs)
      return (.scalar value, false, rest)

/-- Read the items of an array up to its end. -/
def readItems : Nat → List Char → Build (List Value × List Char)
  | 0, _ => fail
  | fuel + 1, cs =>
    match skipBlanks cs with
    | [] => fail
    | '#' :: rest => readItems fuel (skipComment rest)
    | ',' :: _ => fail
    | ']' :: rest => return ([], rest)
    | cs => do
      let (item, _, rest) ← readValue true fuel cs
      let (items, rest) ← readRest fuel rest
      return (item :: items, rest)

/-- Read what follows an item of an array. -/
def readRest : Nat → List Char → Build (List Value × List Char)
  | 0, _ => fail
  | fuel + 1, cs =>
    match skipBlanks cs with
    | '#' :: rest => readRest fuel (skipComment rest)
    | ',' :: rest => readItems fuel rest
    | ']' :: rest => return ([], rest)
    | _ => fail

/-- Read the fields of an inline table up to its end. `first` tells whether there are none before,
and `context` is the key of the table. A field goes by the last part of its key. -/
def readFields (first : Bool) (context : Key) (fields : Fields) :
    Nat → List Char → Build (Fields × List Char)
  | 0, _ => fail
  | fuel + 1, cs =>
    match skipSpaces cs with
    | '}' :: rest => if first then return (fields, rest) else fail
    | cs => do
      let (key, rest) ← ofOption (Toml.key '=' cs)
      startAssignment key
      let (value, isArray, rest) ← readValue false fuel rest
      let name := key.getLast?.getD ""
      assign name value isArray
      let fields := fields.put name value
      modify fun s => { s with context }
      match skipSpaces rest with
      | ',' :: rest => readFields false context fields fuel rest
      | '}' :: rest => return (fields, rest)
      | _ => fail

end

namespace Build

/-- Read the end of a line after a statement. -/
def endOfLine (cs : List Char) : Build (List Char) :=
  match skipSpaces cs with
  | [] => return []
  | '#' :: rest => return skipComment rest
  | c :: rest => if isNewline c then return rest else fail

/-- Open the table of a header. -/
def header (isArray : Bool) (key : Key) : Build Unit := do
  openTable key isArray
  setIsArray "" false
  modify fun s => { s with named := key :: s.named }

/-- Read an assignment. -/
def assignment (cs : List Char) : Build (List Char) := do
  let outer := (← get).context
  let (key, rest) ← ofOption (Toml.key '=' cs)
  startAssignment key
  let (value, isArray, rest) ← readValue false (2 * cs.length + 2) rest
  assign (key.getLast?.getD "") value isArray
  modify fun s => { s with context := outer, current := "" }
  return rest

/-- Read statements up to the end of the text. `fuel` bounds their number. -/
def statements : Nat → List Char → Build Unit
  | 0, _ => fail
  | fuel + 1, cs =>
    match skipBlanks cs with
    | [] => return
    | '#' :: rest => statements fuel (skipComment rest)
    | '[' :: '[' :: rest => do
      let (key, rest) ← ofOption (Toml.key ']' rest)
      let rest ← ofOption (Plain.expect? ']' rest)
      header true key
      let rest ← endOfLine rest
      statements fuel rest
    | '[' :: rest => do
      let (key, rest) ← ofOption (Toml.key ']' rest)
      header false key
      let rest ← endOfLine rest
      statements fuel rest
    | cs => do
      let rest ← assignment cs
      let rest ← endOfLine rest
      statements fuel rest

end Build

/-- A text that has been read. -/
structure Text where
  /-- All values. -/
  fields : Fields
  /-- Every key that a header or an assignment names, in order. -/
  named : List Key

/-- Read a text. -/
def parse (text : String) : Option Text :=
  let cs := text.toList
  if isCleanText cs then
    ((Build.statements (cs.length + 1) cs).run {}).map fun (_, s) => ⟨s.root, s.named.reverse⟩
  else none

end X86Decoder.Toml
