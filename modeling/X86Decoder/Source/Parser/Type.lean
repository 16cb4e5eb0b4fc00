import X86Decoder.Source.Parser.Basic

/-!
# Reading types
-/

namespace X86Decoder.Source.Readers

open Reader

/-- A name with a type argument or several, or an indexed operand. -/
def indexed (x : Expr) (opening : Position) (indices : List Expr) (closing : Span) : Expr :=
  .index ⟨x.start, closing.stop⟩ x opening indices closing.start

/-- Read the rest of a type that starts with a name: a name after a period. -/
def qualified (first : Name) : Reader Expr := do
  if ← accept .period then
    let field ← name
    return .selector (first.span.to field.span) (.name first) field
  else return .name first

/-- Read the type arguments of a generic, if there are any. -/
def instantiated (r : Readers) (x : Expr) : Reader Expr := do
  if ← sees .openBracket then
    let opening ← expect .openBracket
    let arguments ← deeper (commaList .closeBracket r.fuel r.type)
    return indexed x opening arguments (← expectSpan .closeBracket)
  else return x

/-- Read the rest of an array type after its opening bracket and, if it is given, its length. -/
def arrayRest (r : Readers) (opening : Position) (length : Option Expr) : Reader Expr := do
  let length ← match length with
    | some x => pure (some x)
    | none =>
      deeper do
        let t ← token
        if t.kind == .symbol .ellipsis then
          let _ ← take
          return some (.ellipsis t.span none)
        else if t.kind == .symbol .closeBracket then return none
        else return some (← r.expression)
  let _ ← expect .closeBracket
  let element ← r.type
  return .array ⟨opening, element.stop⟩ length element

/-- Read what follows a name and an opening bracket: the arguments of a generic, or the length and
the elements of an array type that the name has. The result has the name in the latter case. -/
def arrayOrInstance (r : Readers) (first : Name) : Reader (Option Name × Expr) := do
  let opening ← expect .openBracket
  let arguments ← deeper (commaList .closeBracket r.fuel r.expression)
  let closing ← expectSpan .closeBracket
  match arguments with
  | [] =>
    let element ← r.type
    return (some first, .array ⟨opening, element.stop⟩ none element)
  | [length] =>
    match ← r.type? with
    | some element => return (some first, .array ⟨opening, element.stop⟩ (some length) element)
    | none => return (none, indexed (.name first) opening arguments closing)
  | _ => return (none, indexed (.name first) opening arguments closing)

/-! ### Type elements -/

/-- Read a term of a constraint: a type, or all types with an underlying type. -/
def constraintTerm (r : Readers) : Reader Expr := do
  let t ← token
  if t.kind == .symbol .tilde then
    let _ ← take
    let x ← r.type
    return .unary ⟨t.span.start, x.stop⟩ .tilde x
  else r.type

/-- Read the rest of a union of types after its first term. -/
def unionFrom (r : Readers) : Nat → Expr → Reader Expr
  | 0, _ => failure
  | fuel + 1, x => do
    let t ← token
    if t.kind == .symbol .or then
      let _ ← take
      let y ← r.constraintTerm
      r.unionFrom fuel (.binary ⟨x.start, y.stop⟩ x .or t.span.start y)
    else return x

/-- Read the rest of a constraint after its first term. -/
def union (r : Readers) (x : Expr) : Reader Expr :=
  r.unionFrom r.fuel x

/-! ### Parameters -/

/-- A parameter as it is written: a name, a type or both. -/
structure Parameter where
  name : Option Name
  type : Option Expr

/-- Whether a type can start with a token, other than one that starts with a name. -/
def startsType : TokenKind → Bool
  | .symbol .mul | .symbol .openBracket | .symbol .openParen | .symbol .arrow
  | .keyword .func | .keyword .map | .keyword .chan | .keyword .struct | .keyword .interface => true
  | _ => false

/-- Read the type of a parameter that takes any number of arguments. -/
def spreadType (r : Readers) : Reader Expr := do
  let t ← expectKind (.symbol .ellipsis)
  let x ← r.type
  return .ellipsis ⟨t.span.start, x.stop⟩ (some x)

/-- Read what follows the name of a parameter. `generic` tells whether it is a type parameter. -/
def parameterRest (r : Readers) (generic : Bool) (first : Name) : Reader Parameter := do
  match ← kind with
  | .symbol .openBracket =>
    let (n, x) ← r.arrayOrInstance first
    return ⟨n, some x⟩
  | .symbol .ellipsis => return ⟨some first, some (← r.spreadType)⟩
  | .symbol .period =>
    let x ← qualified first
    return ⟨none, some (← r.instantiated x)⟩
  | .symbol .tilde =>
    if generic then return ⟨some first, some (← r.constraintTerm)⟩ else failure
  | .name => return ⟨some first, some (← r.type)⟩
  | k =>
    if startsType k then return ⟨some first, some (← r.type)⟩ else return ⟨some first, none⟩

/-- Read a parameter. -/
def parameter (r : Readers) (generic : Bool) : Reader Parameter := do
  let p ← match ← kind with
    | .name => r.parameterRest generic (← name)
    | .symbol .ellipsis => return ⟨none, some (← r.spreadType)⟩
    | .symbol .tilde => if generic then pure ⟨none, some (← r.constraintTerm)⟩ else failure
    | _ => pure ⟨none, some (← r.type)⟩
  if generic then
    match p with
    | ⟨n, some x⟩ => return ⟨n, some (← r.union x)⟩
    | ⟨some n, none⟩ =>
      if ← sees .or then return ⟨none, some (← r.union (.name n))⟩ else return p
    | _ => return p
  else return p

/-- Parameters with names: those before one with a type share it. `names` holds the names before,
the last one first. -/
def namedFields (names : List Name) : List Parameter → Option (List Field)
  | [] => if names.isEmpty then some [] else none
  | ⟨some n, some x⟩ :: rest =>
    (namedFields [] rest).map (.mk (n :: names).reverse x none none none :: ·)
  | ⟨some n, none⟩ :: rest => namedFields (n :: names) rest
  | ⟨none, _⟩ :: _ => none

/-- Parameters without names. A single name is a type. -/
def unnamedFields (parameters : List Parameter) : List Field :=
  parameters.filterMap fun p =>
    (p.type.or (p.name.map .name)).map fun x => .mk [] x none none none

/-- The fields of parameters. Either all have names, or none has. -/
def fieldsOf? (parameters : List Parameter) : Option (List Field) :=
  if parameters.any fun p => p.name.isSome && p.type.isSome then namedFields [] parameters
  else some (unnamedFields parameters)

/-- Read parameters up to a closing symbol, which is not taken. -/
def parameterFields (r : Readers) (generic : Bool) (closing : Symbol) : Reader (List Field) := do
  match fieldsOf? (← commaList closing r.fuel (r.parameter generic)) with
  | some fields => return fields
  | none => failure

/-- Read parameters with the parentheses around them. -/
def parameters (r : Readers) : Reader (Fields × Span) := do
  let opening ← expect .openParen
  let fields ← r.parameterFields false .closeParen
  let closing ← expectSpan .closeParen
  return (.mk (some (opening, closing.start)) fields, ⟨opening, closing.stop⟩)

/-- Read the type parameters of a function, if there are any. -/
def typeParameters (r : Readers) : Reader (Option Fields) := do
  if ← sees .openBracket then
    let opening ← expect .openBracket
    let fields ← r.parameterFields true .closeBracket
    let closing ← expect .closeBracket
    return some (.mk (some (opening, closing)) fields)
  else return none

/-- Read the results of a function, if there are any, and where they have ended. -/
def results (r : Readers) : Reader (Option (Fields × Position)) := do
  if ← sees .openParen then
    let (fields, span) ← r.parameters
    return some (fields, span.stop)
  else
    match ← r.type? with
    | some x => return some (.mk none [.mk [] x none none none], x.stop)
    | none => return none

/-- Read the parameters and results of a function, and where they have ended. -/
def signature (r : Readers) (typeParameters : Option Fields) : Reader (Signature × Position) := do
  let (parameters, span) ← r.parameters
  match ← r.results with
  | some (results, stop) => return (.mk typeParameters parameters (some results), stop)
  | none => return (.mk typeParameters parameters none, span.stop)

/-- Read the type of a function. -/
def functionType (r : Readers) : Reader (Span × Signature) := do
  let start ← expectWord .func
  let (type, stop) ← r.signature none
  return (⟨start, stop⟩, type)

/-! ### Fields and methods -/

/-- Read the tag of a field, if there is one. -/
def tag? : Reader (Option Expr) := do
  let t ← token
  if t.kind == .literal .string then
    let _ ← take
    return some (.literal t.span .string t.text)
  else return none

/-- Read the names and the type of a field, or an embedded type. -/
def fieldParts (r : Readers) : Reader (List Name × Expr) := do
  let t ← token
  match t.kind with
  | .name =>
    let first ← name
    match ← kind with
    | .symbol .period =>
      let x ← qualified first
      return ([], ← r.instantiated x)
    | .literal .string | .symbol .semicolon | .symbol .closeBrace => return ([], .name first)
    | .symbol .openBracket =>
      match ← r.arrayOrInstance first with
      | (some n, x) => return ([n], x)
      | (none, x) => return ([], x)
    | _ =>
      let others ← many r.fuel <| do
        if ← accept .comma then return some (← name) else return none
      return (first :: others, ← r.type)
  | .symbol .mul =>
    let _ ← take
    let x ← r.instantiated (← qualified (← name))
    return ([], .star ⟨t.span.start, x.stop⟩ x)
  | _ => failure

/-- Read a field of a structure, unless its closing brace follows. -/
def field? (r : Readers) : Reader (Option Field) := do
  if ← sees .closeBrace then return none
  let doc := (← token).lead
  let (names, type) ← r.fieldParts
  let tag ← tag?
  let comment ← semicolon
  return some (.mk names type tag doc comment)

/-- Read fields with the braces around them. -/
def fieldsBetweenBraces (r : Readers) (field? : Reader (Option Field)) :
    Reader (Fields × Span) := do
  let opening ← expect .openBrace
  let fields ← many r.fuel field?
  let closing ← expectSpan .closeBrace
  return (.mk (some (opening, closing.start)) fields, ⟨opening, closing.stop⟩)

/-- Read a method of an interface or an embedded constraint, unless a closing brace follows. -/
def method? (r : Readers) : Reader (Option Field) := do
  let t ← token
  match t.kind with
  | .symbol .closeBrace => return none
  | .name =>
    let first ← name
    if ← sees .openParen then
      let (type, stop) ← r.signature none
      let comment ← semicolon
      let start := (match type with | .mk _ p _ => p.bounds.map Prod.fst).getD t.span.start
      return some (.mk [first] (.functionType ⟨start, stop⟩ type) none t.lead comment)
    else
      let x ← r.instantiated (← qualified first)
      let x ← r.union x
      let comment ← semicolon
      return some (.mk [] x none t.lead comment)
  | _ =>
    let x ← r.union (← r.constraintTerm)
    let comment ← semicolon
    return some (.mk [] x none none comment)

/-! ### Types -/

/-- Read the type of a channel. -/
def channelType (r : Readers) : Reader Expr := do
  let t ← take
  if t.kind == .keyword .chan then
    let arrow ← token
    if arrow.kind == .symbol .arrow then
      let _ ← take
      let x ← r.type
      return .channel ⟨t.span.start, x.stop⟩ .send arrow.span.start x
    else
      let x ← r.type
      return .channel ⟨t.span.start, x.stop⟩ .both t.span.start x
  else
    let _ ← expectWord .chan
    let x ← r.type
    return .channel ⟨t.span.start, x.stop⟩ .receive t.span.start x

/-- Read a type, if there is one. -/
def typeFrom? (r : Readers) : Reader (Option Expr) := do
  let t ← token
  match t.kind with
  | .name => return some (← r.instantiated (← qualified (← name)))
  | .symbol .openBracket =>
    let opening ← expect .openBracket
    return some (← r.arrayRest opening none)
  | .keyword .struct =>
    let _ ← take
    let (fields, span) ← r.fieldsBetweenBraces r.field?
    return some (.struct ⟨t.span.start, span.stop⟩ fields)
  | .symbol .mul =>
    let _ ← take
    let x ← r.type
    return some (.star ⟨t.span.start, x.stop⟩ x)
  | .keyword .func =>
    let (span, type) ← r.functionType
    return some (.functionType span type)
  | .keyword .interface =>
    let _ ← take
    let (methods, span) ← r.fieldsBetweenBraces r.method?
    return some (.interface ⟨t.span.start, span.stop⟩ methods)
  | .keyword .map =>
    let _ ← take
    let _ ← expect .openBracket
    let key ← r.type
    let _ ← expect .closeBracket
    let value ← r.type
    return some (.map ⟨t.span.start, value.stop⟩ key value)
  | .keyword .chan | .symbol .arrow => return some (← r.channelType)
  | .symbol .openParen =>
    let _ ← take
    let x ← r.type
    let closing ← expectSpan .closeParen
    return some (.paren ⟨t.span.start, closing.stop⟩ x closing.start)
  | _ => return none

end X86Decoder.Source.Readers
