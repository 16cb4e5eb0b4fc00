import X86Decoder.Source.Directive
import X86Decoder.Source.Token
import X86Decoder.Text.Letter

/-!
# Reading tokens

A source text is cut into tokens and comments. The end of a line stands for a semicolon where a
statement may end. Comments go with the tokens next to them.
-/

namespace X86Decoder.Source.Lexer

/-! ### Characters -/

/-- Whether a name may start with a character. -/
def startsName (c : Char) : Bool :=
  c == '_' || Text.isLetter c

/-- Whether a name may go on with a character. -/
def continuesName (c : Char) : Bool :=
  startsName c || Text.isDecimalDigit c

/-- Whether a character may stand between tokens on a line. -/
def isGap (c : Char) : Bool :=
  c == ' ' || c == '\t' || c == '\r'

/-- A mark of the byte order. -/
def isMark (c : Char) : Bool :=
  c.toNat == 0xfeff

/-- Whether no character is barred from source: null and the mark of the byte order are, in comments
too. -/
def isClean (cs : List Char) : Bool :=
  cs.all fun c => c.toNat != 0 && !isMark c

/-! ### Comments -/

/-- The characters of an enclosed comment up to its end, and those after it, unless it does not
end. `done` holds the characters before in reverse. -/
def enclosed (done : List Char) : List Char → Option (List Char × List Char)
  | '*' :: '/' :: rest => some (done.reverse, rest)
  | c :: rest => enclosed (c :: done) rest
  | [] => none

/-- An enclosed comment without carriage returns; one between a star and a slash stays, lest the
comment end there. `previous` is the character before. -/
def dropReturns (previous : Option Char) : List Char → List Char
  | [] => []
  | c :: rest =>
    if c == '\r' && !(previous == some '*' && rest.head? == some '/') then dropReturns previous rest
    else c :: dropReturns (some c) rest

/-! ### Literals -/

/-- A literal between marks up to the closing mark, and what follows it. A backslash keeps the
character after it from closing the literal. There is none if the line ends before. `done` holds
the characters before in reverse. -/
def delimited (mark : Char) (done : List Char) : List Char → Option (List Char × List Char)
  | [] => none
  | '\\' :: c :: rest =>
    if c == '\n' then none else delimited mark (c :: '\\' :: done) rest
  | c :: rest =>
    if c == '\n' then none
    else if c == mark then some ((c :: done).reverse, rest)
    else delimited mark (c :: done) rest

/-- Whether a character can be a digit in a number with the given mark of its base. -/
def isDigitFor (hex : Bool) (c : Char) : Bool :=
  c.isDigit || c == '_' || (hex && (('a' ≤ c && c ≤ 'f') || ('A' ≤ c && c ≤ 'F')))

/-- The number at the start of some characters, and what follows it. -/
def number (cs : List Char) : LiteralKind × List Char × List Char :=
  let marked :=
    match cs with
    | '0' :: c :: _ => c.toLower == 'x' || c.toLower == 'o' || c.toLower == 'b'
    | _ => false
  let hex := marked && (cs.drop 1).head?.any (fun c => c.toLower == 'x')
  let (mark, rest) := if marked then (cs.take 2, cs.drop 2) else ([], cs)
  let whole := rest.takeWhile (isDigitFor hex)
  let rest := rest.dropWhile (isDigitFor hex)
  let (kind, fraction, rest) : LiteralKind × List Char × List Char :=
    match rest with
    | '.' :: rest =>
      (.float, '.' :: rest.takeWhile (isDigitFor hex), rest.dropWhile (isDigitFor hex))
    | _ => (.integer, [], rest)
  let (kind, exponent, rest) : LiteralKind × List Char × List Char :=
    match rest with
    | e :: rest' =>
      if e.toLower == 'e' || e.toLower == 'p' then
        let (sign, rest') :=
          if rest'.head?.any (fun c => c == '+' || c == '-') then (rest'.take 1, rest'.drop 1)
          else ([], rest')
        (.float, e :: sign ++ rest'.takeWhile (isDigitFor false),
          rest'.dropWhile (isDigitFor false))
      else (kind, [], rest)
    | [] => (kind, [], rest)
  let text := mark ++ whole ++ fraction ++ exponent
  match rest with
  | 'i' :: rest => (.imaginary, text ++ ['i'], rest)
  | _ => (kind, text, rest)

/-- Whether a number starts with some characters. -/
def startsNumber : List Char → Bool
  | '.' :: c :: _ => c.isDigit
  | c :: _ => c.isDigit
  | [] => false

/-- The token at the start of some characters: its kind, its characters and what follows it. -/
def token? (cs : List Char) : Option (TokenKind × List Char × List Char) :=
  match cs with
  | [] => none
  | c :: rest =>
    if startsName c then
      let name := cs.takeWhile continuesName
      let kind := match Keyword.ofText? (String.ofList name) with
        | some word => TokenKind.keyword word
        | none => .name
      some (kind, name, cs.dropWhile continuesName)
    else if startsNumber cs then
      let (kind, text, rest) := number cs
      some (.literal kind, text, rest)
    else if c == '"' then
      (delimited c [c] rest).map fun (text, rest) => (.literal .string, text, rest)
    else if c == '\'' then
      (delimited c [c] rest).map fun (text, rest) => (.literal .character, text, rest)
    else if c == '\x60' then
      let text := rest.takeWhile (· != c)
      match rest.dropWhile (· != c) with
      | [] => none
      | close :: rest => some (.literal .string, c :: text ++ [close], rest)
    else
      (Symbol.ofChars? cs).map fun s =>
        (.symbol s, s.text.toList, cs.drop s.text.length)

/-! ### Lexemes -/

/-- A token or a comment. -/
inductive Lexeme where
  | token (kind : TokenKind) (text : String) (span : Span) (line : Int)
  | comment (c : Comment) (line : Int)

namespace Lexeme

/-- The line on which a lexeme counts as standing. -/
def line : Lexeme → Int
  | token _ _ _ line | comment _ line => line

end Lexeme

/-- A semicolon that the end of a line stands for. -/
def impliedSemicolon (here : Position) (line : Int) : Lexeme :=
  .token (.symbol .semicolon) "\n" ⟨here, here⟩ line

/-- The text of a literal. Raw ones have no carriage returns. -/
def literalText (text : List Char) : String :=
  String.ofList (if text.head? == some '\x60' then text.filter (· != '\r') else text)

/-- The lexemes of some characters. `here` is where they start, `shift` is what the line counts for
more than it is, and `ends` tells whether a statement may end here. `done` holds the lexemes before
in reverse. `fuel` bounds the number of steps. -/
def lexemes : Nat → Position → Int → Bool → List Lexeme → List Char → Option (List Lexeme)
  | 0, _, _, _, _, _ => none
  | fuel + 1, here, shift, ends, done, cs =>
    let line : Int := here.line + shift
    match cs with
    | [] =>
      let done := if ends then impliedSemicolon here line :: done else done
      some (.token .finish "" ⟨here, here⟩ line :: done).reverse
    | '/' :: '/' :: rest =>
      let body := rest.takeWhile (· != '\n')
      let c : Comment := ⟨"//" ++ String.ofList (body.filter (· != '\r')), here⟩
      lexemes fuel (here.afterAll ('/' :: '/' :: body)) shift ends (.comment c line :: done)
        (rest.dropWhile (· != '\n'))
    | '/' :: '*' :: rest =>
      match enclosed [] rest with
      | none => none
      | some (body, rest) =>
        match Directive.ofComment? body with
        | none => none
        | some directive =>
          let there := (here.afterAll ('/' :: '*' :: body)).afterAll ['*', '/']
          let shift' : Int :=
            match directive with
            | some named => named - there.line
            | none => shift
          let c : Comment := ⟨"/*" ++ String.ofList (dropReturns none body) ++ "*/", here⟩
          let before := body.takeWhile (· != '\n')
          let ended := ends && decide (before.length < body.length)
          let lineEnd := here.afterAll ('/' :: '*' :: before)
          let done := .comment c line :: done
          let done := if ended then impliedSemicolon lineEnd line :: done else done
          lexemes fuel there shift' (ends && !ended) done rest
    | '\n' :: rest =>
      lexemes fuel (here.after '\n') shift false
        (if ends then impliedSemicolon here line :: done else done) rest
    | c :: rest =>
      if isGap c then lexemes fuel (here.after c) shift ends done rest
      else
        match token? cs with
        | none => none
        | some (kind, text, rest) =>
          let there := here.afterAll text
          lexemes fuel there shift kind.endsStatement
            (.token kind (literalText text) ⟨here, there⟩ line :: done) rest

/-! ### Groups of comments -/

/-- The line on which a comment that starts on a line ends. -/
def endLine (c : Comment) (line : Int) : Int :=
  if c.isOpen then line else line + (c.text.toList.filter (· == '\n')).length

/-- The comments that stand together with those before, which end on the line `stop`: each starts at
most `gap` lines after the end of the one before. The result is the group, the line on which it
ends, and the comments after it. -/
def group (gap : Nat) (stop : Int) :
    List (Comment × Int) → CommentGroup × Int × List (Comment × Int)
  | [] => ([], stop, [])
  | (c, line) :: rest =>
    if line ≤ stop + gap then
      let (others, stop, rest) := group gap (endLine c line) rest
      (c :: others, stop, rest)
    else ([], stop, (c, line) :: rest)

/-- All comments in groups with the lines on which they end. `fuel` bounds their number. -/
def groups : Nat → List (Comment × Int) → List (CommentGroup × Int)
  | 0, _ => []
  | _ + 1, [] => []
  | fuel + 1, (c, line) :: rest =>
    let (first, stop, rest) := group 1 line ((c, line) :: rest)
    (first, stop) :: groups fuel rest

/-- A token with the comments between it and a token on the line `previous`, and the groups of these
comments. -/
def withComments (previous : Option Int) (comments : List (Comment × Int)) (token : Token)
    (line : Int) : Token × List CommentGroup :=
  let (trailing, beside, rest) : Option CommentGroup × List CommentGroup × List (Comment × Int) :=
    match comments with
    | [] => (none, [], [])
    | (_, start) :: _ =>
      if previous = some start then
        let (first, stop, rest) := group 0 start comments
        let next := (rest.head?.map Prod.snd).getD line
        let last := next != stop
          || (rest.isEmpty && (token.kind == .symbol .semicolon || token.kind == .finish))
        (if last then some first else none, [first], rest)
      else (none, [], comments)
  let others := groups rest.length rest
  let lead := others.getLast?.bind fun (last, stop) => if stop + 1 = line then some last else none
  ({ token with lead, trailing }, beside ++ others.map Prod.fst)

/-- Give the comments among lexemes to the tokens. `previous` is the line of the token before, and
`comments` holds the comments since then in reverse, `done` and `before` the tokens and groups of
comments up to there. -/
def tokensFrom (previous : Option Int) (comments : List (Comment × Int)) (done : List Token)
    (before : List CommentGroup) : List Lexeme → List Token × List CommentGroup
  | [] => (done.reverse, before.reverse)
  | .comment c line :: rest => tokensFrom previous ((c, line) :: comments) done before rest
  | .token kind text span line :: rest =>
    let (token, between) := withComments previous comments.reverse { kind, text, span } line
    tokensFrom (some line) [] (token :: done) (between.reverse ++ before) rest

/-- The tokens and the comments of a source text. A mark of the byte order in front is passed
over. -/
def tokens? (s : String) : Option (List Token × List CommentGroup) :=
  let cs := if s.toList.head?.any isMark then s.toList.drop 1 else s.toList
  if isClean cs then (lexemes (cs.length + 1) {} 0 false [] cs).map (tokensFrom none [] [] [])
  else none

/-- Whether a text is a name, up to gaps and comments. -/
def isName (s : String) : Bool :=
  match tokens? s with
  | some (tokens, _) =>
    tokens.map Token.kind == [.name, .symbol .semicolon, .finish]
      && (tokens.drop 1).head?.any fun semicolon => semicolon.text == "\n"
  | none => false

end X86Decoder.Source.Lexer
