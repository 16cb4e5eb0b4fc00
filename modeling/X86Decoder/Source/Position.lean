/-!
# Positions in source

Where the parts of a source text stand, and the comments between them.
-/

namespace X86Decoder.Source

/-- A position in a source text. -/
structure Position where
  /-- The number of bytes before it. -/
  offset : Nat := 0
  /-- The line, counting from one. -/
  line : Nat := 1
  /-- The place in the line in bytes, counting from one. -/
  column : Nat := 1
deriving DecidableEq, Inhabited

/-- The position after a character. -/
def Position.after (p : Position) (c : Char) : Position :=
  if c == '\n' then ⟨p.offset + 1, p.line + 1, 1⟩
  else ⟨p.offset + c.utf8Size, p.line, p.column + c.utf8Size⟩

/-- The position after some characters. -/
def Position.afterAll (p : Position) (cs : List Char) : Position :=
  cs.foldl Position.after p

/-- A passage of a source text. -/
structure Span where
  /-- Where it starts. -/
  start : Position
  /-- Where it has ended. -/
  stop : Position
deriving DecidableEq, Inhabited

/-- The passage from the start of one passage to the end of another. -/
def Span.to (first last : Span) : Span :=
  ⟨first.start, last.stop⟩

/-- A comment. -/
structure Comment where
  /-- The comment with the marks that open and close it. -/
  text : String
  start : Position
deriving DecidableEq, Inhabited

namespace Comment

/-- Whether a comment goes to the end of the line. -/
def isOpen (c : Comment) : Bool :=
  "//".toList.isPrefixOf c.text.toList

/-- Whether a comment ends a line. -/
def endsLine (c : Comment) : Bool :=
  c.isOpen || c.text.toList.contains '\n'

end Comment

/-- Comments that stand together. -/
abbrev CommentGroup := List Comment

namespace CommentGroup

/-- The number of bytes before the comments. -/
def offset (group : CommentGroup) : Nat :=
  (group.head?.map fun c => c.start.offset).getD 0

/-- Whether there is the end of a line in comments or between them. -/
def hasBreak (group : CommentGroup) : Bool :=
  group.any Comment.endsLine
    || group.any fun c => group.head?.any fun first => first.start.line != c.start.line

/-- The number of bytes of the comments. -/
def size (group : CommentGroup) : Nat :=
  group.foldl (fun n c => n + c.text.utf8ByteSize) 0

end CommentGroup

end X86Decoder.Source
