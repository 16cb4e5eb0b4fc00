import X86Decoder.Source.ConstraintBlock
import X86Decoder.Source.Lexer
import X86Decoder.Source.Parser.Statement
import X86Decoder.Source.Printer.File

/-!
# Formatted source

A source text in its usual layout.
-/

namespace X86Decoder.Source

/-- A source text in its usual layout, if it can be read. -/
def format? (text : String) : Option String := do
  let (tokens, comments) ← Lexer.tokens? text
  let file ← File.ofTokens? tokens
  let writers := Writers.upTo (4 * tokens.length + 16)
  let pen := ((writers.file file).run { comments }).2.finish
  return Text.Layout.render
    (ConstraintBlock.moved pen.items.reverse pen.constraints.reverse)

end X86Decoder.Source
