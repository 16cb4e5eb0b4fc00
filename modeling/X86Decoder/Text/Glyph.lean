import X86Decoder.Text.Blank
import X86Decoder.Text.Quoted
import X86Decoder.Text.Utf8

/-!
# Text with stray bytes

Bytes that are meant as UTF-8 need not all be part of a character. Such text is read as a sequence
of glyphs, which are characters and stray bytes.
-/

namespace X86Decoder.Text

/-- One item of what bytes spell. -/
inductive Glyph where
  | char (c : Char)
  /-- A byte that is part of no character. -/
  | stray (byte : UInt8)
deriving DecidableEq

namespace Glyph

/-- The character that a glyph is. -/
def char? : Glyph → Option Char
  | char c => some c
  | stray _ => none

/-- Whether a glyph is white space. -/
def isBlank : Glyph → Bool
  | char c => Text.isBlank c
  | stray _ => false

/-- A glyph within a quoted string. -/
def quoted : Glyph → String
  | char c => quotedChar c
  | stray byte => "\\x" ++ hexPadded 2 byte.toNat

end Glyph

/-- The glyphs of bytes. `fuel` bounds their number. -/
def glyphsFrom : Nat → List UInt8 → List Glyph
  | 0, _ => []
  | _, [] => []
  | fuel + 1, byte :: rest =>
    match charFront? (byte :: rest) with
    | some (c, after) => .char c :: glyphsFrom fuel after
    | none => .stray byte :: glyphsFrom fuel rest

/-- The glyphs of bytes. -/
def glyphs (bytes : List UInt8) : List Glyph :=
  glyphsFrom bytes.length bytes

/-- Glyphs without white space at either end. -/
def trimGlyphs (gs : List Glyph) : List Glyph :=
  ((gs.dropWhile Glyph.isBlank).reverse.dropWhile Glyph.isBlank).reverse

/-- The string that glyphs are, if no byte is stray. -/
def ofGlyphs? (gs : List Glyph) : Option String :=
  (gs.mapM Glyph.char?).map String.ofList

/-- Glyphs between double quotes. -/
def quotedGlyphs (gs : List Glyph) : String :=
  "\"" ++ String.join (gs.map Glyph.quoted) ++ "\""

end X86Decoder.Text
