import X86Decoder.Document.Basic
import X86Decoder.OutputFormat
import X86Decoder.Statistics.Basic

/-!
# Reports of statistics

Statistics as text or as a list of records. The codes of a region are in a definite order, whatever
order they were counted in: as text the most frequent first, in JSON by name, in YAML by number.
-/

namespace X86Decoder

namespace Histogram

/-- Whether a code comes before another in text: it is more frequent, or as frequent and not after
it by name. -/
def textOrder (a b : Code × Int) : Bool :=
  if a.2 = b.2 then !decide (b.1.name < a.1.name) else decide (b.2 < a.2)

/-- The codes in the order of text. -/
def byCount (codes : Histogram) : Histogram :=
  codes.mergeSort textOrder

/-- The codes in the order of their names. -/
def byName (codes : Histogram) : Histogram :=
  codes.mergeSort fun a b => !decide (b.1.name < a.1.name)

/-- The codes in the order of their numbers. -/
def byNumber (codes : Histogram) : Histogram :=
  codes.mergeSort fun a b => decide (a.1.number ≤ b.1.number)

/-- The length of the longest name. -/
def width (codes : Histogram) : Nat :=
  (codes.map fun (code, _) => code.name.length).foldl max 0

/-- A line for each code, with the counts below each other. -/
def lines (codes : Histogram) : String :=
  String.join (codes.byCount.map fun (code, count) =>
    "\t" ++ Text.padRight codes.width code.name ++ "  " ++ Text.signedDecimal count ++ "\n")

/-- The counts as an object. -/
def document (codes : Histogram) : Document :=
  .object (codes.map fun (code, count) => (code.name, .number count))

end Histogram

namespace Statistics

/-- The line that a region starts with. -/
def header (s : Statistics) : String :=
  s.region ++ ": " ++ Text.decimal s.mode.bits ++ "-bit, " ++ Text.signedDecimal s.bytes
    ++ " bytes, " ++ Text.signedDecimal s.instructions ++ " instructions, "
    ++ Text.signedDecimal s.invalid ++ " invalid bytes"
    ++ (if 0 < s.undecoded then ", " ++ Text.signedDecimal s.undecoded ++ " bytes not decoded"
      else "")
    ++ "\n"

/-- Statistics as text. -/
def text (s : Statistics) : String :=
  s.header ++ (s.codes.getD []).lines

/-- Statistics as a record, with the codes in the given order. -/
def document (order : Histogram → Histogram) (s : Statistics) : Document :=
  .object ([("region", .text s.region), ("mode", .text s.mode.text), ("bytes", .number s.bytes),
    ("instructions", .number s.instructions), ("invalid", .number s.invalid)]
    ++ Document.fieldUnless (s.undecoded == 0) "undecoded" (.number s.undecoded)
    ++ [("codes",
      match s.codes with
      | none => .noObject
      | some codes => (order codes).document)])

/-- A list of statistics as records; an empty one was never made. -/
def documents (order : Histogram → Histogram) (stats : List Statistics) : Document :=
  if stats.isEmpty then .noList else .list (stats.map (document order))

/-- A report in a format. -/
def render (encoders : Encoders) (format : OutputFormat) (stats : List Statistics) : String :=
  match format with
  | .text => String.join (stats.map text)
  | .json => encoders.json (documents Histogram.byName stats)
  | .yaml => encoders.yaml (documents Histogram.byNumber stats)

end Statistics

end X86Decoder
