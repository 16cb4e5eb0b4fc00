import X86Decoder.Instruction.Document
import X86Decoder.Instruction.Text
import X86Decoder.OutputFormat
import X86Decoder.Sweep

/-!
# Listings

The findings of a sweep, as lines of text or as a list of records.
-/

namespace X86Decoder

/-- Why there is no listing. -/
inductive ListingFault where
  /-- There is no machine code. -/
  | empty
  | misuse (misuse : Misuse)
  | format (fault : FormatFault)
deriving DecidableEq

/-- What is said of a fault, if anything. -/
def ListingFault.message? : ListingFault → Option String
  | empty => some "no machine code"
  | misuse m => m.message?
  | format fault => some fault.message

/-- How every field of a value is shown. -/
structure Dumper where
  /-- Shows an instruction that has the given text. -/
  instruction : String → Instruction → String
  prefixes : PrefixState → String

namespace Finding

/-- A line with the instruction pointer in the width of the mode, the bytes, and the instruction. -/
def line (mode : Mode) (finding : Finding) : Except Misuse String := do
  let text ←
    match finding.outcome with
    | .ok inst => inst.text
    | .error _ => pure "(bad)"
  return Text.hexPadded (mode.bits / 4) finding.ip.toNat ++ "  "
    ++ Text.padRight 30 (Text.hexBytes finding.bytes) ++ "  " ++ text ++ "\n"

/-- The dump of the instruction, if there is one, and of the prefixes. -/
def dump (dumper : Dumper) (finding : Finding) : Except Misuse String := do
  let instruction ←
    match finding.outcome with
    | .ok inst => inst.text.map fun text => dumper.instruction text inst
    | .error _ => pure ""
  return instruction ++ dumper.prefixes finding.prefixes

/-- A finding as a document. -/
def document (finding : Finding) : Document :=
  .object ([("ip", .number finding.ip.toNat), ("bytes", .text (Text.hexBytes finding.bytes))]
    ++ match finding.outcome with
      | .ok inst => [("instruction", inst.document)]
      | .error e => [("error", .text e.message)])

end Finding

namespace Listing

/-- Findings as lines of text, each followed by its dump if dumps are wanted. -/
def text (dumper : Dumper) (mode : Mode) (dump : Bool) (findings : List Finding) :
    Except Misuse String := do
  let parts ← findings.mapM fun finding => do
    let line ← finding.line mode
    let more ← if dump then finding.dump dumper else pure ""
    return line ++ more
  return String.join parts

/-- Findings as a document. -/
def document (findings : List Finding) : Document :=
  .list (findings.map Finding.document)

/-- The listing of machine code in a format. Dumps are added to text only. -/
def render (encoders : Encoders) (dumper : Dumper) (mode : StatedMode) (ip : UInt64)
    (data : List UInt8) (format : String) (dump : Bool) : Except ListingFault String :=
  if data.isEmpty then .error .empty
  else
    match mode with
    | .other bits => .error (.misuse (.invalidMode bits.toNat))
    | .known mode =>
      let findings := sweep mode ip data
      match OutputFormat.parse format with
      | .error fault => .error (.format fault)
      | .ok .text => (text dumper mode dump findings).mapError .misuse
      | .ok .json => .ok (encoders.json (document findings))
      | .ok .yaml => .ok (encoders.yaml (document findings))

end Listing

end X86Decoder
