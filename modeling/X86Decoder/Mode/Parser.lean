import X86Decoder.Mode
import X86Decoder.Text.Blank
import X86Decoder.Text.Integer

/-!
# Reading a mode

A mode is written as its number of bits, with white space around it.
-/

namespace X86Decoder

/-- Why text is not a mode. -/
inductive ModeFault where
  /-- The text is not an integer. -/
  | notInteger (text : String)
  /-- No mode has that number of bits. -/
  | noSuchMode (text : String)
deriving DecidableEq

/-- What is said of a fault. -/
def ModeFault.message : ModeFault → String
  | notInteger text => "invalid mode " ++ Text.quoted text
  | noSuchMode text => "invalid mode " ++ Text.quoted text ++ ": must be 16, 32, or 64"

/-- Read a mode. -/
def Mode.parse (text : String) : Except ModeFault Mode :=
  match Text.parseInt (Text.trim text) with
  | .error _ => .error (.notInteger text)
  | .ok n =>
    match Mode.ofBits? n with
    | some mode => .ok mode
    | none => .error (.noSuchMode text)

end X86Decoder
